import SourceRegistry.Proofs.TagTable.Conflict
import SourceRegistry.Proofs.Registration.Staging

/-!
Faults of asset types.  A list of asset types is staged in full exactly if none of its public members
is at fault after those in front of it; else the first one that is at fault decides the error.
-/

set_option autoImplicit false
set_option relaxedAutoImplicit false

namespace SourceRegistry

open TagTable (Vacant Conflict)

namespace AssetSpec

def entriesOf (assets : List AssetSpec) : List (String × TypeIdent) :=
  (assets.filterMap AssetSpec.offer?).map fun offer => (offer.1, offer.2.type)

/-- Why an asset type is refused: it has no tag, or it conflicts with a committed entry, or else with
an earlier one of its list. -/
inductive Fault (committed earlier : List (String × TypeIdent)) (asset : AssetSpec) :
    AssetSpecError → Prop
  | untagged (missing : asset.declaredTag = none ∨ asset.declaredTag = some "") :
      Fault committed earlier asset (.untagged asset.type.name)
  | committed {tag : String} {cause : TagError} (tagged : asset.tag = some tag)
      (conflict : Conflict committed asset.type tag cause) :
      Fault committed earlier asset (.conflict cause)
  | earlier {tag : String} {cause : TagError} (tagged : asset.tag = some tag)
      (vacant : Vacant committed asset.type tag)
      (conflict : Conflict earlier asset.type tag cause) :
      Fault committed earlier asset (.conflict cause)

def Faultless (committed : List (String × TypeIdent)) (assets : List AssetSpec) : Prop :=
  ∀ (front : List AssetSpec) (asset : AssetSpec) (rest : List AssetSpec),
    assets = front ++ asset :: rest → asset.isPrivate = false →
      ∀ cause, ¬ asset.Fault committed (entriesOf front) cause

def FirstFault (committed : List (String × TypeIdent)) (assets : List AssetSpec)
    (asset : AssetSpec) (cause : AssetSpecError) : Prop :=
  ∃ front rest : List AssetSpec, assets = front ++ asset :: rest ∧ Faultless committed front ∧
    asset.isPrivate = false ∧ asset.Fault committed (entriesOf front) cause

variable {committed : List (String × TypeIdent)} {assets : List AssetSpec} {asset : AssetSpec}

theorem tag_eq_none_iff :
    asset.tag = none ↔ asset.declaredTag = none ∨ asset.declaredTag = some "" := by
  unfold tag
  cases asset.declaredTag <;> simp

theorem fault_iff_of_untagged {earlier : List (String × TypeIdent)} {cause : AssetSpecError}
    (missing : asset.tag = none) :
    asset.Fault committed earlier cause ↔ cause = .untagged asset.type.name := by
  constructor
  · intro fault
    cases fault with
    | untagged => rfl
    | committed tagged => rw [missing] at tagged; cases tagged
    | earlier tagged => rw [missing] at tagged; cases tagged
  · rintro rfl
    exact .untagged (tag_eq_none_iff.mp missing)

theorem fault_iff_of_tagged {earlier : List (String × TypeIdent)} {cause : AssetSpecError}
    {tag : String} (tagged : asset.tag = some tag) :
    asset.Fault committed earlier cause ↔ ∃ conflict, cause = .conflict conflict ∧
      (Conflict committed asset.type tag conflict ∨
        (Vacant committed asset.type tag ∧ Conflict earlier asset.type tag conflict)) := by
  constructor
  · intro fault
    cases fault with
    | untagged missing =>
        rw [← tag_eq_none_iff, tagged] at missing
        cases missing
    | committed same conflict =>
        rw [tagged] at same
        cases same
        exact ⟨_, rfl, .inl conflict⟩
    | earlier same vacant conflict =>
        rw [tagged] at same
        cases same
        exact ⟨_, rfl, .inr ⟨vacant, conflict⟩⟩
  · rintro ⟨conflict, rfl, opposed | ⟨vacant, opposed⟩⟩
    · exact .committed tagged opposed
    · exact .earlier tagged vacant opposed

theorem faultless_nil : Faultless committed [] := by
  intro front asset rest split
  simp at split

theorem faultless_concat :
    Faultless committed (assets ++ [asset]) ↔ Faultless committed assets ∧
      (asset.isPrivate = false → ∀ cause, ¬ asset.Fault committed (entriesOf assets) cause) := by
  constructor
  · intro faultless
    constructor
    · intro front other rest split
      exact faultless front other (rest ++ [asset]) (by rw [split]; simp)
    · exact faultless assets asset [] rfl
  · rintro ⟨earlier, last⟩ front other rest split
    rcases List.eq_nil_or_concat rest with rfl | ⟨rest', final, rfl⟩
    · obtain ⟨rfl, same⟩ := List.append_inj' split rfl
      obtain rfl : asset = other := by simpa using same
      exact last
    · have regrouped : assets ++ [asset] = (front ++ other :: rest') ++ [final] := by
        rw [split]
        simp
      exact earlier front other rest' (List.append_inj' regrouped rfl).1

theorem FirstFault.not_faultless {cause : AssetSpecError}
    (fault : FirstFault committed assets asset cause) : ¬ Faultless committed assets := by
  obtain ⟨front, rest, split, -, visible, opposed⟩ := fault
  intro faultless
  exact faultless front asset rest split visible cause opposed

end AssetSpec

namespace Staging

open AssetSpec (entriesOf Faultless FirstFault)

variable {source : SourceSpec} {ephemeral : String} {round : Nat} {known : TagTable}
  {methods : Methods} {assets : List AssetSpec} {error : RegistrationError}

theorem stage_eq_error_iff {staging : Staging} {asset : AssetSpec}
    (base : staging.assets.base.Indexed) (staged : staging.assets.staged.Indexed) :
    stage source ephemeral round staging asset = .error error ↔
      asset.isPrivate = false ∧ ∃ cause,
        asset.Fault staging.assets.base.entries staging.assets.staged.entries cause ∧
          error = .badAsset source.type.name asset.type.name cause := by
  unfold stage
  by_cases hidden : asset.isPrivate = true
  · simp [hidden]
  · have visible : asset.isPrivate = false := by simpa using hidden
    simp only [visible, Bool.false_eq_true, ↓reduceIte, true_and]
    cases tagged : asset.tag with
    | none => simp [AssetSpec.fault_iff_of_untagged tagged, eq_comm]
    | some tag =>
        simp only [AssetSpec.fault_iff_of_tagged tagged,
          ← TagTable.Draft.set_eq_error_iff base staged]
        cases outcome : staging.assets.set asset.type tag with
        | error conflict => simp [eq_comm]
        | ok draft => simp

theorem assets_of_foldlM_stage {staging : Staging}
    (accepted : assets.foldlM (stage source ephemeral round) { assets := known.draft, methods } =
      .ok staging) :
    staging.assets = { base := known, staged := TagTable.ofEntries (entriesOf assets) } ∧
      (TagTable.ofEntries (entriesOf assets)).Indexed := by
  obtain ⟨equal, indexed, -⟩ := foldlM_stage_eq_ok accepted TagTable.Indexed.empty
  rw [foldl_take] at equal
  subst equal
  exact ⟨rfl, indexed⟩

theorem stage_concat_eq_error_iff (indexed : known.Indexed) {staging : Staging} {asset : AssetSpec}
    (accepted : assets.foldlM (stage source ephemeral round) { assets := known.draft, methods } =
      .ok staging) :
    stage source ephemeral round staging asset = .error error ↔
      asset.isPrivate = false ∧ ∃ cause, asset.Fault known.entries (entriesOf assets) cause ∧
        error = .badAsset source.type.name asset.type.name cause := by
  obtain ⟨equal, staged⟩ := assets_of_foldlM_stage accepted
  have layers : staging.assets.base.Indexed ∧ staging.assets.staged.Indexed := by
    rw [equal]
    exact ⟨indexed, staged⟩
  rw [stage_eq_error_iff layers.1 layers.2, equal, TagTable.entries_ofEntries]

theorem exists_foldlM_stage_iff (indexed : known.Indexed) :
    (∃ staging, assets.foldlM (stage source ephemeral round) { assets := known.draft, methods } =
      .ok staging) ↔ Faultless known.entries assets := by
  induction assets using List.reverseRecOn with
  | nil => exact ⟨fun _ => AssetSpec.faultless_nil, fun _ => ⟨_, rfl⟩⟩
  | append_singleton front asset ih =>
      rw [AssetSpec.faultless_concat, ← ih, List.foldlM_append]
      simp only [List.foldlM_cons, List.foldlM_nil, bind_pure]
      cases reached : front.foldlM (stage source ephemeral round)
          { assets := known.draft, methods } with
      | error other => simp [bind, Except.bind]
      | ok middle =>
          simp only [bind, Except.bind, Except.ok.injEq, exists_eq', true_and]
          cases outcome : stage source ephemeral round middle asset with
          | error other =>
              obtain ⟨visible, cause, fault, -⟩ :=
                (stage_concat_eq_error_iff indexed reached).mp outcome
              simp only [reduceCtorEq, exists_false, false_iff]
              exact fun last => last visible cause fault
          | ok last =>
              simp only [Except.ok.injEq, exists_eq', true_iff]
              intro visible cause fault
              have refused := (stage_concat_eq_error_iff indexed reached).mpr
                ⟨visible, cause, fault, rfl⟩
              rw [outcome] at refused
              cases refused

private theorem foldlM_eq_error_iff {α β ε : Type} {f : β → α → Except ε β} {xs : List α} {s : β}
    {e : ε} :
    xs.foldlM f s = .error e ↔ ∃ (front : List α) (x : α) (rest : List α) (s' : β),
      xs = front ++ x :: rest ∧ front.foldlM f s = .ok s' ∧ f s' x = .error e := by
  constructor
  · intro failed
    induction xs generalizing s with
    | nil => simp [pure, Except.pure] at failed
    | cons x xs ih =>
        rw [List.foldlM_cons] at failed
        cases head : f s x with
        | error other =>
            obtain rfl : other = e := by simpa [head, bind, Except.bind] using failed
            exact ⟨[], x, xs, s, rfl, rfl, head⟩
        | ok middle =>
            obtain ⟨front, y, rest, s', rfl, reached, refused⟩ :=
              ih (s := middle) (by simpa [head, bind, Except.bind] using failed)
            refine ⟨x :: front, y, rest, s', rfl, ?_, refused⟩
            simpa [head, bind, Except.bind] using reached
  · rintro ⟨front, x, rest, s', rfl, reached, refused⟩
    simp [List.foldlM_append, reached, refused, bind, Except.bind]

theorem ofSpec_eq_error_iff (indexed : known.Indexed) :
    ofSpec source ephemeral round known = .error error ↔
      ∃ asset cause, FirstFault known.entries source.assets asset cause ∧
        error = .badAsset source.type.name asset.type.name cause := by
  unfold ofSpec FirstFault
  rw [foldlM_eq_error_iff]
  constructor
  · rintro ⟨front, asset, rest, middle, split, reached, refused⟩
    obtain ⟨visible, cause, fault, rfl⟩ := (stage_concat_eq_error_iff indexed reached).mp refused
    have faultless := (exists_foldlM_stage_iff indexed).mp ⟨middle, reached⟩
    exact ⟨asset, cause, ⟨front, rest, split, faultless, visible, fault⟩, rfl⟩
  · rintro ⟨asset, cause, ⟨front, rest, split, faultless, visible, fault⟩, rfl⟩
    obtain ⟨middle, reached⟩ := (exists_foldlM_stage_iff indexed).mpr faultless
    have refused := (stage_concat_eq_error_iff indexed reached).mpr ⟨visible, cause, fault, rfl⟩
    exact ⟨front, asset, rest, middle, split, reached, refused⟩

theorem exists_ofSpec_iff (indexed : known.Indexed) :
    (∃ staging, ofSpec source ephemeral round known = .ok staging) ↔
      Faultless known.entries source.assets :=
  exists_foldlM_stage_iff indexed

end Staging

end SourceRegistry
