import SourceRegistry.Proofs.TagTable.Indexed
import SourceRegistry.Registry

/-!
What a registration stages.  The public asset types of a description, each under its tag, are its
offers.  Staging that finishes has staged exactly the offers, in order of declaration, and bound the
generated methods of each of them.
-/

set_option autoImplicit false
set_option relaxedAutoImplicit false

namespace SourceRegistry

/-- An asset type under its tag, if it is public and has one. -/
def AssetSpec.offer? (asset : AssetSpec) : Option (String × AssetSpec) :=
  if asset.isPrivate then none else asset.tag.map (·, asset)

namespace SourceSpec

def publicAssets (spec : SourceSpec) : List AssetSpec :=
  spec.assets.filter fun asset => !asset.isPrivate

def offers (spec : SourceSpec) : List (String × AssetSpec) :=
  spec.assets.filterMap AssetSpec.offer?

def assetEntries (spec : SourceSpec) : List (String × TypeIdent) :=
  spec.offers.map fun offer => (offer.1, offer.2.type)

def Tagged (spec : SourceSpec) : Prop := ∀ asset ∈ spec.publicAssets, asset.tag.isSome

/-- The declared methods and, on top of them, the generated ones of every offer in turn. -/
def methodTable (spec : SourceSpec) (ephemeral : String) (round : Nat) : Methods :=
  spec.offers.foldl
    (fun table offer => Method.bindGenerated spec offer.2 offer.1 ephemeral round table)
    spec.declared

theorem mem_offers_iff {spec : SourceSpec} {tag : String} {asset : AssetSpec} :
    (tag, asset) ∈ spec.offers ↔ asset ∈ spec.publicAssets ∧ asset.tag = some tag := by
  simp only [offers, publicAssets, AssetSpec.offer?, List.mem_filterMap, List.mem_filter]
  constructor
  · rintro ⟨declared, member, offered⟩
    split at offered
    · cases offered
    · rename_i isPublic
      obtain ⟨held, found, pair⟩ := Option.map_eq_some_iff.mp offered
      cases pair
      exact ⟨⟨member, by simpa using isPublic⟩, found⟩
  · rintro ⟨⟨member, isPublic⟩, found⟩
    refine ⟨asset, member, ?_⟩
    simp [found, show asset.isPrivate = false by simpa using isPublic]

theorem offers_eq_publicAssets {spec : SourceSpec} (tagged : spec.Tagged) :
    spec.offers.map (fun offer => (some offer.1, offer.2)) =
      spec.publicAssets.map fun asset => (asset.tag, asset) := by
  unfold Tagged publicAssets at tagged
  unfold offers publicAssets
  generalize spec.assets = assets at tagged
  induction assets with
  | nil => rfl
  | cons asset rest ih =>
      by_cases hidden : asset.isPrivate = true
      · have later := ih (by simpa [hidden] using tagged)
        simpa [AssetSpec.offer?, hidden] using later
      · have visible : asset.isPrivate = false := by simpa using hidden
        have both : asset.tag.isSome ∧
            ∀ other ∈ rest.filter (fun asset => !asset.isPrivate), other.tag.isSome := by
          simpa [visible] using tagged
        obtain ⟨tag, found⟩ := Option.isSome_iff_exists.mp both.1
        simpa [AssetSpec.offer?, visible, found] using ih both.2

end SourceSpec

namespace Staging

/-- Stages an offer without asking whether it is vacant. -/
def take (source : SourceSpec) (ephemeral : String) (round : Nat) (staging : Staging)
    (offer : String × AssetSpec) : Staging :=
  { assets :=
      { staging.assets with staged := staging.assets.staged.append offer.2.type offer.1 }
    methods := Method.bindGenerated source offer.2 offer.1 ephemeral round staging.methods }

variable {source : SourceSpec} {ephemeral : String} {round : Nat}

theorem stage_eq_ok_iff {staging staging' : Staging} {asset : AssetSpec} :
    stage source ephemeral round staging asset = .ok staging' ↔
      (asset.isPrivate = true ∧ staging' = staging) ∨
      (asset.isPrivate = false ∧ ∃ tag, asset.tag = some tag ∧
        staging.assets.base.checkVacant asset.type tag = .ok () ∧
        staging.assets.staged.checkVacant asset.type tag = .ok () ∧
        staging' = staging.take source ephemeral round (tag, asset)) := by
  unfold stage
  by_cases hidden : asset.isPrivate = true
  · simp [hidden, eq_comm]
  · have visible : asset.isPrivate = false := by simpa using hidden
    cases found : asset.tag with
    | none => simp [visible]
    | some tag =>
        cases outcome : staging.assets.set asset.type tag with
        | error cause =>
            have refused : ¬ (staging.assets.base.checkVacant asset.type tag = .ok () ∧
                staging.assets.staged.checkVacant asset.type tag = .ok ()) := by
              rintro ⟨committed, staged⟩
              have accepted := TagTable.Draft.set_eq_ok_iff.mpr ⟨committed, staged, rfl⟩
              rw [outcome] at accepted
              cases accepted
            simp only [visible, Bool.false_eq_true, ↓reduceIte, outcome, reduceCtorEq, false_and,
              Option.some.injEq, exists_eq_left', true_and, false_or, false_iff]
            exact fun accepted => refused ⟨accepted.1, accepted.2.1⟩
        | ok assets =>
            obtain ⟨committed, staged, rfl⟩ := TagTable.Draft.set_eq_ok_iff.mp outcome
            simp [visible, outcome, committed, staged, take, eq_comm]

theorem foldlM_stage_eq_ok {assets : List AssetSpec} {staging staging' : Staging}
    (accepted : assets.foldlM (stage source ephemeral round) staging = .ok staging')
    (indexed : staging.assets.staged.Indexed) :
    staging' = (assets.filterMap AssetSpec.offer?).foldl (take source ephemeral round) staging ∧
      staging'.assets.staged.Indexed ∧
      ∀ asset ∈ assets, asset.isPrivate = false → asset.tag.isSome := by
  -- staging a list takes the offers of the list in order, after finding each of them tagged; the
  -- staged table stays indexed because every entry was vacant when it came in
  induction assets generalizing staging with
  | nil =>
      obtain rfl : staging = staging' := by simpa [pure, Except.pure] using accepted
      exact ⟨rfl, indexed, by simp⟩
  | cons asset rest ih =>
      simp only [List.foldlM_cons] at accepted
      cases first : stage source ephemeral round staging asset with
      | error cause => simp [first, bind, Except.bind] at accepted
      | ok middle =>
          have remaining : rest.foldlM (stage source ephemeral round) middle = .ok staging' := by
            simpa [first, bind, Except.bind] using accepted
          rcases stage_eq_ok_iff.mp first with ⟨hidden, rfl⟩ | ⟨visible, tag, found, -, vacant, rfl⟩
          · obtain ⟨equal, kept, tagged⟩ := ih remaining indexed
            refine ⟨by simpa [AssetSpec.offer?, hidden] using equal, kept, ?_⟩
            intro other member isPublic
            rcases List.mem_cons.mp member with rfl | later
            · simp [hidden] at isPublic
            · exact tagged other later isPublic
          · obtain ⟨equal, kept, tagged⟩ := ih remaining (indexed.append_of_vacant vacant)
            refine ⟨by simpa [AssetSpec.offer?, visible, found] using equal, kept, ?_⟩
            intro other member isPublic
            rcases List.mem_cons.mp member with rfl | later
            · simp [found]
            · exact tagged other later isPublic

theorem foldl_take (offers : List (String × AssetSpec)) (staging : Staging) :
    offers.foldl (take source ephemeral round) staging =
      { assets :=
          { staging.assets with
            staged := (offers.map fun offer => (offer.1, offer.2.type)).foldl
              (fun table entry => table.append entry.2 entry.1) staging.assets.staged }
        methods := offers.foldl
          (fun table offer => Method.bindGenerated source offer.2 offer.1 ephemeral round table)
          staging.methods } := by
  induction offers generalizing staging with
  | nil => rfl
  | cons offer rest ih =>
      simp only [List.foldl_cons, List.map_cons]
      rw [ih]
      rfl

theorem ofSpec_eq_ok {known : TagTable} {staging : Staging}
    (accepted : ofSpec source ephemeral round known = .ok staging) :
    staging =
      { assets := { base := known, staged := TagTable.ofEntries source.assetEntries }
        methods := source.methodTable ephemeral round } ∧
      (TagTable.ofEntries source.assetEntries).Indexed ∧ source.Tagged := by
  obtain ⟨equal, indexed, tagged⟩ :=
    foldlM_stage_eq_ok accepted TagTable.Indexed.empty
  rw [foldl_take] at equal
  subst equal
  refine ⟨rfl, indexed, ?_⟩
  intro asset member
  obtain ⟨declared, isPublic⟩ := List.mem_filter.mp member
  exact tagged asset declared (by simpa using isPublic)

end Staging

end SourceRegistry
