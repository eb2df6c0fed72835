import SourceRegistry.Proofs.Registration.Fault
import SourceRegistry.Proofs.Registration.Run

/-!
The outcome of a registration.  It is decided by the first check that applies, and every check can be
read off the committed entries and bindings.  In a registry that was reached by registrations the
check of the datasource type never finds its tag taken: under such a tag the factory name is bound,
and that is looked at before.
-/

set_option autoImplicit false
set_option relaxedAutoImplicit false

namespace SourceRegistry

open AssetSpec (Faultless FirstFault)

variable {σ : Type}

def Catalog.assetEntries (c : Catalog σ) (type : TypeIdent) : List (String × TypeIdent) :=
  ((c.assetsOf? type).getD {}).entries

namespace Registry

/-- The policy lets repeats pass, and the name is bound for the same type, with both factories
derived or both one function object. -/
def Again (r : Registry σ) (reg : Registration σ) : Prop :=
  r.settings.repeats = .ignoreIdentical ∧ ∃ bound, r.binding? reg.factoryName = some bound ∧
    bound.type.same reg.spec.type = true ∧
    ((bound.derived = true ∧ reg.derived = true) ∨ bound.factory.id = reg.factory.id)

/-- The outcome of a registration and the registry after it, by the first check that applies. -/
inductive Verdict (r : Registry σ) (reg : Registration σ) :
    Except RegistrationError Unit → Registry σ → Prop
  | untagged (empty : reg.spec.tag = "") :
      Verdict r reg (.error (.untagged reg.spec.type.name)) r
  | again (tagged : reg.spec.tag ≠ "") (again : r.Again reg) : Verdict r reg (.ok ()) r
  | nameTaken (tagged : reg.spec.tag ≠ "") (other : ¬ r.Again reg)
      (bound : (r.binding? reg.factoryName).isSome) :
      Verdict r reg (.error (.factoryExists reg.spec.tag reg.factoryName)) r
  | badAsset {asset : AssetSpec} {cause : AssetSpecError} (tagged : reg.spec.tag ≠ "")
      (free : r.binding? reg.factoryName = none)
      (fault : FirstFault (r.catalog.assetEntries reg.spec.type) reg.spec.assets asset cause) :
      Verdict r reg (.error (.badAsset reg.spec.type.name asset.type.name cause)) r
  | typeTaken {other : String} {held : TypeIdent} (tagged : reg.spec.tag ≠ "")
      (free : r.binding? reg.factoryName = none)
      (faultless : Faultless (r.catalog.assetEntries reg.spec.type) reg.spec.assets)
      (taken : (other, held) ∈ r.catalog.sources.entries)
      (same : held.same reg.spec.type = true) (another : other ≠ reg.spec.tag) :
      Verdict r reg
        (.error (.conflict reg.spec.type.name reg.spec.tag (.typeTaken reg.spec.type other))) r
  | committed (tagged : reg.spec.tag ≠ "") (free : r.binding? reg.factoryName = none)
      (faultless : Faultless (r.catalog.assetEntries reg.spec.type) reg.spec.assets)
      (newType : ∀ entry ∈ r.catalog.sources.entries, entry.2.same reg.spec.type = false) :
      Verdict r reg (.ok ()) (r.extend reg)

variable {start r r' : Registry σ} {log : List (Registration σ)} {reg : Registration σ}
  {error : RegistrationError} {outcome : Except RegistrationError Unit}

theorem attempt_of_untagged (empty : reg.spec.tag = "") :
    r.attempt reg = (.error (.untagged reg.spec.type.name), r) := by
  simp [attempt, register, empty]

theorem attempt_of_bound {bound : Binding σ} (tagged : reg.spec.tag ≠ "")
    (found : r.binding? reg.factoryName = some bound) :
    r.attempt reg =
      (if r.settings.repeats = .ignoreIdentical ∧ repeats bound reg = true then .ok ()
        else .error (.factoryExists reg.spec.tag reg.factoryName), r) := by
  unfold Registration.factoryName at found ⊢
  simp only [attempt, register, tagged, ↓reduceIte, found]
  by_cases repeated : r.settings.repeats = .ignoreIdentical ∧ repeats bound reg = true <;>
    simp [repeated]

theorem attempt_of_commit_eq_error (tagged : reg.spec.tag ≠ "")
    (free : r.binding? reg.factoryName = none) (failed : r.commit reg = .error error) :
    r.attempt reg = (.error error, r) := by
  unfold Registration.factoryName at free
  simp [attempt, register, tagged, free, failed, bind, Except.bind]

theorem commit_eq_error_iff_ofSpec :
    r.commit reg = .error error ↔
      Staging.ofSpec reg.spec r.settings.ephemeralAsset r.round
          ((r.catalog.assetsOf? reg.spec.type).getD {}) = .error error ∨
        (∃ staging, Staging.ofSpec reg.spec r.settings.ephemeralAsset r.round
          ((r.catalog.assetsOf? reg.spec.type).getD {}) = .ok staging) ∧
        ∃ cause, r.catalog.sources.draft.set reg.spec.type reg.spec.tag = .error cause ∧
          error = .conflict reg.spec.type.name reg.spec.tag cause := by
  unfold commit
  cases staged : Staging.ofSpec reg.spec r.settings.ephemeralAsset r.round
      ((r.catalog.assetsOf? reg.spec.type).getD {}) with
  | error other => simp [staged, bind, Except.bind]
  | ok staging =>
      cases opened : r.catalog.sources.draft.set reg.spec.type reg.spec.tag with
      | error cause => simp [staged, opened, bind, Except.bind, eq_comm]
      | ok draft => simp [staged, opened, bind, Except.bind, pure, Except.pure]

theorem Admits.newType_entries (admitted : r.Admits reg) :
    ∀ entry ∈ r.catalog.sources.entries, entry.2.same reg.spec.type = false := by
  intro entry member
  have unlisted := admitted.newType
  simp only [TagTable.numbers, List.mem_map, not_exists, not_and] at unlisted
  simpa [TypeIdent.same] using unlisted entry member

namespace AccountedBy

theorem indexed_assets (accounted : r.AccountedBy log) (type : TypeIdent) :
    ((r.catalog.assetsOf? type).getD {}).Indexed := by
  rw [accounted.assets type]
  cases found : log.find? (fun old => old.spec.type.same type) with
  | none => exact TagTable.Indexed.empty
  | some old => exact (accounted.valid old (List.mem_of_find?_eq_some found)).2.2

theorem newTag_of_free (accounted : r.AccountedBy log)
    (free : r.binding? reg.factoryName = none) :
    ∀ entry ∈ r.catalog.sources.entries, entry.1 ≠ reg.spec.tag := by
  intro entry member equal
  rw [accounted.sourceEntries] at member
  obtain ⟨old, logged, rfl⟩ := List.mem_map.mp member
  obtain ⟨round, here⟩ := List.mem_iff_getElem?.mp logged
  have name : old.factoryName = reg.factoryName := factoryName_inj.mpr equal
  have bound := accounted.binding?_eq_some_iff.mpr ⟨round, old, here, name, rfl⟩
  rw [free] at bound
  cases bound

theorem tag_of_bound (accounted : r.AccountedBy log) {bound : Binding σ}
    (found : r.binding? reg.factoryName = some bound) : bound.tag = reg.spec.tag := by
  obtain ⟨round, old, -, name, rfl⟩ := accounted.binding?_eq_some_iff.mp found
  exact factoryName_inj.mp name

theorem again_iff_of_bound (accounted : r.AccountedBy log) {bound : Binding σ}
    (found : r.binding? reg.factoryName = some bound) :
    r.Again reg ↔ r.settings.repeats = .ignoreIdentical ∧ repeats bound reg = true := by
  simp [Again, found, repeats, accounted.tag_of_bound found]

theorem commit_eq_error_iff (accounted : r.AccountedBy log)
    (free : r.binding? reg.factoryName = none) :
    r.commit reg = .error error ↔
      (∃ asset cause,
        FirstFault (r.catalog.assetEntries reg.spec.type) reg.spec.assets asset cause ∧
          error = .badAsset reg.spec.type.name asset.type.name cause) ∨
      (Faultless (r.catalog.assetEntries reg.spec.type) reg.spec.assets ∧
        ∃ other held, (other, held) ∈ r.catalog.sources.entries ∧
          held.same reg.spec.type = true ∧
          error = .conflict reg.spec.type.name reg.spec.tag (.typeTaken reg.spec.type other)) := by
  have known := accounted.indexed_assets reg.spec.type
  have newTag := accounted.newTag_of_free free
  have opened (cause : TagError) :
      r.catalog.sources.draft.set reg.spec.type reg.spec.tag = .error cause ↔
        TagTable.Conflict r.catalog.sources.entries reg.spec.type reg.spec.tag cause ∨
          TagTable.Vacant r.catalog.sources.entries reg.spec.type reg.spec.tag ∧
            TagTable.Conflict [] reg.spec.type reg.spec.tag cause :=
    TagTable.Draft.set_eq_error_iff accounted.indexed TagTable.Indexed.empty
  rw [commit_eq_error_iff_ofSpec, Staging.ofSpec_eq_error_iff known,
    Staging.exists_ofSpec_iff known]
  refine or_congr Iff.rfl (and_congr Iff.rfl ?_)
  constructor
  · rintro ⟨cause, refused, rfl⟩
    rcases (opened cause).mp refused with conflict | ⟨-, conflict⟩
    · cases conflict with
      | tag taken => exact absurd rfl (newTag _ taken)
      | @type other held _ taken same => exact ⟨other, held, taken, same, rfl⟩
    · -- nothing is staged over the datasource types yet
      cases conflict with
      | tag taken => cases taken
      | type _ taken => cases taken
  · rintro ⟨other, held, taken, same, rfl⟩
    exact ⟨_, (opened _).mpr (.inl (.type newTag taken same)), rfl⟩

theorem faultless_of_commit (accounted : r.AccountedBy log) {catalog : Catalog σ}
    (committed : r.commit reg = .ok catalog) :
    Faultless (r.catalog.assetEntries reg.spec.type) reg.spec.assets := by
  unfold Catalog.assetEntries
  rw [← Staging.exists_ofSpec_iff (accounted.indexed_assets reg.spec.type)]
  cases staged : Staging.ofSpec reg.spec r.settings.ephemeralAsset r.round
      ((r.catalog.assetsOf? reg.spec.type).getD {}) with
  | ok staging => exact ⟨staging, rfl⟩
  | error other =>
      have failed := commit_eq_error_iff_ofSpec.mpr (.inl staged)
      rw [committed] at failed
      cases failed

theorem verdict_attempt (accounted : r.AccountedBy log) (reg : Registration σ) :
    r.Verdict reg (r.attempt reg).1 (r.attempt reg).2 := by
  by_cases tagged : reg.spec.tag = ""
  · rw [attempt_of_untagged tagged]
    exact .untagged tagged
  · cases found : r.binding? reg.factoryName with
    | some bound =>
        rw [attempt_of_bound tagged found]
        split
        · rename_i repeated
          exact .again tagged ((accounted.again_iff_of_bound found).mpr repeated)
        · rename_i different
          refine .nameTaken tagged ?_ (by rw [found]; rfl)
          rwa [accounted.again_iff_of_bound found]
    | none =>
        cases committed : r.commit reg with
        | error error =>
            rw [attempt_of_commit_eq_error tagged found committed]
            rcases (accounted.commit_eq_error_iff found).mp committed with
              ⟨asset, cause, fault, rfl⟩ | ⟨faultless, other, held, taken, same, rfl⟩
            · exact .badAsset tagged found fault
            · exact .typeTaken tagged found faultless taken same
                (accounted.newTag_of_free found _ taken)
        | ok catalog =>
            have accepted := (register_of_free found).mpr ⟨tagged, catalog, committed, rfl⟩
            rw [attempt_eq_of_ok accepted]
            rcases accounted.register_cases accepted with ⟨bound, taken, -⟩ | ⟨admitted, equal⟩
            · rw [found] at taken
              cases taken
            · rw [equal]
              exact .committed tagged found (accounted.faultless_of_commit committed)
                admitted.newType_entries

theorem attempt_of_verdict (accounted : r.AccountedBy log) (verdict : r.Verdict reg outcome r') :
    r.attempt reg = (outcome, r') := by
  cases verdict with
  | untagged empty => exact attempt_of_untagged empty
  | again tagged again =>
      obtain ⟨bound, found, -⟩ := again.2
      rw [attempt_of_bound tagged found, if_pos ((accounted.again_iff_of_bound found).mp again)]
  | nameTaken tagged other bound =>
      obtain ⟨binding, found⟩ := Option.isSome_iff_exists.mp bound
      rw [accounted.again_iff_of_bound found] at other
      rw [attempt_of_bound tagged found, if_neg other]
  | badAsset tagged free fault =>
      exact attempt_of_commit_eq_error tagged free
        ((accounted.commit_eq_error_iff free).mpr (.inl ⟨_, _, fault, rfl⟩))
  | typeTaken tagged free faultless taken same =>
      exact attempt_of_commit_eq_error tagged free
        ((accounted.commit_eq_error_iff free).mpr (.inr ⟨faultless, _, _, taken, same, rfl⟩))
  | committed tagged free faultless newType =>
      cases committed : r.commit reg with
      | error error =>
          rcases (accounted.commit_eq_error_iff free).mp committed with
            ⟨asset, cause, fault, -⟩ | ⟨-, other, held, taken, same, -⟩
          · exact absurd faultless fault.not_faultless
          · have apart := newType _ taken
            rw [same] at apart
            cases apart
      | ok catalog =>
          have accepted := (register_of_free free).mpr ⟨tagged, catalog, committed, rfl⟩
          rw [attempt_eq_of_ok accepted]
          rcases accounted.register_cases accepted with ⟨bound, taken, -⟩ | ⟨-, equal⟩
          · rw [free] at taken
            cases taken
          · rw [equal]

end AccountedBy

/-- In a registry that was reached by registrations the outcome of another one, and the registry after
it, are those of the first check that applies.  A datasource type is never refused because its tag is
taken. -/
theorem attempt_eq_iff_verdict (fresh : start.Fresh) (grown : Grows start log r)
    (reg : Registration σ) :
    (∀ (outcome : Except RegistrationError Unit) (r' : Registry σ),
      r.attempt reg = (outcome, r') ↔ r.Verdict reg outcome r') ∧
    ∀ (source tag taken : String) (holder : TypeIdent),
      (r.attempt reg).1 ≠ .error (.conflict source tag (.tagTaken taken holder)) := by
  have accounted : r.AccountedBy log := by simpa using fresh.accountedBy_nil.grows grown
  have verdict := accounted.verdict_attempt reg
  refine ⟨fun outcome r' => ⟨?_, accounted.attempt_of_verdict⟩, ?_⟩
  · intro equal
    rwa [equal] at verdict
  · intro source tag taken holder refused
    rw [refused] at verdict
    cases verdict

theorem attempt_eq_iff_verdict_moved :
    let reg := Samples.numbered ["_PrivateFileAsset", "FileAsset"] []
    let r := (Samples.lenient.attempt reg).2
    let moved := { reg with spec := { reg.spec with tag := "beta" } }
    r.factories = ["add_alpha"] ∧
      (r.attempt moved).1 = .error (.badAsset "Numbered0" "FileAsset"
        (.conflict (.tagTaken "file" { number := 64, name := "FileAsset" }))) ∧
      (∀ (outcome : Except RegistrationError Unit) (r' : Registry Samples.SampleSource),
        r.attempt moved = (outcome, r') ↔ r.Verdict moved outcome r') ∧
      ∀ (source tag taken : String) (holder : TypeIdent),
        (r.attempt moved).1 ≠ .error (.conflict source tag (.tagTaken taken holder)) := by
  intro reg r moved
  have grown := Grows.single Samples.lenient reg
  exact ⟨by decide +kernel, by decide +kernel,
    attempt_eq_iff_verdict Samples.fresh_lenient grown moved⟩

end Registry

end SourceRegistry
