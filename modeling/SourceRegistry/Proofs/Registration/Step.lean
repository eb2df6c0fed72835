import SourceRegistry.Proofs.Registration.Staging

/-!
One registration as a step of a registry.  The step either leaves the registry as it is, because
the registration was refused or repeats one that is committed, or commits the registration.
-/

set_option autoImplicit false
set_option relaxedAutoImplicit false

namespace SourceRegistry

variable {σ : Type}

theorem factoryName_inj {tag other : String} : factoryName tag = factoryName other ↔ tag = other := by
  simp [factoryName, toString]

namespace Registration

def entry (reg : Registration σ) : String × TypeIdent := (reg.spec.tag, reg.spec.type)

def factoryName (reg : Registration σ) : String := SourceRegistry.factoryName reg.spec.tag

def bindingAt (reg : Registration σ) (ephemeral : String) (round : Nat) : Binding σ :=
  { name := reg.factoryName
    tag := reg.spec.tag
    type := reg.spec.type
    factory := reg.factory
    derived := reg.derived
    methods := reg.spec.methodTable ephemeral round
    signature := reg.spec.factorySignature }

end Registration

namespace Registry

/-- Tries a registration: its outcome, and the registry after it. -/
def attempt (r : Registry σ) (reg : Registration σ) :
    Except RegistrationError Unit × Registry σ :=
  match r.register reg with
  | .ok r' => (.ok (), r')
  | .error cause => (.error cause, r)

/-- The registration, if it is accepted and a factory comes in. -/
def added (r : Registry σ) (reg : Registration σ) : List (Registration σ) :=
  match r.register reg with
  | .ok r' => if r'.factories = r.factories then [] else [reg]
  | .error _ => []

def nextBinding (r : Registry σ) (reg : Registration σ) : Binding σ :=
  reg.bindingAt r.settings.ephemeralAsset r.round

def extend (r : Registry σ) (reg : Registration σ) : Registry σ :=
  { r with
    catalog :=
      { sources := r.catalog.sources.append reg.spec.type reg.spec.tag
        assets := r.catalog.assets.insert reg.spec.type.number
          (TagTable.ofEntries reg.spec.assetEntries)
        factories := r.catalog.factories.put reg.factoryName (r.nextBinding reg) } }

variable {r r' : Registry σ} {reg : Registration σ}

theorem binding?_extend (r : Registry σ) (reg : Registration σ) (name : String) :
    (r.extend reg).binding? name =
      if name = reg.factoryName then some (r.nextBinding reg) else r.binding? name :=
  NamedList.get?_put _ _ _ _

theorem commit_eq_ok {catalog : Catalog σ} (accepted : r.commit reg = .ok catalog) :
    reg.spec.Tagged ∧ (TagTable.ofEntries reg.spec.assetEntries).Indexed ∧
      r.catalog.sources.checkVacant reg.spec.type reg.spec.tag = .ok () ∧
      catalog =
        { sources := r.catalog.sources.append reg.spec.type reg.spec.tag
          assets := r.catalog.assets.insert reg.spec.type.number
            { base := (r.catalog.assetsOf? reg.spec.type).getD {}
              staged := TagTable.ofEntries reg.spec.assetEntries : TagTable.Draft }.commit
          factories := r.catalog.factories.put reg.factoryName (r.nextBinding reg) } := by
  unfold commit at accepted
  cases staged : Staging.ofSpec reg.spec r.settings.ephemeralAsset r.round
      ((r.catalog.assetsOf? reg.spec.type).getD {}) with
  | error cause => simp [staged, bind, Except.bind] at accepted
  | ok staging =>
      obtain ⟨rfl, indexed, tagged⟩ := Staging.ofSpec_eq_ok staged
      cases opened : r.catalog.sources.draft.set reg.spec.type reg.spec.tag with
      | error cause => simp [staged, opened, bind, Except.bind] at accepted
      | ok draft =>
          obtain ⟨vacant, -, rfl⟩ := TagTable.Draft.set_eq_ok_iff.mp opened
          simp only [staged, opened, bind, Except.bind, pure, Except.pure,
            Except.ok.injEq] at accepted
          exact ⟨tagged, indexed, vacant, accepted.symm⟩

/-- A registration under a bound name is accepted exactly as a repeat, and then nothing changes. -/
theorem register_of_bound {bound : Binding σ}
    (found : r.binding? reg.factoryName = some bound) :
    r.register reg = .ok r' ↔
      reg.spec.tag ≠ "" ∧ r.settings.repeats = .ignoreIdentical ∧
        repeats bound reg = true ∧ r' = r := by
  unfold Registration.factoryName at found
  unfold register
  by_cases untagged : reg.spec.tag = ""
  · simp [untagged]
  · by_cases repeated : r.settings.repeats = .ignoreIdentical ∧ repeats bound reg = true
    · simp [untagged, found, repeated, eq_comm]
    · simp only [untagged, ↓reduceIte, found, repeated, reduceCtorEq, false_iff]
      rintro ⟨-, policy, same, -⟩
      exact repeated ⟨policy, same⟩

theorem register_of_free (free : r.binding? reg.factoryName = none) :
    r.register reg = .ok r' ↔
      reg.spec.tag ≠ "" ∧ ∃ catalog, r.commit reg = .ok catalog ∧ r' = { r with catalog } := by
  unfold Registration.factoryName at free
  unfold register
  by_cases untagged : reg.spec.tag = ""
  · simp [untagged]
  · cases outcome : r.commit reg with
    | error cause => simp [untagged, free, bind, Except.bind]
    | ok catalog =>
        simp [untagged, free, bind, Except.bind, pure, Except.pure, eq_comm]

theorem binding?_attempt_of_added (added : r.added reg ≠ []) :
    r.binding? reg.factoryName = none ∧
      (r.attempt reg).2.binding? reg.factoryName = some (r.nextBinding reg) ∧
      reg.spec.Tagged ∧ (TagTable.ofEntries reg.spec.assetEntries).Indexed := by
  unfold Registry.added at added
  cases outcome : r.register reg with
  | error cause => simp [outcome] at added
  | ok r' =>
      cases found : r.binding? reg.factoryName with
      | some bound =>
          obtain ⟨-, -, -, rfl⟩ := (register_of_bound found).mp outcome
          simp [outcome] at added
      | none =>
          obtain ⟨-, catalog, committed, rfl⟩ := (register_of_free found).mp outcome
          obtain ⟨tagged, indexed, -, rfl⟩ := commit_eq_ok committed
          refine ⟨rfl, ?_, tagged, indexed⟩
          simp [attempt, outcome, Registry.binding?, Catalog.factory?, NamedList.get?_put]

theorem attempt_snd_of_error {cause : RegistrationError}
    (refused : (r.attempt reg).1 = .error cause) : (r.attempt reg).2 = r := by
  unfold attempt at refused ⊢
  cases outcome : r.register reg with
  | error other => rfl
  | ok r' => simp [outcome] at refused

theorem attempt_eq_of_ok (accepted : r.register reg = .ok r') :
    r.attempt reg = (.ok (), r') := by
  simp [attempt, accepted]

theorem attempt_snd_cases (r : Registry σ) (reg : Registration σ) :
    (r.attempt reg).2 = r ∨ (r.binding? reg.factoryName = none ∧
      ∃ catalog, r.commit reg = .ok catalog ∧ (r.attempt reg).2 = { r with catalog }) := by
  cases outcome : r.register reg with
  | error cause => exact .inl (by simp [attempt, outcome])
  | ok r' =>
      rw [attempt_eq_of_ok outcome]
      cases found : r.binding? reg.factoryName with
      | some bound => exact .inl ((register_of_bound found).mp outcome).2.2.2
      | none =>
          obtain ⟨-, catalog, committed, equal⟩ := (register_of_free found).mp outcome
          exact .inr ⟨rfl, catalog, committed, equal⟩

theorem binding?_attempt (reg : Registration σ) {name : String} {b : Binding σ}
    (bound : r.binding? name = some b) : (r.attempt reg).2.binding? name = some b := by
  rcases r.attempt_snd_cases reg with unchanged | ⟨free, catalog, committed, equal⟩
  · rw [unchanged]
    exact bound
  · obtain ⟨-, -, -, rfl⟩ := commit_eq_ok committed
    have other : name ≠ reg.factoryName := by
      rintro rfl
      rw [free] at bound
      cases bound
    rw [equal]
    simpa [Registry.binding?, Catalog.factory?, NamedList.get?_put, other] using bound

theorem settings_attempt (r : Registry σ) (reg : Registration σ) :
    (r.attempt reg).2.settings = r.settings := by
  rcases r.attempt_snd_cases reg with unchanged | ⟨-, catalog, -, equal⟩
  · rw [unchanged]
  · rw [equal]

end Registry

end SourceRegistry
