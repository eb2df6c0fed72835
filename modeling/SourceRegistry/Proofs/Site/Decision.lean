import SourceRegistry.Proofs.Site.Default

/-!
The decision on the default datasource.  What the host keeps under the configured name goes first, of
whatever kind it is; only where there is nothing does it matter whether the factory can be called.  A
managed datasource of the registered type is the answer, anything else is a conflict, and neither
depends on what the factory does.
-/

set_option autoImplicit false
set_option relaxedAutoImplicit false

namespace SourceRegistry

variable {σ η : Type}

namespace Facade

def registeredType? (f : Facade σ) : Option TypeIdent :=
  (f.registry.binding? f.defaultFactory).map Binding.type

def expectedType (f : Facade σ) : String :=
  (f.registeredType?.map TypeIdent.name).getD f.registry.settings.defaultSource.tag

def Suits (f : Facade σ) (entry : Hosted) : Prop :=
  ∃ handle type, entry = .managed handle ∧ f.registeredType? = some type ∧
    handle.type.same type = true

variable [Source σ] [Host η σ]

/-- What becomes of a request for the default datasource, with the world after it. -/
inductive Decided (f : Facade σ) (w : World σ η) (host : η) :
    Except DefaultError Handle × World σ η → Prop
  /-- The host has nothing under the name, and the factory is called with no fields. -/
  | created {b : Binding σ} {outcome : Except CallError Handle} {w' : World σ η}
      (absent : (Host.datasources σ host).get? f.defaultName = none)
      (bound : f.registry.binding? f.defaultFactory = some b)
      (called : BoundFactory.call { binding := b, context := f.context } w f.defaultName [] =
        (outcome, w')) :
      Decided f w host (outcome.mapError .create, w')
  | unregistered (absent : (Host.datasources σ host).get? f.defaultName = none)
      (unbound : f.registry.binding? f.defaultFactory = none) :
      Decided f w host
        (.error (.create (.unknownFactory (.among f.defaultFactory f.factories))), w)
  | kept {handle : Handle}
      (present : (Host.datasources σ host).get? f.defaultName = some (.managed handle))
      (suits : f.Suits (.managed handle)) :
      Decided f w host (.ok handle, w)
  | conflict {entry : Hosted}
      (present : (Host.datasources σ host).get? f.defaultName = some entry)
      (unsuited : ¬ f.Suits entry) :
      Decided f w host (.error (.conflict f.defaultName entry.kindName f.expectedType), w)

variable {f : Facade σ} {w : World σ η} {host : η} {entry : Hosted}

omit [Source σ] in
theorem existingDefault_of_live (live : w.host? f.context = some host) :
    f.existingDefault w = (Host.datasources σ host).get? f.defaultName := by
  simp only [existingDefault, live, Option.bind_some]
  rfl

theorem default_eq_of_absent_bound {b : Binding σ} (absent : f.existingDefault w = none)
    (bound : f.registry.binding? f.defaultFactory = some b) :
    f.default w =
      ((BoundFactory.call { binding := b, context := f.context } w f.defaultName []).1.mapError
          .create,
        (BoundFactory.call { binding := b, context := f.context } w f.defaultName []).2) := by
  rw [default_of_absent_bound absent bound]
  rcases BoundFactory.call { binding := b, context := f.context } w f.defaultName [] with
    ⟨cause | handle, w'⟩ <;> rfl

theorem default_of_unsuited (present : f.existingDefault w = some entry) (unsuited : ¬ f.Suits entry) :
    f.default w = (.error (.conflict f.defaultName entry.kindName f.expectedType), w) := by
  cases bound : f.registry.binding? f.defaultFactory with
  | none =>
      have expected : f.expectedType = f.registry.settings.defaultSource.tag := by
        simp [expectedType, registeredType?, bound]
      rw [expected]
      cases entry <;> simp only [Facade.default, present, resolve_of_unbound bound] <;> rfl
  | some b =>
      have registered : f.registeredType? = some b.type := by simp [registeredType?, bound]
      have expected : f.expectedType = b.type.name := by simp [expectedType, registered]
      rw [expected]
      cases entry with
      | managed handle =>
          have differs : ¬ handle.type.same b.type = true :=
            fun same => unsuited ⟨handle, b.type, rfl, registered, same⟩
          simp only [Facade.default, present, resolve_of_bound bound, BoundFactory.type, differs]
          rfl
      | foreign name kind =>
          simp only [Facade.default, present, resolve_of_bound bound]
          rfl

theorem default_of_decided (live : w.host? f.context = some host)
    {out : Except DefaultError Handle × World σ η} (decided : f.Decided w host out) :
    f.default w = out := by
  have existing := existingDefault_of_live live
  cases decided with
  | created absent bound called =>
      rw [default_eq_of_absent_bound (existing.trans absent) bound, called]
  | unregistered absent unbound =>
      exact default_of_absent_unbound (existing.trans absent) unbound
  | kept present suits =>
      obtain ⟨handle, type, same, registered, fits⟩ := suits
      obtain ⟨b, bound, rfl⟩ := Option.map_eq_some_iff.mp registered
      cases same
      exact default_of_holds ⟨host, live, present⟩ bound fits
  | conflict present unsuited =>
      exact default_of_unsuited (existing.trans present) unsuited

theorem exists_decided (f : Facade σ) (w : World σ η) (host : η) :
    ∃ out, f.Decided w host out := by
  cases found : (Host.datasources σ host).get? f.defaultName with
  | none =>
      cases bound : f.registry.binding? f.defaultFactory with
      | none => exact ⟨_, .unregistered found bound⟩
      | some b => exact ⟨_, .created found bound rfl⟩
  | some entry =>
      by_cases suits : f.Suits entry
      · obtain ⟨handle, type, rfl, registered, same⟩ := suits
        exact ⟨_, .kept found ⟨handle, type, rfl, registered, same⟩⟩
      · exact ⟨_, .conflict found suits⟩

theorem Decided.of_present {other : Facade σ} {out : Except DefaultError Handle × World σ η}
    (decided : f.Decided w host out)
    (present : (Host.datasources σ host).get? f.defaultName = some entry)
    (configured : other.registry.settings.defaultSource = f.registry.settings.defaultSource)
    (registered : other.registeredType? = f.registeredType?) :
    out.2 = w ∧ other.Decided w host out := by
  have name : other.defaultName = f.defaultName := by simp only [defaultName, configured]
  have expected : other.expectedType = f.expectedType := by
    simp only [expectedType, registered, configured]
  have suits (entry : Hosted) : other.Suits entry ↔ f.Suits entry := by
    simp only [Suits, registered]
  cases decided with
  | created absent => simp [absent] at present
  | unregistered absent => simp [absent] at present
  | kept here fits => exact ⟨rfl, .kept (name ▸ here) ((suits _).mpr fits)⟩
  | conflict here unsuited =>
      rw [← name, ← expected]
      exact ⟨rfl, .conflict (name ▸ here) fun fits => unsuited ((suits _).mp fits)⟩

/-- The default datasource is decided on by what the host keeps under the configured name, what is
registered and what is configured.  Where the host keeps something, nothing changes, and of the registry
only the registered type counts, so no factory is called. -/
theorem default_eq_iff_decided (live : w.host? f.context = some host) :
    (∀ out, f.default w = out ↔ f.Decided w host out) ∧
      ∀ entry, (Host.datasources σ host).get? f.defaultName = some entry →
        (f.default w).2 = w ∧ ∀ other : Facade σ, other.context = f.context →
          other.registry.settings.defaultSource = f.registry.settings.defaultSource →
          other.registeredType? = f.registeredType? → other.default w = f.default w := by
  obtain ⟨out, decided⟩ := f.exists_decided w host
  have answer := default_of_decided live decided
  constructor
  · intro other
    constructor
    · intro equal
      rw [← equal, answer]
      exact decided
    · exact default_of_decided live
  · intro entry present
    refine ⟨?_, fun other context configured registered => ?_⟩
    · obtain ⟨unchanged, -⟩ := decided.of_present present rfl rfl
      rw [answer]
      exact unchanged
    · obtain ⟨-, again⟩ := decided.of_present present configured registered
      rw [answer]
      exact default_of_decided (by rw [context]; exact live) again

theorem default_eq_iff_decided_foreign :
    let name := "default_pandas_datasource"
    let host : Samples.SampleHost := { kept := .ofList [(name, .foreign name "Legacy")] }
    let w : World Samples.SampleSource Samples.SampleHost := (World.empty.addHost host).2
    let before : Facade Samples.SampleSource := { registry := .empty, context := 0 }
    let after : Facade Samples.SampleSource :=
      { registry := (Registry.empty.attempt (Registry.empty.registrationOf Samples.pandas)).2
        context := 0 }
    before.default w = (.error (.conflict name "Legacy" "pandas"), w) ∧
      after.default w = (.error (.conflict name "Legacy" "PandasDatasource"), w) ∧
      ∀ f ∈ [before, after], w.host? f.context = some host ∧
        (∀ out, f.default w = out ↔ f.Decided w host out) ∧
        ∀ entry, (Host.datasources Samples.SampleSource host).get? f.defaultName = some entry →
          (f.default w).2 = w ∧ ∀ other : Facade Samples.SampleSource, other.context = f.context →
            other.registry.settings.defaultSource = f.registry.settings.defaultSource →
            other.registeredType? = f.registeredType? → other.default w = f.default w := by
  intro name host w before after
  have conflict (f : Facade Samples.SampleSource) (live : w.host? f.context = some host)
      (configured : f.defaultName = name) :
      f.default w = (.error (.conflict name "Legacy" f.expectedType), w) := by
    have present : (Host.datasources Samples.SampleSource host).get? f.defaultName =
        some (.foreign name "Legacy") := by
      rw [configured]
      rfl
    have decided : f.Decided w host _ := .conflict present (by rintro ⟨_, _, equal, -⟩; cases equal)
    rw [configured] at decided
    exact ((default_eq_iff_decided live).1 _).mpr decided
  have expectedBefore : before.expectedType = "pandas" := by decide +kernel
  have expectedAfter : after.expectedType = "PandasDatasource" := by decide +kernel
  refine ⟨?_, ?_, fun f member => ?_⟩
  · rw [← expectedBefore]
    exact conflict before rfl rfl
  · rw [← expectedAfter]
    exact conflict after rfl (by decide +kernel)
  · have live : w.host? f.context = some host := by
      rcases List.mem_pair.mp member with rfl | rfl <;> rfl
    exact ⟨live, default_eq_iff_decided live⟩

end Facade

end SourceRegistry
