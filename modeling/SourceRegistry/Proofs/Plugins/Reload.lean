import SourceRegistry.Proofs.Plugins.Load
import SourceRegistry.Proofs.Registration.Objects

/-!
Loads that are done again.  Under the policy that takes repeats as already done, a load leaves a
registry in which everything that it registered is a repeat.  The next load of the same plugins passes
over them, gets as far as the first one got, and changes nothing.  Under the other policy it fails at
its first plugin.
-/

set_option autoImplicit false
set_option relaxedAutoImplicit false

namespace SourceRegistry

open Registry (Call Grows)

variable {σ : Type}

namespace Plugin

variable {start r r' s : Registry σ} {plugins : List (Plugin σ)} {log : List (Registration σ)}
  {cause : RegistrationError} {bad : Plugin σ}

theorem exists_grows_registerEach (accepted : registerEach r plugins = .ok r') :
    ∃ more, Grows r more r' := by
  have loaded := Registry.grows_loadAll r plugins
  rw [loadAll_eq_ok_iff.mpr accepted] at loaded
  exact ⟨_, loaded⟩

theorem tag_ne_of_registerKind {kind : SourceKind σ} (accepted : r.registerKind kind = .ok r') :
    kind.spec.tag ≠ "" := by
  intro empty
  have refused : r.registerKind kind = .error (.untagged kind.spec.type.name) := by
    simp [Registry.registerKind, Registry.register, Registry.registrationOf, empty]
  rw [refused] at accepted
  cases accepted

theorem registerKind_again (accounted : r.AccountedBy log) (objects : r.ObjectsExist)
    (policy : r.settings.repeats = .ignoreIdentical) {kind : SourceKind σ}
    (accepted : r.registerKind kind = .ok r') {more : List (Registration σ)}
    (grown : Grows r' more s) : s.registerKind kind = .ok s := by
  obtain ⟨b, bound, derived, tag, type⟩ := accounted.derived_of_registerKind objects accepted
  have first := Grows.single r (r.registrationOf kind)
  rw [Registry.attempt_eq_of_ok accepted] at first
  have settings : s.settings = r.settings := grown.settings.trans first.settings
  have found : s.binding? (s.registrationOf kind).factoryName = some b := grown.binding? bound
  refine (Registry.register_of_bound found).mpr
    ⟨tag_ne_of_registerKind accepted, settings ▸ policy, ?_, rfl⟩
  simp [Registry.repeats, Registry.registrationOf, derived, tag, type]

theorem registerKind_of_registerEach (accounted : r.AccountedBy log) (objects : r.ObjectsExist)
    (policy : r.settings.repeats = .ignoreIdentical) (accepted : registerEach r plugins = .ok s) :
    ∀ plugin ∈ plugins, s.registerKind plugin.kind = .ok s := by
  induction plugins generalizing r log with
  | nil => simp
  | cons first rest ih =>
      obtain ⟨next, here, later⟩ := registerEach_cons.mp accepted
      obtain ⟨more, grown⟩ := exists_grows_registerEach later
      intro plugin member
      rcases List.mem_cons.mp member with rfl | behind
      · exact registerKind_again accounted objects policy here grown
      · have after := accounted.attempt (r.registrationOf first.kind)
        have there := accounted.objectsExist_registerKind objects first.kind
        have settings := Registry.settings_attempt r (r.registrationOf first.kind)
        rw [Registry.attempt_eq_of_ok here] at after there settings
        exact ih after there (settings ▸ policy) later plugin behind

theorem registerEach_of_repeats (repeated : ∀ plugin ∈ plugins, s.registerKind plugin.kind = .ok s) :
    registerEach s plugins = .ok s := by
  induction plugins with
  | nil => exact registerEach_nil.mpr rfl
  | cons first rest ih =>
      obtain ⟨here, later⟩ := List.forall_mem_cons.mp repeated
      exact registerEach_cons.mpr ⟨s, here, ih later⟩

/-- What was registered once is registered again without a change. -/
theorem registerEach_again (accounted : r.AccountedBy log) (objects : r.ObjectsExist)
    (policy : r.settings.repeats = .ignoreIdentical) (accepted : registerEach r plugins = .ok s) :
    registerEach s plugins = .ok s :=
  registerEach_of_repeats (registerKind_of_registerEach accounted objects policy accepted)

theorem stopsAt_again (accounted : r.AccountedBy log) (objects : r.ObjectsExist)
    (policy : r.settings.repeats = .ignoreIdentical) (stops : StopsAt r plugins bad cause s) :
    StopsAt s plugins bad cause s := by
  obtain ⟨before, after, split, accepted, refused⟩ := stops
  exact ⟨before, after, split, registerEach_again accounted objects policy accepted, refused⟩

theorem load_again_of_lenient (accounted : r.AccountedBy log) (objects : r.ObjectsExist)
    (policy : r.settings.repeats = .ignoreIdentical) (plugins : List (Plugin σ)) :
    load (load r plugins).2 plugins = load r plugins := by
  rcases loaded : load r plugins with ⟨cause | count, s⟩
  · obtain ⟨bad, stops⟩ := load_eq_error_iff.mp loaded
    exact load_eq_error_iff.mpr ⟨bad, stopsAt_again accounted objects policy stops⟩
  · obtain ⟨number, accepted⟩ := load_eq_ok_iff.mp loaded
    exact load_eq_ok_iff.mpr ⟨number, registerEach_again accounted objects policy accepted⟩

theorem load_again_of_strict (accounted : r.AccountedBy log) (objects : r.ObjectsExist)
    (policy : r.settings.repeats = .reject) {first : Plugin σ} {rest : List (Plugin σ)}
    (ordered : inOrder plugins = first :: rest) (accepted : registerEach r (first :: rest) = .ok s) :
    load s plugins =
      (.error (.factoryExists first.kind.spec.tag (factoryName first.kind.spec.tag)), s) := by
  obtain ⟨all, everything⟩ := exists_grows_registerEach accepted
  obtain ⟨next, here, later⟩ := registerEach_cons.mp accepted
  obtain ⟨more, grown⟩ := exists_grows_registerEach later
  obtain ⟨b, bound, -⟩ := accounted.derived_of_registerKind objects here
  have refused : s.registerKind first.kind =
      .error (.factoryExists first.kind.spec.tag (factoryName first.kind.spec.tag)) := by
    simp [Registry.registerKind, Registry.register, Registry.registrationOf,
      tag_ne_of_registerKind here, grown.binding? bound, everything.settings, policy]
  rw [load_eq_error_iff, ordered]
  exact ⟨first, stopsAt_cons.mpr (.inl ⟨rfl, rfl, refused⟩)⟩

/-- In a registry that was reached by calls which supply factories that are there, plugins are loaded
twice.  Where repeats are taken as already done, the second load has the result of the first one, stops
at the same plugin if it stops, and changes nothing.  Where they are refused and the first load
finished, the second one fails at its first plugin. -/
theorem load_again (fresh : start.Fresh) {calls : List (Call σ)} (supplied : start.Supplied calls)
    (plugins : List (Plugin σ)) :
    let r := start.run calls
    let s := (load r plugins).2
    (r.settings.repeats = .ignoreIdentical →
      load s plugins = load r plugins ∧
        ∀ (bad : Plugin σ) (cause : RegistrationError),
          StopsAt r (inOrder plugins) bad cause s → StopsAt s (inOrder plugins) bad cause s) ∧
    (r.settings.repeats = .reject → (∃ count, (load r plugins).1 = .ok count) → plugins ≠ [] →
      ∃ first ∈ plugins, (∀ other ∈ plugins, Text.bytes first.tag ≤ Text.bytes other.tag) ∧
        load s plugins =
          (.error (.factoryExists first.kind.spec.tag (factoryName first.kind.spec.tag)), s)) := by
  intro r s
  have accounted : r.AccountedBy (start.log calls) := fresh.accountedBy_run calls
  have objects : r.ObjectsExist :=
    fresh.accountedBy_nil.objectsExist_run fresh.objectsExist supplied
  constructor
  · intro policy
    exact ⟨load_again_of_lenient accounted objects policy plugins,
      fun bad cause stops => stopsAt_again accounted objects policy stops⟩
  · rintro policy ⟨count, finished⟩ some_plugin
    have loaded : load r plugins = (.ok count, s) := Prod.ext finished rfl
    obtain ⟨-, accepted⟩ := load_eq_ok_iff.mp loaded
    cases ordered : inOrder plugins with
    | nil =>
        have perm := inOrder_perm plugins
        rw [ordered] at perm
        exact absurd perm.nil_eq.symm some_plugin
    | cons first rest =>
        rw [ordered] at accepted
        obtain ⟨member, least⟩ := least_of_inOrder ordered
        exact ⟨first, member, least, load_again_of_strict accounted objects policy ordered accepted⟩

end Plugin

namespace Samples

def byHand : List (Call SampleSource) :=
  (kind? "csv").toList.map .registerKind ++
    (kind? "pandas").toList.map fun kind => .register kind.spec (kind.factory (.given 0))

def overlapping : List (Plugin SampleSource) :=
  [("aa", "csv"), ("bb", "declared"), ("cc", "csv"), ("dd", "pandas"), ("ee", "strict")].filterMap
    fun entry => (kind? entry.2).map fun kind => { tag := entry.1, kind }

end Samples

namespace Plugin

theorem load_again_overlapping :
    let plugins := Samples.overlapping
    let few := plugins.take 2
    let r := Samples.lenient.run Samples.byHand
    let s := (load r plugins).2
    let s' := (load Registry.empty few).2
    Samples.lenient.Fresh ∧ Samples.lenient.Supplied Samples.byHand ∧
      r.settings.repeats = .ignoreIdentical ∧
      (load r plugins).1 = .error (.factoryExists "pandas" "add_pandas") ∧
      s.factories = ["add_csv", "add_pandas", "add_declared"] ∧
      load s plugins = load r plugins ∧
      (∀ (bad : Plugin Samples.SampleSource) (cause : RegistrationError),
        StopsAt r (inOrder plugins) bad cause s → StopsAt s (inOrder plugins) bad cause s) ∧
      (load Registry.empty few).1 = .ok 2 ∧
      ∃ first ∈ few, (∀ other ∈ few, Text.bytes first.tag ≤ Text.bytes other.tag) ∧
        load s' few =
          (.error (.factoryExists first.kind.spec.tag (factoryName first.kind.spec.tag)), s') := by
  -- over the same plugins: a lenient registry in which some kinds were registered by hand, so that
  -- the load stops midway, and a strict registry that was empty
  intro plugins few r s s'
  have supplied : Samples.lenient.Supplied Samples.byHand := by decide +kernel
  have policy : r.settings.repeats = .ignoreIdentical := by decide +kernel
  have steps : load r plugins = _ := load_of_rising r (by decide +kernel)
  have steps' : load Registry.empty few = _ := load_of_rising Registry.empty (by decide +kernel)
  have stopped : (load r plugins).1 = .error (.factoryExists "pandas" "add_pandas") := by
    rw [steps]
    decide +kernel
  have names : s.factories = ["add_csv", "add_pandas", "add_declared"] := by
    simp only [s]
    rw [steps]
    decide +kernel
  have finished : (load Registry.empty few).1 = .ok 2 := by
    rw [steps']
    decide +kernel
  have some_plugin : few ≠ [] := List.ne_nil_of_length_pos (by decide +kernel)
  have nothing : (Registry.empty : Registry Samples.SampleSource).Supplied [] := trivial
  have lenient := (load_again Samples.fresh_lenient supplied plugins).1 policy
  have strict := (load_again (.inl rfl) nothing few).2 rfl ⟨2, finished⟩ some_plugin
  exact ⟨Samples.fresh_lenient, supplied, policy, stopped, names, lenient.1, lenient.2, finished,
    strict⟩

end Plugin

end SourceRegistry
