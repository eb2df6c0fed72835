import SourceRegistry.Samples.Sources
import SourceRegistry.Proofs.Registration.Accounts

/-!
Runs of calls that may register datasource types.  A run is made of single registrations that are
tried one after another; its log lists those of them that added something.  A log that accounts for
the registry at the start accounts, with the log of the run, for the registry at the end.  A plugin that
registers with a function of its own stands in a run as the calls that the function makes.
-/

set_option autoImplicit false
set_option relaxedAutoImplicit false

namespace SourceRegistry

variable {σ : Type}

/-- The registrations of plugins that are loaded in order and added something, up to the first that
fails. -/
def Plugin.added (r : Registry σ) : List (Plugin σ) → List (Registration σ)
  | [] => []
  | plugin :: rest =>
    match r.registerKind plugin.kind with
    | .ok r' => r.added (r.registrationOf plugin.kind) ++ Plugin.added r' rest
    | .error _ => []

namespace Registry

inductive Call (σ : Type) where
  /-- Registers a kind with the factory derived from it. -/
  | registerKind (kind : SourceKind σ)
  /-- Registers a type with a factory that the caller supplies. -/
  | register (spec : SourceSpec) (factory : Factory σ)
  | loadPlugins (plugins : List (Plugin σ))

def perform (r : Registry σ) : Call σ → Except RegistrationError Unit × Registry σ
  | .registerKind kind => r.attempt (r.registrationOf kind)
  | .register spec factory => r.attempt { spec, factory }
  | .loadPlugins plugins =>
    let (outcome, r') := Plugin.load r plugins
    (outcome.map fun _ => (), r')

def addedBy (r : Registry σ) : Call σ → List (Registration σ)
  | .registerKind kind => r.added (r.registrationOf kind)
  | .register spec factory => r.added { spec, factory }
  | .loadPlugins plugins => Plugin.added r (Plugin.inOrder plugins)

def run (r : Registry σ) : List (Call σ) → Registry σ
  | [] => r
  | call :: rest => (r.perform call).2.run rest

def log (r : Registry σ) : List (Call σ) → List (Registration σ)
  | [] => []
  | call :: rest => r.addedBy call ++ (r.perform call).2.log rest

def tryAll (r : Registry σ) (regs : List (Registration σ)) : Registry σ :=
  regs.foldl (fun r reg => (r.attempt reg).2) r

def outcomes (r : Registry σ) : List (Registration σ) → List (Except RegistrationError Unit)
  | [] => []
  | reg :: rest => (r.attempt reg).1 :: (r.attempt reg).2.outcomes rest

def addedAll (r : Registry σ) : List (Registration σ) → List (Registration σ)
  | [] => []
  | reg :: rest => r.added reg ++ (r.attempt reg).2.addedAll rest

/-- A registry as it is made, with the default settings or with given ones. -/
def Fresh (r : Registry σ) : Prop :=
  r = Registry.empty ∨ ∃ settings : Settings, Registry.withSettings settings = .ok r

/-- Single registrations lead from one registry to another; those that added something are
listed. -/
inductive Grows (r : Registry σ) : List (Registration σ) → Registry σ → Prop
  | refl : Grows r [] r
  | attempt {log : List (Registration σ)} {r' : Registry σ} (reg : Registration σ)
      (before : Grows r log r') : Grows r (log ++ r'.added reg) (r'.attempt reg).2

namespace Grows

variable {r r' r'' : Registry σ} {first second : List (Registration σ)}

theorem single (r : Registry σ) (reg : Registration σ) :
    Grows r (r.added reg) (r.attempt reg).2 :=
  Grows.refl.attempt reg

theorem trans (before : Grows r first r') (after : Grows r' second r'') :
    Grows r (first ++ second) r'' := by
  induction after with
  | refl =>
      rw [List.append_nil]
      exact before
  | attempt reg _ ih =>
      rw [← List.append_assoc]
      exact ih.attempt reg

theorem binding? (grown : Grows r first r') {name : String} {b : Binding σ}
    (bound : r.binding? name = some b) : r'.binding? name = some b := by
  induction grown with
  | refl => exact bound
  | attempt reg _ ih => exact binding?_attempt reg ih

theorem settings (grown : Grows r first r') : r'.settings = r.settings := by
  induction grown with
  | refl => rfl
  | attempt reg _ ih => exact (settings_attempt _ reg).trans ih

end Grows

theorem grows_tryAll (r : Registry σ) (regs : List (Registration σ)) :
    Grows r (r.addedAll regs) (r.tryAll regs) := by
  induction regs generalizing r with
  | nil => exact .refl
  | cons reg rest ih => exact (Grows.single r reg).trans (ih (r.attempt reg).2)

theorem grows_loadAll (r : Registry σ) (plugins : List (Plugin σ)) :
    Grows r (Plugin.added r plugins) (Plugin.loadAll r plugins).2 := by
  induction plugins generalizing r with
  | nil => exact .refl
  | cons plugin rest ih =>
      cases outcome : r.registerKind plugin.kind with
      | error cause =>
          simp only [Plugin.added, Plugin.loadAll, outcome]
          exact .refl
      | ok r' =>
          have first := Grows.single r (r.registrationOf plugin.kind)
          rw [attempt_eq_of_ok outcome] at first
          simp only [Plugin.added, Plugin.loadAll, outcome]
          exact first.trans (ih r')

theorem load_snd (r : Registry σ) (plugins : List (Plugin σ)) :
    (Plugin.load r plugins).2 = (Plugin.loadAll r (Plugin.inOrder plugins)).2 := by
  unfold Plugin.load
  rcases Plugin.loadAll r (Plugin.inOrder plugins) with ⟨cause | done, r'⟩ <;> rfl

theorem grows_perform (r : Registry σ) (call : Call σ) :
    Grows r (r.addedBy call) (r.perform call).2 := by
  cases call with
  | registerKind kind => exact .single r _
  | register spec factory => exact .single r _
  | loadPlugins plugins =>
      simp only [perform, addedBy, load_snd]
      exact grows_loadAll r _

/-- A run is made of single registrations, and its log lists those that added something. -/
theorem grows_run (r : Registry σ) (calls : List (Call σ)) : Grows r (r.log calls) (r.run calls) := by
  induction calls generalizing r with
  | nil => exact .refl
  | cons call rest ih => exact (grows_perform r call).trans (ih _)

theorem withSettings_eq_ok_iff {r : Registry σ} {settings : Settings} :
    withSettings settings = .ok r ↔ settings.validate = .ok () ∧ r = { settings } := by
  unfold withSettings
  cases settings.validate with
  | error cause => simp [bind, Except.bind]
  | ok valid => simp [bind, Except.bind, pure, Except.pure, eq_comm]

theorem Fresh.accountedBy_nil {r : Registry σ} (fresh : r.Fresh) : r.AccountedBy [] := by
  have catalog : r.catalog = {} := by
    rcases fresh with rfl | ⟨settings, made⟩
    · rfl
    · rw [(withSettings_eq_ok_iff.mp made).2]
  exact
    { sources := by rw [catalog]; rfl
      indexed := by rw [catalog]; exact TagTable.Indexed.empty
      assets := by simp [catalog, Catalog.assetsOf?]
      valid := by simp
      factories := by rw [catalog]; rfl }

theorem AccountedBy.grows {r r' : Registry σ} {log more : List (Registration σ)}
    (accounted : r.AccountedBy log) (grown : Grows r more r') : r'.AccountedBy (log ++ more) := by
  induction grown with
  | refl =>
      rw [List.append_nil]
      exact accounted
  | attempt reg _ ih =>
      rw [← List.append_assoc]
      exact ih.attempt reg

theorem Fresh.accountedBy {start r : Registry σ} {log : List (Registration σ)} (fresh : start.Fresh)
    (grown : Grows start log r) : r.AccountedBy log := by
  simpa using fresh.accountedBy_nil.grows grown

/-- The log of a run accounts for the registry that the run leads to from a fresh one. -/
theorem Fresh.accountedBy_run {r : Registry σ} (fresh : r.Fresh) (calls : List (Call σ)) :
    (r.run calls).AccountedBy (r.log calls) :=
  fresh.accountedBy (grows_run r calls)

end Registry

namespace Samples

open Registry (Call)

def mixedCalls : List (Call SampleSource) :=
  (["csv", "shadow", "badassets", "csv", "declared"].filterMap kind?).flatMap fun kind =>
    [.registerKind kind,
      .register { kind.spec with tag := kind.spec.tag ++ "2" } (kind.factory (.given 0)),
      .loadPlugins [.ofKind kind]]

def numbered (assets : List String) (declared : List (String × Method)) :
    Registration SampleSource :=
  { spec :=
      { type := { number := 0, name := "Numbered0" }
        tag := "alpha"
        assets := assets.filterMap assetSpec?
        declared := .ofList declared }
    factory := FactoryPlan.factory { build := some (.numbered 0) } (.given 0) }

def lenient : Registry SampleSource := { settings := { repeats := .ignoreIdentical } }

theorem fresh_lenient : lenient.Fresh := by
  have valid : Settings.validate { repeats := .ignoreIdentical } = .ok () := by decide +kernel
  exact .inr ⟨{ repeats := .ignoreIdentical }, Registry.withSettings_eq_ok_iff.mpr ⟨valid, rfl⟩⟩

end Samples

end SourceRegistry
