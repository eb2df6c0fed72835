import SourceRegistry.Facade
import SourceRegistry.Proofs.Registration.Run

/-!
Sites: a façade with the world it works in, and the runs of what is done there.  Along a run the
registry only grows, so what is bound stays bound, and its settings and the context stay the same.
-/

set_option autoImplicit false
set_option relaxedAutoImplicit false

namespace SourceRegistry

variable {σ η : Type}

structure Site (σ η : Type) where
  facade : Facade σ
  world : World σ η

inductive Action (σ : Type) where
  | register (call : Registry.Call σ)
  /-- Calls a factory that was resolved at some time. -/
  | call (factory : BoundFactory σ) (name : String) (fields : Fields)
  | add (handle : Handle) (method name : String) (fields : Fields)
  | read (handle : Handle) (method : String) (name : Option String) (fields : Fields)
  /-- Asks the façade for the default datasource. -/
  | default

namespace Site

variable [Source σ] [Host η σ]

def perform (s : Site σ η) : Action σ → Site σ η
  | .register call =>
    { s with facade := { s.facade with registry := (s.facade.registry.perform call).2 } }
  | .call factory name fields => { s with world := (factory.call s.world name fields).2 }
  | .add handle method name fields =>
    { s with world := (s.world.invokeAdd handle method name fields).2 }
  | .read handle method name fields =>
    { s with world := (s.world.invokeRead handle method name fields).2 }
  | .default => { s with world := (s.facade.default s.world).2 }

def run (s : Site σ η) (actions : List (Action σ)) : Site σ η := actions.foldl perform s

theorem context_perform (s : Site σ η) (action : Action σ) :
    (s.perform action).facade.context = s.facade.context := by
  cases action <;> rfl

theorem exists_grows_perform (s : Site σ η) (action : Action σ) :
    ∃ log, Registry.Grows s.facade.registry log (s.perform action).facade.registry := by
  cases action with
  | register call => exact ⟨_, Registry.grows_perform s.facade.registry call⟩
  | call factory name fields => exact ⟨_, .refl⟩
  | add handle method name fields => exact ⟨_, .refl⟩
  | read handle method name fields => exact ⟨_, .refl⟩
  | default => exact ⟨_, .refl⟩

theorem exists_grows_run (s : Site σ η) (actions : List (Action σ)) :
    ∃ log, Registry.Grows s.facade.registry log (s.run actions).facade.registry := by
  induction actions generalizing s with
  | nil => exact ⟨_, .refl⟩
  | cons action rest ih =>
      obtain ⟨first, before⟩ := s.exists_grows_perform action
      obtain ⟨second, after⟩ := ih (s.perform action)
      exact ⟨_, before.trans after⟩

theorem settings_perform (s : Site σ η) (action : Action σ) :
    (s.perform action).facade.registry.settings = s.facade.registry.settings := by
  obtain ⟨log, grown⟩ := s.exists_grows_perform action
  exact grown.settings

end Site

end SourceRegistry
