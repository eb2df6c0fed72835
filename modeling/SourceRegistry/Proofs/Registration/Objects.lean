import SourceRegistry.Proofs.Registration.Run

/-!
The function objects of factories.  A caller can only supply an object that is there: one from outside,
or one that an earlier registration made.  So along a run no bound factory is the object that a kind
gets when it is registered next, and a kind repeats nothing but what was derived from a kind.
-/

set_option autoImplicit false
set_option relaxedAutoImplicit false

namespace SourceRegistry

variable {σ : Type}

/-- The object is there once `round` registrations are committed: it came from outside, or one of them
made it. -/
def ObjectId.Exists (round : Nat) : ObjectId → Prop
  | .given _ => True
  | .made earlier _ => earlier < round

instance (round : Nat) : DecidablePred (ObjectId.Exists round)
  | .given _ => .isTrue trivial
  | .made earlier _ => inferInstanceAs (Decidable (earlier < round))

theorem ObjectId.Exists.mono {id : ObjectId} {round later : Nat} (exist : id.Exists round)
    (after : round ≤ later) : id.Exists later := by
  cases id with
  | given number => trivial
  | made earlier label => exact Nat.lt_of_lt_of_le exist after

namespace Registry

def ObjectsExist (r : Registry σ) : Prop :=
  ∀ (name : String) (b : Binding σ), r.binding? name = some b → b.factory.id.Exists r.round

/-- A factory that a call supplies is there when the call is made. -/
def Call.Supplied (round : Nat) : Call σ → Prop
  | .register _ factory => factory.id.Exists round
  | .registerKind _ | .loadPlugins _ => True

def Supplied (r : Registry σ) : List (Call σ) → Prop
  | [] => True
  | call :: rest => call.Supplied r.round ∧ (r.perform call).2.Supplied rest

instance (round : Nat) : DecidablePred fun call : Call σ => call.Supplied round
  | .register _ factory => inferInstanceAs (Decidable (factory.id.Exists round))
  | .registerKind _ | .loadPlugins _ => .isTrue trivial

instance decidableSupplied (r : Registry σ) : (calls : List (Call σ)) → Decidable (r.Supplied calls)
  | [] => .isTrue trivial
  | call :: rest =>
    have := decidableSupplied (r.perform call).2 rest
    inferInstanceAs (Decidable (call.Supplied r.round ∧ (r.perform call).2.Supplied rest))

variable {r r' : Registry σ} {log : List (Registration σ)}

theorem AccountedBy.objectsExist_attempt (accounted : r.AccountedBy log) (objects : r.ObjectsExist)
    {reg : Registration σ} (supplied : reg.factory.id.Exists (r.round + 1)) :
    (r.attempt reg).2.ObjectsExist := by
  rcases accounted.added_cases reg with ⟨unchanged, -⟩ | ⟨admitted, tried, -⟩
  · rw [unchanged]
    exact objects
  · have rounds : (r.extend reg).round = r.round + 1 := by
      rw [(accounted.extend admitted).round, accounted.round]
      simp
    intro name b found
    rw [tried] at found ⊢
    rw [rounds]
    rw [binding?_extend] at found
    split at found
    · obtain rfl := Option.some.inj found
      exact supplied
    · exact (objects name b found).mono (Nat.le_succ _)

theorem AccountedBy.objectsExist_registerKind (accounted : r.AccountedBy log)
    (objects : r.ObjectsExist) (kind : SourceKind σ) :
    (r.attempt (r.registrationOf kind)).2.ObjectsExist :=
  accounted.objectsExist_attempt objects (Nat.lt_succ_self _)

theorem AccountedBy.objectsExist_loadAll (accounted : r.AccountedBy log)
    (objects : r.ObjectsExist) (plugins : List (Plugin σ)) :
    (Plugin.loadAll r plugins).2.ObjectsExist := by
  induction plugins generalizing r log with
  | nil => exact objects
  | cons plugin rest ih =>
      cases outcome : r.registerKind plugin.kind with
      | error cause => simpa only [Plugin.loadAll, outcome] using objects
      | ok r' =>
          have tried := attempt_eq_of_ok outcome
          have after := accounted.attempt (r.registrationOf plugin.kind)
          have there := accounted.objectsExist_registerKind objects plugin.kind
          rw [tried] at after there
          simpa only [Plugin.loadAll, outcome] using ih after there

theorem AccountedBy.objectsExist_perform (accounted : r.AccountedBy log)
    (objects : r.ObjectsExist) {call : Call σ} (supplied : call.Supplied r.round) :
    (r.perform call).2.ObjectsExist := by
  cases call with
  | registerKind kind => exact accounted.objectsExist_registerKind objects kind
  | register spec factory =>
      have there : factory.id.Exists r.round := supplied
      exact accounted.objectsExist_attempt objects (there.mono (Nat.le_succ _))
  | loadPlugins plugins =>
      simp only [perform, load_snd]
      exact accounted.objectsExist_loadAll objects _

theorem AccountedBy.objectsExist_run (accounted : r.AccountedBy log) (objects : r.ObjectsExist)
    {calls : List (Call σ)} (supplied : r.Supplied calls) : (r.run calls).ObjectsExist := by
  induction calls generalizing r log with
  | nil => exact objects
  | cons call rest ih =>
      obtain ⟨here, later⟩ := supplied
      have after := accounted.grows (grows_perform r call)
      exact ih after (accounted.objectsExist_perform objects here) later

theorem Fresh.objectsExist (fresh : r.Fresh) : r.ObjectsExist := by
  intro name b found
  obtain ⟨round, reg, logged, -⟩ := fresh.accountedBy_nil.binding?_eq_some_iff.mp found
  cases logged

theorem AccountedBy.derived_of_registerKind (accounted : r.AccountedBy log)
    (objects : r.ObjectsExist) {kind : SourceKind σ} (accepted : r.registerKind kind = .ok r') :
    ∃ b, r'.binding? (factoryName kind.spec.tag) = some b ∧ b.derived = true ∧
      b.tag = kind.spec.tag ∧ b.type.same kind.spec.type = true := by
  rcases accounted.register_cases accepted with ⟨b, found, -, repeated, rfl⟩ | ⟨-, rfl⟩
  · simp only [repeats, registrationOf, Bool.and_eq_true, Bool.or_eq_true, beq_iff_eq,
      SourceKind.factory, and_true] at repeated
    obtain ⟨⟨type, tag⟩, derived | object⟩ := repeated
    · exact ⟨b, found, derived, tag, type⟩
    · -- the object of the kind is a new one, so it is not the bound one
      have there := objects _ b found
      rw [object] at there
      exact absurd there (Nat.lt_irrefl _)
  · exact ⟨_, (binding?_extend r _ _).trans (if_pos rfl), rfl, rfl, by
      simp [nextBinding, Registration.bindingAt, registrationOf, TypeIdent.same]⟩

end Registry

end SourceRegistry
