import SourceRegistry.Proofs.Site.Default

/-!
Commons: one registry, the façades that were made over it for several contexts, and the world they
work in.  Whatever is done there, every step answers to the registry as it stands, also through a
façade that was made before.  Hosts are watched: each of them keeps a list of all handles that it was
ever offered.
-/

set_option autoImplicit false
set_option relaxedAutoImplicit false

namespace SourceRegistry

variable {σ η : Type}

/-- A host with the handles that it was offered, taken or not. -/
structure Watched (η : Type) where
  host : η
  received : List Handle := []

instance [Host η σ] : Host (Watched η) σ where
  attach h sources handle :=
    let (outcome, host, sources) := Host.attach h.host sources handle
    (outcome, { host, received := h.received ++ [handle] }, sources)
  datasources h := Host.datasources σ h.host
  validate h sources request :=
    let (outcome, host, sources) := Host.validate h.host sources request
    (outcome, { h with host }, sources)
  act h sources source message :=
    let (reply, host, sources) := Host.act h.host sources source message
    (reply, { h with host }, sources)

/-- A call of a factory, with what the function behind it ended with and the place that is next. -/
structure FactoryCall (σ : Type) where
  factory : BoundFactory σ
  name : String
  fields : Fields
  outcome : Except CallError σ
  place : SourceId

structure Commons (σ η : Type) where
  registry : Registry σ
  world : World σ (Watched η) := {}
  /-- The contexts of the façades, in the order in which they were made. -/
  contexts : List ContextId := []
  /-- The factories that were resolved so far. -/
  resolved : List (BoundFactory σ) := []
  /-- The calls of factories so far. -/
  calls : List (FactoryCall σ) := []

/-- What is done; façades and resolved factories are given by number. -/
inductive Move (σ η : Type) [Source σ] where
  | register (call : Registry.Call σ)
  | newHost (host : η)
  | dropHost (context : ContextId)
  | makeFacade (context : ContextId)
  | resolve (facade : Nat) (name : String)
  | call (factory : Nat) (name : String) (fields : Fields)
  | default (facade : Nat)
  | add (handle : Handle) (method name : String) (fields : Fields)
  | read (handle : Handle) (method : String) (name : Option String) (fields : Fields)
  | edit (handle : Handle) (type : TypeIdent)
      (change : { f : σ → σ // ∀ value, Source.type (f value) = Source.type value })
  | attach (handle : Handle) (context : ContextId)

theorem Facade.resolve_eq_ok_iff {f : Facade σ} {name : String} {factory : BoundFactory σ} :
    f.resolve name = .ok factory ↔
      f.registry.binding? name = some factory.binding ∧ factory.context = f.context := by
  obtain ⟨binding, context⟩ := factory
  unfold resolve
  cases f.registry.binding? name with
  | none => simp
  | some b => simp [eq_comm]

/-- The factory that a call for the default datasource calls, if it comes to that. -/
def Facade.defaultCall? [Host η σ] (f : Facade σ) (w : World σ η) : Option (BoundFactory σ) :=
  match f.existingDefault w, f.resolve f.defaultFactory with
  | none, .ok factory => some factory
  | _, _ => none

namespace Commons

def start (r : Registry σ) : Commons σ η := { registry := r }

def facade? (c : Commons σ η) (number : Nat) : Option (Facade σ) :=
  c.contexts[number]?.map fun context => { registry := c.registry, context }

theorem registry_facade? {c : Commons σ η} {number : Nat} {f : Facade σ}
    (here : c.facade? number = some f) : f.registry = c.registry := by
  unfold facade? at here
  obtain ⟨context, -, rfl⟩ := Option.map_eq_some_iff.mp here
  rfl

variable [Source σ] [Host η σ]

def noteOf (w : World σ (Watched η)) (factory : BoundFactory σ) (name : String) (fields : Fields) :
    FactoryCall σ :=
  let (outcome, w') := factory.build w name fields
  { factory, name, fields, outcome, place := w'.sources.length }

def callFactory (c : Commons σ η) (factory : BoundFactory σ) (name : String) (fields : Fields) :
    Commons σ η :=
  { c with
    world := (factory.call c.world name fields).2
    calls := c.calls ++ [noteOf c.world factory name fields] }

def perform (c : Commons σ η) : Move σ η → Commons σ η
  | .register call => { c with registry := (c.registry.perform call).2 }
  | .newHost host => { c with world := (c.world.addHost { host }).2 }
  | .dropHost context => { c with world := c.world.dropHost context }
  | .makeFacade context => { c with contexts := c.contexts ++ [context] }
  | .resolve facade name =>
    match c.facade? facade with
    | some f => { c with resolved := c.resolved ++ (f.resolve name).toOption.toList }
    | none => c
  | .call factory name fields =>
    match c.resolved[factory]? with
    | some factory => c.callFactory factory name fields
    | none => c
  | .default facade =>
    match c.facade? facade with
    | some f =>
      { c with
        world := (f.default c.world).2
        calls := c.calls ++ (f.defaultCall? c.world).toList.map fun factory =>
          noteOf c.world factory f.defaultName [] }
    | none => c
  | .add handle method name fields =>
    { c with world := (c.world.invokeAdd handle method name fields).2 }
  | .read handle method name fields =>
    { c with world := (c.world.invokeRead handle method name fields).2 }
  | .edit handle type change => { c with world := c.world.editAs handle type change }
  | .attach handle context => { c with world := (c.world.attach handle context).2 }

def run (c : Commons σ η) (moves : List (Move σ η)) : Commons σ η := moves.foldl perform c

theorem exists_grows_perform (c : Commons σ η) (move : Move σ η) :
    ∃ log, Registry.Grows c.registry log (c.perform move).registry := by
  cases move with
  | register call => exact ⟨_, Registry.grows_perform c.registry call⟩
  | resolve facade name =>
      simp only [perform]
      split <;> exact ⟨_, .refl⟩
  | call factory name fields =>
      simp only [perform]
      split <;> exact ⟨_, .refl⟩
  | default facade =>
      simp only [perform]
      split <;> exact ⟨_, .refl⟩
  | _ => exact ⟨_, .refl⟩

theorem exists_grows_run (c : Commons σ η) (moves : List (Move σ η)) :
    ∃ log, Registry.Grows c.registry log (c.run moves).registry := by
  induction moves generalizing c with
  | nil => exact ⟨_, .refl⟩
  | cons move rest ih =>
      obtain ⟨first, before⟩ := c.exists_grows_perform move
      obtain ⟨second, after⟩ := ih (c.perform move)
      exact ⟨_, before.trans after⟩

end Commons

namespace Samples

def crossed : Registration SampleSource :=
  { numbered [] [] with factory := FactoryPlan.factory { build := some (.numbered 1) } (.given 1) }

/-- A façade that was made before the registrations.  One factory builds what it was registered for, also
as the default datasource, the other one builds another type.  Then assets, types and a change come
in. -/
def sharedMoves : List (Move SampleSource SampleHost) :=
  let files : Handle :=
    { source := 0
      type := pandas.spec.type
      name := "files"
      methods := (Registry.empty.nextBinding (Registry.empty.registrationOf pandas)).methods }
  [.newHost {}, .makeFacade 0,
    .register (.registerKind pandas),
    .register (.register crossed.spec crossed.factory),
    .resolve 0 "add_pandas", .resolve 0 "add_alpha",
    .call 0 "files" [], .call 1 "others" [],
    .add files "add_dataframe_asset" "data" [],
    .default 0, .default 0,
    .register (.registerKind (kindParts[0].kind firstKind)),
    .register (.registerKind pandas),
    .edit files pandas.spec.type ⟨fun source => { source with name := "renamed" }, fun _ => rfl⟩]

end Samples

end SourceRegistry
