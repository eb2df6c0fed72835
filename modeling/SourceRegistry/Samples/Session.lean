import SourceRegistry.Facade
import SourceRegistry.Samples.Host

/-!
A session: one registry, one world, the context at hand, and the handles and resolved factories that
were kept under names.  A context lives while it is at hand or a kept factory was resolved for it.
-/

set_option autoImplicit false
set_option relaxedAutoImplicit false

namespace SourceRegistry.Samples

structure Session where
  registry : Registry SampleSource := {}
  world : World SampleSource SampleHost := {}
  context : ContextId := 0
  handles : NamedList Handle := .empty
  resolved : NamedList (BoundFactory SampleSource) := .empty
  /-- The number of the next function object that is supplied in place. -/
  nextObject : Nat := 0

namespace Session

/-- A session with a registry and a first host; function objects below a number are taken. -/
def start (registry : Registry SampleSource) (host : SampleHost) (taken : Nat) : Session :=
  let (context, world) := World.empty.addHost host
  { registry, world, context, nextObject := taken }

def freshObject (s : Session) : ObjectId × Session :=
  (.given s.nextObject, { s with nextObject := s.nextObject + 1 })

def facade (s : Session) : Facade SampleSource := { registry := s.registry, context := s.context }

def host (s : Session) : SampleHost := (s.world.host? s.context).getD {}

def source? (s : Session) (handle : Handle) : Option SampleSource := s.world.source? handle.source

def heldContexts (s : Session) : List ContextId :=
  s.context :: s.resolved.values.map (·.context)

def sweep (s : Session) : Session :=
  let held := s.heldContexts
  let dropped := (List.range s.world.hosts.length).filter fun context => !held.contains context
  { s with world := dropped.foldl World.dropHost s.world }

def register (s : Session) (registration : Registration SampleSource) :
    Except RegistrationError Unit × Session :=
  match s.registry.register registration with
  | .ok registry => (.ok (), { s with registry })
  | .error cause => (.error cause, s)

def registerKind (s : Session) (kind : SourceKind SampleSource) :
    Except RegistrationError Unit × Session :=
  s.register (s.registry.registrationOf kind)

def loadPlugins (s : Session) : Except RegistrationError Nat × Session :=
  let (outcome, registry) := Plugin.load s.registry plugins
  (outcome, { s with registry })

def keepResolved (s : Session) (label : Option String) (factory : BoundFactory SampleSource) :
    Session :=
  match label with
  | some label => { s with resolved := s.resolved.put label factory }.sweep
  | none => s

def resolve (s : Session) (name : String) (label : Option String) :
    Except UnknownFactory (BoundFactory SampleSource) × Session :=
  match s.facade.resolve name with
  | .ok factory => (.ok factory, s.keepResolved label factory)
  | .error cause => (.error cause, s)

def forget (s : Session) (label : String) : Bool × Session :=
  let left := s.resolved.entries.filter fun entry => entry.1 != label
  (s.resolved.contains label, { s with resolved := .ofList left }.sweep)

def keepHandle {ε : Type} (s : Session) (label : Option String) (outcome : Except ε Handle) :
    Session :=
  match label, outcome with
  | some label, .ok handle => { s with handles := s.handles.put label handle }
  | _, _ => s

def call (s : Session) (factory : BoundFactory SampleSource) (name : String) (fields : Fields)
    (label : Option String) : Except CallError Handle × Session :=
  let (outcome, world) := factory.call s.world name fields
  (outcome, { s with world }.keepHandle label outcome)

def default (s : Session) (label : Option String) : Except DefaultError Handle × Session :=
  let (outcome, world) := s.facade.default s.world
  (outcome, { s with world }.keepHandle label outcome)

def invokeAdd (s : Session) (handle : Handle) (method name : String) (fields : Fields) :
    Except CallError Asset × Session :=
  let (outcome, world) := s.world.invokeAdd handle method name fields
  (outcome, { s with world })

def invokeRead (s : Session) (handle : Handle) (method : String) (name : Option String)
    (fields : Fields) : Except CallError Validator × Session :=
  let (outcome, world) := s.world.invokeRead handle method name fields
  (outcome, { s with world })

def attach (s : Session) (handle : Handle) : Except SlotError Unit × Session :=
  let (outcome, world) := s.world.attach handle s.context
  (outcome, { s with world })

def viewAs (s : Session) (handle : Handle) (id : String) : Option SampleSource :=
  (kind? id).bind fun kind => s.world.viewAs handle kind.spec.type

/-- Replaces the base directory of a datasource of the `csv` kind; gives the one before. -/
def replaceDirectory (s : Session) (handle : Handle) (value : Value) : Option Value × Session :=
  match kind? "csv" with
  | none => (none, s)
  | some kind =>
    let before := (s.world.viewAs handle kind.spec.type).map fun source =>
      (source.data.get? "base_directory").getD .null
    let world := s.world.editAs handle kind.spec.type
      ⟨fun source => { source with data := source.data.insert "base_directory" value },
        fun _ => rfl⟩
    (before, { s with world })

def newContext (s : Session) (host : SampleHost) : Session :=
  let (context, world) := s.world.addHost host
  { s with world, context }.sweep

def isAttached (s : Session) (handle : Handle) : Bool :=
  (s.world.contextOf handle.source).isSome

/-- The inspection text of the slot of a `csv` datasource, and whether it ever took a reference. -/
def slot? (s : Session) (handle : Handle) : Option (Text.Inspect × Bool) :=
  (s.viewAs handle "csv").map fun source =>
    (.closed "ContextSlot" [("attached", .bool (s.isAttached handle))], source.context.isSome)

end Session

end SourceRegistry.Samples
