import SourceRegistry.Registry
import SourceRegistry.World

/-!
The façade over a registry and the host of one context: factories resolved by name, their calls, and
the default datasource.
-/

set_option autoImplicit false
set_option relaxedAutoImplicit false

namespace SourceRegistry

/-- A registry as it stands, seen from one context. -/
structure Facade (σ : Type) where
  registry : Registry σ
  context : ContextId

structure BoundFactory (σ : Type) where
  binding : Binding σ
  context : ContextId

namespace BoundFactory

variable {σ η : Type}

def name (f : BoundFactory σ) : String := f.binding.name

def type (f : BoundFactory σ) : TypeIdent := f.binding.type

def inspect (f : BoundFactory σ) : Text.Inspect :=
  .closed "SourceFactory"
    [("name", .text f.name), ("signature", .text f.binding.signature.render)]

/-- Runs the function behind the factory, for a datasource that is to come. -/
def build [Source σ] [Host η σ] (f : BoundFactory σ) (w : World σ η) (name : String)
    (fields : Fields) : Except CallError σ × World σ η :=
  w.run w.sources.length (f.binding.factory.build name fields)

/-- Builds a datasource, gives it a reference to the context and hands it to the host.  A datasource
of another type than the registered one is refused; whether it takes the reference does not
matter. -/
def call [Source σ] [Host η σ] (f : BoundFactory σ) (w : World σ η) (name : String)
    (fields : Fields) : Except CallError Handle × World σ η :=
  match f.build w name fields with
  | (.error cause, w) => (.error cause, w)
  | (.ok built, w) =>
    if (Source.type built).same f.type then
      let source := (Source.attach built f.context).2
      let handle : Handle :=
        { source := w.sources.length
          type := f.type
          name := Source.name source
          methods := f.binding.methods }
      match (w.addSource source).offer f.context handle with
      | (.ok (), w') => (.ok handle, w')
      | (.error cause, w') => (.error (.host cause), w')
    else (.error (.wrongType f.type), w)

end BoundFactory

namespace Facade

variable {σ η : Type}

def members : List String := ["factories", "list_attributes", "pandas_default", "resolve"]

def factories (f : Facade σ) : List String := f.registry.factories

def resolve (f : Facade σ) (name : String) : Except UnknownFactory (BoundFactory σ) :=
  match f.registry.binding? name with
  | some binding => .ok { binding, context := f.context }
  | none => .error (.among name f.factories)

def attributes (f : Facade σ) : List String := f.factories ++ members

def existingDefault [Host η σ] (f : Facade σ) (w : World σ η) : Option Hosted :=
  (w.host? f.context).bind fun host =>
    (Host.datasources σ host).get? f.registry.settings.defaultSource.name

/-- The default datasource: the one that the host keeps under its name, if that is of the registered
type, or else a new one.  Anything else under the name is a conflict. -/
def default [Source σ] [Host η σ] (f : Facade σ) (w : World σ η) :
    Except DefaultError Handle × World σ η :=
  let wanted := f.registry.settings.defaultSource
  let expected (factory : Except UnknownFactory (BoundFactory σ)) : String :=
    match factory with
    | .ok factory => factory.type.name
    | .error _ => wanted.tag
  match f.existingDefault w, f.resolve (factoryName wanted.tag) with
  | some (.managed handle), .ok factory =>
    if handle.type.same factory.type then (.ok handle, w)
    else (.error (.conflict wanted.name handle.type.name (expected (.ok factory))), w)
  | some existing, factory =>
    (.error (.conflict wanted.name existing.kindName (expected factory)), w)
  | none, .error unknown => (.error (.create (.unknownFactory unknown)), w)
  | none, .ok factory =>
    match factory.call w wanted.name [] with
    | (.ok handle, w') => (.ok handle, w')
    | (.error cause, w') => (.error (.create cause), w')

def inspect (f : Facade σ) : Text.Inspect :=
  .record "SourceFactories" [("factories", .texts f.factories)] true

end Facade

end SourceRegistry
