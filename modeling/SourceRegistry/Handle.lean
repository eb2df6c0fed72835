import SourceRegistry.Method.Basic

/-!
Handles: how built datasources are referred to.  A handle names the place of its datasource and
carries the type that its factory was registered for, the name the datasource had when it was built,
and the methods of its type.
-/

set_option autoImplicit false
set_option relaxedAutoImplicit false

namespace SourceRegistry

abbrev SourceId := Nat

structure Handle where
  source : SourceId
  type : TypeIdent
  name : String
  methods : Methods

namespace Handle

def sameSource (a b : Handle) : Bool := a.source == b.source

def isOf (h : Handle) (type : TypeIdent) : Bool := h.type.same type

def method (h : Handle) (name : String) : Except CallError Method :=
  match h.methods.get? name with
  | some m => .ok m
  | none => .error (.unknownMethod h.name name h.methods.names)

def addProgram (h : Handle) (method name : String) (fields : Fields) : Program Asset :=
  match h.method method with
  | .error cause => .fail cause
  | .ok m =>
    match m.operation with
    | .add _ body => body h.name name fields
    | .read _ _ => .fail (.wrongKind h.name method "add-asset")

def readProgram (h : Handle) (method : String) (name : Option String) (fields : Fields) :
    Program Validator :=
  match h.method method with
  | .error cause => .fail cause
  | .ok m =>
    match m.operation with
    | .read _ body => body h.name name fields
    | .add _ _ => .fail (.wrongKind h.name method "read-asset")

def inspect (h : Handle) : Text.Inspect :=
  .closed "DatasourceHandle"
    [("name", .text h.name), ("type", h.type.inspect), ("methods", .texts h.methods.names)]

end Handle

end SourceRegistry
