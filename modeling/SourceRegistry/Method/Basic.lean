import SourceRegistry.Method.Program

/-!
Asset methods of a datasource type and the table that holds them by name.
-/

set_option autoImplicit false
set_option relaxedAutoImplicit false

namespace SourceRegistry

/-- The identity of a function object: one that a caller supplied, or one that a registration made
(told apart by the number of registrations before it and a label within the registration). -/
inductive ObjectId where
  | given (number : Nat)
  | made (round : Nat) (label : String)
  deriving DecidableEq, Repr

inductive Origin where
  /-- Declared by the datasource type itself. -/
  | declared
  /-- Generated for an asset type by a registration. -/
  | generated
  deriving DecidableEq, Repr

/-- What a method does, given the name of the datasource it is called on. -/
inductive Operation where
  /-- Adds an asset of a given name. -/
  | add (id : ObjectId) (body : String → String → Fields → Program Asset)
  /-- Answers with a validator; the name of the asset may be left out. -/
  | read (id : ObjectId) (body : String → Option String → Fields → Program Validator)

namespace Operation

def same : Operation → Operation → Bool
  | .add a _, .add b _ => a == b
  | .read a _, .read b _ => a == b
  | _, _ => false

def kindName : Operation → String
  | .add _ _ => "add"
  | .read _ _ => "read"

end Operation

structure Method where
  operation : Operation
  signature : Signature := {}
  origin : Origin := .declared

namespace Method

def same (a b : Method) : Bool := a.operation.same b.operation

def inspect (m : Method) : Text.Inspect :=
  .closed "AssetMethod"
    [("kind", .text m.operation.kindName),
      ("origin", .atom (match m.origin with
        | .declared => "Declared"
        | .generated => "Synthesized")),
      ("signature", .text m.signature.render)]

end Method

/-- Methods by name, in the order in which the names first came in. -/
abbrev Methods := NamedList Method

end SourceRegistry
