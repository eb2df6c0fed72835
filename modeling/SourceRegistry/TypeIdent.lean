import SourceRegistry.Text.Inspect

/-!
The identity of a registrable type.  Two idents are the same when their numbers agree; the name is
carried for messages and tells whether the type is private.
-/

set_option autoImplicit false
set_option relaxedAutoImplicit false

namespace SourceRegistry

structure TypeIdent where
  number : Nat
  name : String
  deriving DecidableEq, Repr

namespace TypeIdent

/-- Tells whether two idents stand for one type; names do not count. -/
def same (a b : TypeIdent) : Bool := a.number == b.number

def isPrivate (t : TypeIdent) : Bool := t.name.toList.head? == some '_'

def inspect (t : TypeIdent) : Text.Inspect := .tuple "TypeKey" [.text t.name]

def untilPath : List Char → List Char
  | [] => []
  | ':' :: ':' :: _ => []
  | c :: rest => c :: untilPath rest

/-- The short name of a full type name: of what stands before the first `<` (that is, without type
arguments), the part after the last `::`.  The part is looked for from the end. -/
def shortName (full : String) : String :=
  String.ofList (untilPath (full.toList.takeWhile (· != '<')).reverse).reverse

end TypeIdent

end SourceRegistry
