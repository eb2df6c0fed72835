/-!
Call signatures.  They describe what a factory or an asset method accepts and never affect a call.
-/

set_option autoImplicit false
set_option relaxedAutoImplicit false

namespace SourceRegistry

/-- A field that a type declares; without a default text it has to be given. -/
structure FieldDecl where
  name : String
  type : String
  default : Option String := none
  deriving DecidableEq, Repr

inductive Role where
  | positional
  | keywordOnly
  /-- Takes all keyword fields that no other parameter names. -/
  | varKeyword
  deriving DecidableEq, Repr

structure Parameter where
  name : String
  role : Role
  type : Option String := none
  default : Option String := none
  deriving DecidableEq, Repr

structure Signature where
  parameters : List Parameter := []
  returns : Option String := none
  deriving DecidableEq, Repr

def FieldDecl.parameter (f : FieldDecl) : Parameter :=
  { name := f.name, role := .keywordOnly, type := some f.type, default := f.default }

/-- The text of a parameter without the mark of its role. -/
def Parameter.plain (p : Parameter) : String :=
  p.name ++ (match p.type with | some a => ": " ++ a | none => "")
    ++ (match p.default with | some d => " = " ++ d | none => "")

namespace Signature

def empty : Signature := {}

instance : Inhabited Signature := ⟨empty⟩

def push (s : Signature) (p : Parameter) : Signature :=
  { s with parameters := s.parameters ++ [p] }

def positional (s : Signature) (name type : String) : Signature :=
  s.push { name, role := .positional, type := some type }

def optionalPositional (s : Signature) (name type default : String) : Signature :=
  s.push { name, role := .positional, type := some type, default := some default }

def varKeyword (s : Signature) (name : String) : Signature :=
  s.push { name, role := .varKeyword }

def returning (s : Signature) (type : String) : Signature :=
  { s with returns := some type }

def names (s : Signature) : List String := s.parameters.map (·.name)

/-- The fields that a merge keeps: not excluded, and named like no parameter present before. -/
def kept (s : Signature) (fields : List FieldDecl) (excluded : List String) : List FieldDecl :=
  fields.filter fun f => !excluded.contains f.name && !s.names.contains f.name

/-- Adds fields as keyword-only parameters right before the first parameter that takes all other
keyword fields, or at the end if there is none. -/
def mergeFields (s : Signature) (fields : List FieldDecl) (excluded : List String) : Signature :=
  let before := s.parameters.takeWhile (·.role != .varKeyword)
  let after := s.parameters.dropWhile (·.role != .varKeyword)
  { s with parameters := before ++ (s.kept fields excluded).map FieldDecl.parameter ++ after }

/-- The texts of parameters in order; a bare star stands once before the first keyword-only
parameter, unless a parameter with a double star came before it. -/
def renderFrom (starred : Bool) : List Parameter → List String
  | [] => []
  | p :: rest =>
    match p.role with
    | .positional => p.plain :: renderFrom starred rest
    | .keywordOnly =>
      (if starred then p.plain else "*, " ++ p.plain) :: renderFrom true rest
    | .varKeyword => ("**" ++ p.plain) :: renderFrom true rest

theorem names_mergeFields (s : Signature) (fields : List FieldDecl) (excluded : List String) :
    (s.mergeFields fields excluded).names =
      (s.parameters.takeWhile (·.role != .varKeyword)).map (·.name) ++
        (s.kept fields excluded).map (·.name) ++
        (s.parameters.dropWhile (·.role != .varKeyword)).map (·.name) := by
  simp [names, mergeFields, Function.comp_def, FieldDecl.parameter]

def render (s : Signature) : String :=
  "(" ++ ", ".intercalate (renderFrom false s.parameters) ++ ")"
    ++ (match s.returns with | some r => " -> " ++ r | none => "")

end Signature

end SourceRegistry
