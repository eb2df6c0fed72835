import SourceRegistry.Catalog
import SourceRegistry.Proofs.Methods.Table

/-!
Method tables that differ in the identity of generated function objects only.  When a registration is
committed is told apart by its function objects; everything else in the method table of a description
is the same at whatever time the table is made.
-/

set_option autoImplicit false
set_option relaxedAutoImplicit false

namespace SourceRegistry

def Operation.Alike : Operation → Operation → Prop
  | .add _ first, .add _ second => first = second
  | .read _ first, .read _ second => first = second
  | _, _ => False

/-- Methods that only the identity of their function objects tells apart. -/
structure Method.Alike (a b : Method) : Prop where
  operation : a.operation.Alike b.operation
  signature : a.signature = b.signature
  origin : a.origin = b.origin

structure Methods.Alike (a b : Methods) : Prop where
  names : a.names = b.names
  methods : ∀ name : String, Option.Rel Method.Alike (a.get? name) (b.get? name)

/-- Bindings that agree in everything but the identity of generated function objects. -/
structure Binding.Alike {σ : Type} (a b : Binding σ) : Prop where
  name : a.name = b.name
  tag : a.tag = b.tag
  type : a.type = b.type
  factory : a.factory = b.factory
  derived : a.derived = b.derived
  signature : a.signature = b.signature
  methods : Methods.Alike a.methods b.methods

theorem Method.Alike.refl (m : Method) : m.Alike m where
  operation := by cases m with | mk operation => cases operation <;> rfl
  signature := rfl
  origin := rfl

private theorem optionRel_refl (m : Option Method) : Option.Rel Method.Alike m m := by
  cases m with
  | none => exact .none
  | some m => exact .some (.refl m)

private theorem get?_putAll_alike {first second : List (String × Method)}
    (pairs : List.Forall₂ (fun a b => a.1 = b.1 ∧ Method.Alike a.2 b.2) first second)
    {a b : Methods} (alike : ∀ name, Option.Rel Method.Alike (a.get? name) (b.get? name))
    (name : String) : Option.Rel Method.Alike ((a.putAll first).get? name)
      ((b.putAll second).get? name) := by
  induction pairs generalizing a b with
  | nil => exact alike name
  | cons head _ ih =>
      rw [NamedList.putAll_cons, NamedList.putAll_cons]
      apply ih
      intro key
      rw [NamedList.get?_put, NamedList.get?_put, head.1]
      split
      · exact .some head.2
      · exact alike key

namespace SourceSpec

variable (spec : SourceSpec) (ephemeral : String) (round round' : Nat)

private theorem generated_alike :
    List.Forall₂ (fun a b => a.1 = b.1 ∧ Method.Alike a.2 b.2)
      (spec.generated ephemeral round) (spec.generated ephemeral round') := by
  unfold generated
  induction spec.undeclared with
  | nil => exact .nil
  | cons offer rest ih =>
      have add : Method.Alike (Method.generatedAdd round offer.1 offer.2)
          (Method.generatedAdd round' offer.1 offer.2) := ⟨rfl, rfl, rfl⟩
      have read : Method.Alike (Method.generatedRead round offer.1 offer.2 ephemeral)
          (Method.generatedRead round' offer.1 offer.2 ephemeral) := ⟨rfl, rfl, rfl⟩
      exact .cons ⟨rfl, add⟩ (.cons ⟨rfl, read⟩ ih)

theorem methodTable_alike :
    Methods.Alike (spec.methodTable ephemeral round) (spec.methodTable ephemeral round') where
  names := by rw [names_methodTable, names_methodTable]
  methods name := by
    rw [methodTable_eq_putAll, methodTable_eq_putAll]
    exact get?_putAll_alike (spec.generated_alike ephemeral round round')
      (fun key => optionRel_refl _) name

end SourceSpec

end SourceRegistry
