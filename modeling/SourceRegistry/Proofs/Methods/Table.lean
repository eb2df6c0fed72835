import Mathlib.Data.List.Nodup
import SourceRegistry.Proofs.NamedList
import SourceRegistry.Proofs.Registration.Staging

/-!
The method table of a description.  It is the table of the declared methods with the generated ones
stored over it; offers with different tags generate methods with different names.
-/

set_option autoImplicit false
set_option relaxedAutoImplicit false

namespace SourceRegistry

namespace Method

theorem addName_inj {tag other : String} : addName tag = addName other ↔ tag = other := by
  simp [addName, toString]

theorem readName_inj {tag other : String} : readName tag = readName other ↔ tag = other := by
  simp [readName, toString]

theorem addName_ne_readName (tag other : String) : addName tag ≠ readName other := by
  intro equal
  have adds : (addName tag).toList.head? = some 'a' := by simp [addName, toString]
  have reads : (readName other).toList.head? = some 'r' := by simp [readName, toString]
  rw [equal, reads] at adds
  cases adds

theorem disjoint_names {tag other : String} (differ : tag ≠ other) :
    List.Disjoint [addName tag, readName tag] [addName other, readName other] := by
  intro name first second
  simp only [List.mem_cons, List.not_mem_nil, or_false] at first second
  rcases first with rfl | rfl <;> rcases second with equal | equal
  · exact differ (addName_inj.mp equal)
  · exact addName_ne_readName _ _ equal
  · exact addName_ne_readName _ _ equal.symm
  · exact differ (readName_inj.mp equal)

end Method

namespace SourceSpec

def undeclared (spec : SourceSpec) : List (String × AssetSpec) :=
  spec.offers.filter fun offer => !spec.declared.contains (Method.addName offer.1)

def generated (spec : SourceSpec) (ephemeral : String) (round : Nat) : List (String × Method) :=
  spec.undeclared.flatMap fun offer =>
    [(Method.addName offer.1, Method.generatedAdd round offer.1 offer.2),
      (Method.readName offer.1, Method.generatedRead round offer.1 offer.2 ephemeral)]

def generatedNames (spec : SourceSpec) : List String :=
  spec.undeclared.flatMap fun offer => [Method.addName offer.1, Method.readName offer.1]

/-- The names of the method table: the declared ones and then the new ones among the generated. -/
def methodNames (spec : SourceSpec) : List String :=
  spec.generatedNames.foldl
    (fun names name => if name ∈ names then names else names ++ [name]) spec.declared.names

variable {spec : SourceSpec} {ephemeral : String} {round : Nat}

theorem map_fst_generated : (spec.generated ephemeral round).map Prod.fst = spec.generatedNames := by
  simp [generated, generatedNames, List.map_flatMap]

theorem methodTable_eq_putAll :
    spec.methodTable ephemeral round = spec.declared.putAll (spec.generated ephemeral round) := by
  have folded : ∀ (offers : List (String × AssetSpec)) (table : Methods),
      offers.foldl (fun table offer =>
        Method.bindGenerated spec offer.2 offer.1 ephemeral round table) table =
      table.putAll ((offers.filter fun offer =>
        !spec.declared.contains (Method.addName offer.1)).flatMap fun offer =>
          [(Method.addName offer.1, Method.generatedAdd round offer.1 offer.2),
            (Method.readName offer.1, Method.generatedRead round offer.1 offer.2 ephemeral)]) := by
    intro offers
    induction offers with
    | nil => intro table; rfl
    | cons offer rest ih =>
        intro table
        rw [List.foldl_cons, ih]
        by_cases declared : spec.declared.contains (Method.addName offer.1) = true
        · simp [Method.bindGenerated, declared]
        · have missing : spec.declared.contains (Method.addName offer.1) = false := by
            simpa using declared
          simp [Method.bindGenerated, missing, NamedList.putAll_cons]
  exact folded spec.offers spec.declared

theorem names_methodTable : (spec.methodTable ephemeral round).names = spec.methodNames := by
  rw [methodTable_eq_putAll, NamedList.names_putAll, map_fst_generated]
  rfl

theorem mem_generatedNames_iff {name : String} :
    name ∈ spec.generatedNames ↔ ∃ offer ∈ spec.offers,
      spec.declared.contains (Method.addName offer.1) = false ∧
        (name = Method.addName offer.1 ∨ name = Method.readName offer.1) := by
  simp [generatedNames, undeclared, and_assoc]

theorem nodup_generatedNames (tags : (spec.offers.map Prod.fst).Nodup) :
    spec.generatedNames.Nodup := by
  have apart : spec.undeclared.Pairwise fun a b => a.1 ≠ b.1 := by
    rw [List.nodup_iff_pairwise_ne, List.pairwise_map] at tags
    exact tags.sublist List.filter_sublist
  unfold generatedNames
  rw [List.nodup_flatMap]
  exact ⟨fun offer _ => by simp [Method.addName_ne_readName], apart.imp Method.disjoint_names⟩

theorem get?_methodTable_of_not_mem {name : String} (other : name ∉ spec.generatedNames) :
    (spec.methodTable ephemeral round).get? name = spec.declared.get? name := by
  rw [methodTable_eq_putAll]
  apply NamedList.get?_putAll_of_not_mem
  rw [map_fst_generated]
  exact other

theorem get?_methodTable_of_offer (tags : (spec.offers.map Prod.fst).Nodup)
    {offer : String × AssetSpec} (member : offer ∈ spec.offers)
    (missing : spec.declared.contains (Method.addName offer.1) = false) :
    (spec.methodTable ephemeral round).get? (Method.addName offer.1) =
        some (Method.generatedAdd round offer.1 offer.2) ∧
      (spec.methodTable ephemeral round).get? (Method.readName offer.1) =
        some (Method.generatedRead round offer.1 offer.2 ephemeral) := by
  have nodup : ((spec.generated ephemeral round).map Prod.fst).Nodup := by
    rw [map_fst_generated]
    exact nodup_generatedNames tags
  have here : offer ∈ spec.undeclared := List.mem_filter.mpr ⟨member, by simp [missing]⟩
  rw [methodTable_eq_putAll]
  constructor
  · apply NamedList.get?_putAll_of_mem nodup
    exact List.mem_flatMap.mpr ⟨offer, here, by simp⟩
  · apply NamedList.get?_putAll_of_mem nodup
    exact List.mem_flatMap.mpr ⟨offer, here, by simp⟩

theorem contains_methodTable_of_declared {name : String}
    (declared : spec.declared.contains name = true) :
    (spec.methodTable ephemeral round).contains name = true := by
  rw [methodTable_eq_putAll, NamedList.contains_putAll, declared]
  rfl

end SourceSpec

end SourceRegistry
