import Mathlib.Data.List.Basic
import Mathlib.Data.List.TakeWhile
import SourceRegistry.Signature

/-!
Merging fields into a signature.  A merge inserts one block of keyword-only parameters at the first
parameter that takes all other keyword fields, and the parameters of the block are those that a second
merge finds in its way.  So a merge can be repeated without effect, and two merges are one merge of
both lists exactly if the second list brings no name of the first that is kept.
-/

set_option autoImplicit false
set_option relaxedAutoImplicit false

namespace SourceRegistry

theorem FieldDecl.parameter_injective : Function.Injective FieldDecl.parameter := by
  intro f g equal
  obtain ⟨name, type, default⟩ := f
  obtain ⟨name', type', default'⟩ := g
  simpa [FieldDecl.parameter] using equal

namespace Signature

def front (s : Signature) : List Parameter := s.parameters.takeWhile (·.role != .varKeyword)

def rest (s : Signature) : List Parameter := s.parameters.dropWhile (·.role != .varKeyword)

/-- One block of parameters more than before, and nothing else changed: the block ends where the first
parameter stands that takes all other keyword fields, or at the end if there is none. -/
structure Inserted (before after : Signature) (block : List Parameter) : Prop where
  parameters : ∃ front rest : List Parameter, before.parameters = front ++ rest ∧
    after.parameters = front ++ block ++ rest ∧
    (∀ p ∈ front, p.role ≠ .varKeyword) ∧ ∀ p ∈ rest.head?, p.role = .varKeyword
  keywordOnly : ∀ p ∈ block, p.role = .keywordOnly
  returns : after.returns = before.returns

variable {s : Signature} {fields first second : List FieldDecl} {excluded : List String}

theorem front_append_rest (s : Signature) : s.front ++ s.rest = s.parameters :=
  List.takeWhile_append_dropWhile

theorem role_of_mem_front {p : Parameter} (member : p ∈ s.front) : p.role ≠ .varKeyword := by
  have before := List.mem_takeWhile_imp member
  simpa using before

theorem role_of_head?_rest {p : Parameter} (head : p ∈ s.rest.head?) : p.role = .varKeyword := by
  have stops := List.head?_dropWhile_not (·.role != .varKeyword) s.parameters
  unfold rest at head
  rw [Option.mem_def.mp head] at stops
  simpa using stops

theorem kept_eq_filter (s : Signature) (fields : List FieldDecl) (excluded : List String) :
    s.kept fields excluded = fields.filter fun f => f.name ∉ excluded ∧ f.name ∉ s.names := by
  simp [kept]

theorem mem_kept_iff {f : FieldDecl} :
    f ∈ s.kept fields excluded ↔ f ∈ fields ∧ f.name ∉ excluded ∧ f.name ∉ s.names := by
  simp [kept]

theorem parameters_mergeFields :
    (s.mergeFields fields excluded).parameters =
      s.front ++ (s.kept fields excluded).map FieldDecl.parameter ++ s.rest := rfl

theorem inserted_mergeFields (s : Signature) (fields : List FieldDecl) (excluded : List String) :
    s.Inserted (s.mergeFields fields excluded)
      ((s.kept fields excluded).map FieldDecl.parameter) where
  parameters := ⟨s.front, s.rest, s.front_append_rest.symm, parameters_mergeFields,
    fun _ => role_of_mem_front, fun _ => role_of_head?_rest⟩
  keywordOnly p member := by
    obtain ⟨f, -, rfl⟩ := List.mem_map.mp member
    rfl
  returns := rfl

theorem front_mergeFields :
    (s.mergeFields fields excluded).front =
      s.front ++ (s.kept fields excluded).map FieldDecl.parameter := by
  have before : ∀ p ∈ s.front ++ (s.kept fields excluded).map FieldDecl.parameter,
      (p.role != .varKeyword) = true := by
    intro p member
    rcases List.mem_append.mp member with own | block
    · simpa using role_of_mem_front own
    · obtain ⟨f, -, rfl⟩ := List.mem_map.mp block
      rfl
  have stops : s.rest.takeWhile (·.role != .varKeyword) = [] := by
    cases equal : s.rest with
    | nil => rfl
    | cons p later =>
        have role : p.role = .varKeyword := role_of_head?_rest (by rw [equal]; rfl)
        simp [role]
  rw [front, parameters_mergeFields, List.takeWhile_append_of_pos before, stops, List.append_nil]

theorem rest_mergeFields : (s.mergeFields fields excluded).rest = s.rest := by
  have whole := front_append_rest (s.mergeFields fields excluded)
  rw [front_mergeFields, parameters_mergeFields] at whole
  exact List.append_cancel_left whole

theorem mem_names_mergeFields_iff {name : String} :
    name ∈ (s.mergeFields fields excluded).names ↔
      name ∈ s.names ∨ name ∈ (s.kept fields excluded).map FieldDecl.name := by
  have own : name ∈ s.names ↔
      name ∈ s.front.map Parameter.name ∨ name ∈ s.rest.map Parameter.name := by
    rw [names, ← s.front_append_rest, List.map_append, List.mem_append]
  rw [own, names_mergeFields, List.mem_append, List.mem_append]
  exact or_right_comm

theorem kept_mergeFields :
    (s.mergeFields first excluded).kept second excluded =
      (s.kept second excluded).filter fun f => f.name ∉ (s.kept first excluded).map FieldDecl.name := by
  rw [kept_eq_filter s second, kept_eq_filter _ second, List.filter_filter]
  apply List.filter_congr
  intro f _
  simp only [mem_names_mergeFields_iff, not_or, ← Bool.decide_and, decide_eq_decide]
  rw [← and_assoc, and_comm]

theorem mergeFields_of_kept_eq_nil (nothing : s.kept fields excluded = []) :
    s.mergeFields fields excluded = s := by
  have parameters : (s.mergeFields fields excluded).parameters = s.parameters := by
    rw [parameters_mergeFields, nothing, List.map_nil, List.append_nil, front_append_rest]
  cases s
  simpa [mergeFields] using parameters

theorem mergeFields_again :
    (s.mergeFields fields excluded).mergeFields fields excluded = s.mergeFields fields excluded := by
  apply mergeFields_of_kept_eq_nil
  rw [kept_mergeFields, List.filter_eq_nil_iff]
  intro f member
  have present : f.name ∈ (s.kept fields excluded).map FieldDecl.name :=
    List.mem_map.mpr ⟨f, member, rfl⟩
  simpa using present

theorem kept_append :
    s.kept (first ++ second) excluded = s.kept first excluded ++ s.kept second excluded :=
  List.filter_append ..

theorem mergeFields_mergeFields_iff :
    (s.mergeFields first excluded).mergeFields second excluded =
        s.mergeFields (first ++ second) excluded ↔
      (s.mergeFields first excluded).kept second excluded = s.kept second excluded := by
  constructor
  · intro equal
    have parameters := congrArg Signature.parameters equal
    rw [parameters_mergeFields, parameters_mergeFields, front_mergeFields, rest_mergeFields,
      kept_append, List.map_append, ← List.append_assoc] at parameters
    have blocks := List.append_cancel_left (List.append_cancel_right parameters)
    exact List.map_injective_iff.mpr FieldDecl.parameter_injective blocks
  · intro equal
    have parameters : ((s.mergeFields first excluded).mergeFields second excluded).parameters =
        (s.mergeFields (first ++ second) excluded).parameters := by
      rw [parameters_mergeFields, parameters_mergeFields, front_mergeFields, rest_mergeFields,
        kept_append, List.map_append, ← List.append_assoc, equal]
    simpa [mergeFields] using parameters

theorem kept_mergeFields_eq_iff :
    (s.mergeFields first excluded).kept second excluded = s.kept second excluded ↔
      ∀ f ∈ second, f.name ∉ excluded → f.name ∉ s.names → f.name ∉ first.map FieldDecl.name := by
  rw [kept_mergeFields, List.filter_eq_self]
  constructor
  · intro apart f member allowed free present
    obtain ⟨g, listed, same⟩ := List.mem_map.mp present
    have kept : g ∈ s.kept first excluded :=
      mem_kept_iff.mpr ⟨listed, by rwa [same], by rwa [same]⟩
    have absent := apart f (mem_kept_iff.mpr ⟨member, allowed, free⟩)
    exact of_decide_eq_true absent (List.mem_map.mpr ⟨g, kept, same⟩)
  · intro apart f member
    obtain ⟨listed, allowed, free⟩ := mem_kept_iff.mp member
    apply decide_eq_true
    intro present
    obtain ⟨g, kept, same⟩ := List.mem_map.mp present
    exact apart f listed allowed free (List.mem_map.mpr ⟨g, (mem_kept_iff.mp kept).1, same⟩)

/-- A merge inserts the fields that are neither excluded nor named like a parameter, in their order.  A
second merge of the same fields changes nothing, and one of other fields comes to a single merge of
both lists exactly if it brings no field anew whose name the first list has. -/
theorem mergeFields_laws (s : Signature) (first second : List FieldDecl) (excluded : List String) :
    s.Inserted (s.mergeFields first excluded)
        ((first.filter fun f => f.name ∉ excluded ∧ f.name ∉ s.names).map FieldDecl.parameter) ∧
      (s.mergeFields first excluded).mergeFields first excluded = s.mergeFields first excluded ∧
      ((s.mergeFields first excluded).mergeFields second excluded =
          s.mergeFields (first ++ second) excluded ↔
        ∀ f ∈ second, f.name ∉ excluded → f.name ∉ s.names → f.name ∉ first.map FieldDecl.name) := by
  refine ⟨?_, mergeFields_again, mergeFields_mergeFields_iff.trans kept_mergeFields_eq_iff⟩
  rw [← kept_eq_filter]
  exact s.inserted_mergeFields first excluded

example :
    let s := ((empty.varKeyword "a").positional "b" "str").varKeyword "c"
    let x : FieldDecl := { name := "x", type := "str" }
    (s.mergeFields [x, x] []).names = ["x", "x", "a", "b", "c"] ∧
      (s.mergeFields [x] []).mergeFields [x] [] ≠ s.mergeFields [x, x] [] := by decide

end Signature

end SourceRegistry
