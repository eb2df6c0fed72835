import SourceRegistry.Proofs.TagTable.Run

/-!
Index maps and entries of a tag table as one bijection.  Every table that is reached from the empty
one answers all look-ups from its entries, each tag and each type stands in one entry, and no later
operation takes an entry away or moves it.
-/

set_option autoImplicit false
set_option relaxedAutoImplicit false

namespace SourceRegistry.TagTable

def found (t : TagTable) (tags : List String) : List String :=
  tags.filter fun tag => (t.typeOf tag).isOk

/-- Tags, types and entries answer one another.  Types are the same if their numbers are; the type
under a tag is answered with the name it was entered with. -/
structure Bijective (t : TagTable) : Prop where
  /-- A place that is kept for a tag is the place of an entry, and of one with this tag. -/
  tagPlace : ∀ (tag : String) (place : Nat), t.byTag[tag]? = some place →
    ∃ inside : place < t.entries.length, t.entries[place].1 = tag
  typePlace : ∀ (number place : Nat), t.byType[number]? = some place →
    ∃ inside : place < t.entries.length, t.entries[place].2.number = number
  typeOf_iff : ∀ (tag : String) (type : TypeIdent),
    t.typeOf tag = .ok type ↔ (tag, type) ∈ t.entries
  tagOf_iff : ∀ (tag : String) (type : TypeIdent),
    t.tagOf type = .ok tag ↔ ∃ held, t.typeOf tag = .ok held ∧ held.same type = true
  tag_once : ∀ a ∈ t.entries, ∃! place : Nat, ∃ type, t.entries[place]? = some (a.1, type)
  type_once : ∀ a ∈ t.entries, ∃! place : Nat,
    ∃ b, t.entries[place]? = some b ∧ b.2.same a.2 = true
  containsTag_iff : ∀ tag : String, t.containsTag tag = true ↔ ∃ type, t.typeOf tag = .ok type
  containsType_iff : ∀ type : TypeIdent,
    t.containsType type = true ↔ ∃ tag, t.tagOf type = .ok tag
  intersection_eq : ∀ tags : List String, t.intersection tags = t.found tags
  refuseKnown_ok_iff : ∀ tags : List String, t.refuseKnown tags = .ok () ↔ t.found tags = []
  refuseKnown_error_iff : ∀ (tags : List String) (cause : TagError),
    t.refuseKnown tags = .error cause ↔
      t.found tags ≠ [] ∧ cause = .alreadyPresent (t.found tags)

namespace Indexed

variable {t : TagTable}

theorem containsTag_iff (indexed : t.Indexed) (tag : String) :
    t.containsTag tag = true ↔ ∃ type, t.typeOf tag = .ok type := by
  unfold containsTag
  rw [Std.TreeMap.contains_eq_isSome_getElem?, Option.isSome_iff_exists]
  simp only [indexed.byTag, indexed.typeOf_eq_ok_iff, List.mem_iff_getElem?]
  exact exists_comm

theorem containsType_iff (indexed : t.Indexed) (type : TypeIdent) :
    t.containsType type = true ↔ ∃ tag, t.tagOf type = .ok tag := by
  unfold containsType
  rw [Std.TreeMap.contains_eq_isSome_getElem?, Option.isSome_iff_exists]
  simp only [indexed.byType, indexed.tagOf_eq_ok_iff, List.mem_iff_getElem?]
  constructor
  · rintro ⟨place, entry, here, number⟩
    exact ⟨entry.1, entry.2, ⟨place, here⟩, number⟩
  · rintro ⟨tag, held, ⟨place, here⟩, number⟩
    exact ⟨place, (tag, held), here, number⟩

theorem intersection_eq_found (indexed : t.Indexed) (tags : List String) :
    t.intersection tags = t.found tags := by
  unfold intersection found
  apply List.filter_congr
  intro tag _
  rw [Bool.eq_iff_iff, indexed.containsTag_iff]
  cases t.typeOf tag <;> simp [Except.isOk, Except.toBool]

theorem refuseKnown_eq (indexed : t.Indexed) (tags : List String) :
    t.refuseKnown tags =
      if t.found tags = [] then .ok () else .error (.alreadyPresent (t.found tags)) := by
  unfold refuseKnown
  rw [indexed.intersection_eq_found]
  cases t.found tags <;> rfl

theorem tag_once (indexed : t.Indexed) {a : String × TypeIdent} (member : a ∈ t.entries) :
    ∃! place : Nat, ∃ type, t.entries[place]? = some (a.1, type) := by
  obtain ⟨place, here⟩ := List.mem_iff_getElem?.mp member
  -- the index leads from the tag to one place only
  have led := (indexed.byTag a.1 place).mpr ⟨a.2, here⟩
  refine ⟨place, ⟨a.2, here⟩, fun other stands => ?_⟩
  have found := (indexed.byTag a.1 other).mpr stands
  rw [led] at found
  exact (Option.some.inj found).symm

theorem type_once (indexed : t.Indexed) {a : String × TypeIdent} (member : a ∈ t.entries) :
    ∃! place : Nat, ∃ b, t.entries[place]? = some b ∧ b.2.same a.2 = true := by
  simp only [TypeIdent.same, beq_iff_eq]
  obtain ⟨place, here⟩ := List.mem_iff_getElem?.mp member
  have led := (indexed.byType a.2.number place).mpr ⟨a, here, rfl⟩
  refine ⟨place, ⟨a, here, rfl⟩, fun other stands => ?_⟩
  have found := (indexed.byType a.2.number other).mpr stands
  rw [led] at found
  exact (Option.some.inj found).symm

theorem bijective (indexed : t.Indexed) : t.Bijective where
  tagPlace tag place led := by
    obtain ⟨type, here⟩ := (indexed.byTag tag place).mp led
    obtain ⟨inside, entry⟩ := List.getElem?_eq_some_iff.mp here
    exact ⟨inside, by rw [entry]⟩
  typePlace number place led := by
    obtain ⟨entry, here, same⟩ := (indexed.byType number place).mp led
    obtain ⟨inside, stored⟩ := List.getElem?_eq_some_iff.mp here
    exact ⟨inside, by rw [stored, same]⟩
  typeOf_iff tag type := indexed.typeOf_eq_ok_iff
  tagOf_iff tag type := by
    simp only [indexed.tagOf_eq_ok_iff, indexed.typeOf_eq_ok_iff, TypeIdent.same, beq_iff_eq]
  tag_once a member := indexed.tag_once member
  type_once a member := indexed.type_once member
  containsTag_iff := indexed.containsTag_iff
  containsType_iff := indexed.containsType_iff
  intersection_eq := indexed.intersection_eq_found
  refuseKnown_ok_iff tags := by
    rw [indexed.refuseKnown_eq]
    by_cases none : t.found tags = [] <;> simp [none]
  refuseKnown_error_iff tags cause := by
    rw [indexed.refuseKnown_eq]
    by_cases none : t.found tags = [] <;> simp [none, eq_comm]

end Indexed

/-- Every table that operations make of the empty one is a bijection, and all later operations keep
its entries in their places. -/
theorem run_empty_bijective (ops later : List Op) :
    (TagTable.empty.run ops).Bijective ∧
      (TagTable.empty.run ops).entries <+: ((TagTable.empty.run ops).run later).entries :=
  ⟨(indexed_run_empty ops).bijective, (indexed_run_empty ops).entries_prefix_run later⟩

end SourceRegistry.TagTable
