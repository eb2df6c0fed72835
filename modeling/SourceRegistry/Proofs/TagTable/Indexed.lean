import Mathlib.Data.List.Induction
import SourceRegistry.TagTable.Draft

/-!
Tag tables whose index maps agree with their entries.  In such a table every tag names one type and
every type carries one tag, the look-ups answer from the entries, and an entry that is vacant can be
appended without losing the agreement.
-/

set_option autoImplicit false
set_option relaxedAutoImplicit false

namespace SourceRegistry.TagTable

def numbers (t : TagTable) : List Nat := t.entries.map fun entry => entry.2.number

/-- Both index maps lead exactly to the places of the entries. -/
structure Indexed (t : TagTable) : Prop where
  byTag : ∀ (tag : String) (place : Nat),
    t.byTag[tag]? = some place ↔ ∃ type, t.entries[place]? = some (tag, type)
  byType : ∀ (number place : Nat),
    t.byType[number]? = some place ↔
      ∃ entry, t.entries[place]? = some entry ∧ entry.2.number = number

def ofEntries (entries : List (String × TypeIdent)) : TagTable :=
  entries.foldl (fun table entry => table.append entry.2 entry.1) {}

theorem ofEntries_concat (entries : List (String × TypeIdent)) (tag : String)
    (type : TypeIdent) :
    ofEntries (entries ++ [(tag, type)]) = (ofEntries entries).append type tag := by
  simp only [ofEntries, List.foldl_append, List.foldl_cons, List.foldl_nil]

@[simp] theorem entries_ofEntries (entries : List (String × TypeIdent)) :
    (ofEntries entries).entries = entries := by
  induction entries using List.reverseRecOn with
  | nil => rfl
  | append_singleton entries entry ih =>
      rw [ofEntries_concat, entries_append, ih]

private theorem getElem?_concat {α : Type} (l : List α) (a b : α) (place : Nat) :
    (l ++ [a])[place]? = some b ↔
      l[place]? = some b ∨ (place = l.length ∧ a = b) := by
  rcases Nat.lt_trichotomy place l.length with before | here | after
  · rw [List.getElem?_append_left before]
    simp [Nat.ne_of_lt before]
  · subst here
    simp
  · have beyond : (l ++ [a]).length ≤ place := by
      simp only [List.length_append, List.length_singleton]
      omega
    rw [List.getElem?_eq_none beyond, List.getElem?_eq_none (Nat.le_of_lt after)]
    simp [Nat.ne_of_gt after]

namespace Indexed

variable {t : TagTable}

theorem empty : ({} : TagTable).Indexed where
  byTag tag place := by simp
  byType number place := by simp

theorem entryOfTag?_eq_some_iff (indexed : t.Indexed) {tag : String}
    {entry : String × TypeIdent} :
    t.entryOfTag? tag = some entry ↔ entry ∈ t.entries ∧ entry.1 = tag := by
  simp only [entryOfTag?, Option.bind_eq_some_iff]
  constructor
  · rintro ⟨place, found, here⟩
    obtain ⟨type, stored⟩ := (indexed.byTag tag place).mp found
    obtain rfl : (tag, type) = entry := Option.some.inj (stored.symm.trans here)
    exact ⟨List.mem_of_getElem? here, rfl⟩
  · rintro ⟨member, rfl⟩
    obtain ⟨place, here⟩ := List.mem_iff_getElem?.mp member
    exact ⟨place, (indexed.byTag entry.1 place).mpr ⟨entry.2, here⟩, here⟩

theorem entryOfType?_eq_some_iff (indexed : t.Indexed) {type : TypeIdent}
    {entry : String × TypeIdent} :
    t.entryOfType? type = some entry ↔ entry ∈ t.entries ∧ entry.2.number = type.number := by
  simp only [entryOfType?, Option.bind_eq_some_iff]
  constructor
  · rintro ⟨place, found, here⟩
    obtain ⟨other, stored, number⟩ := (indexed.byType type.number place).mp found
    obtain rfl : other = entry := Option.some.inj (stored.symm.trans here)
    exact ⟨List.mem_of_getElem? here, number⟩
  · rintro ⟨member, number⟩
    obtain ⟨place, here⟩ := List.mem_iff_getElem?.mp member
    exact ⟨place, (indexed.byType type.number place).mpr ⟨entry, here, number⟩, here⟩

theorem entryOfTag?_eq_none_iff (indexed : t.Indexed) {tag : String} :
    t.entryOfTag? tag = none ↔ tag ∉ t.tags := by
  rw [Option.eq_none_iff_forall_ne_some]
  simp only [ne_eq, indexed.entryOfTag?_eq_some_iff, tags, List.mem_map, not_exists]

theorem entryOfType?_eq_none_iff (indexed : t.Indexed) {type : TypeIdent} :
    t.entryOfType? type = none ↔ type.number ∉ t.numbers := by
  rw [Option.eq_none_iff_forall_ne_some]
  simp only [ne_eq, indexed.entryOfType?_eq_some_iff, numbers, List.mem_map, not_exists]

theorem nodup_tags (indexed : t.Indexed) : t.tags.Nodup := by
  unfold tags
  rw [List.nodup_iff_pairwise_ne, List.pairwise_map, List.pairwise_iff_getElem]
  intro i j inside inside' before same
  have first := (indexed.byTag t.entries[i].1 i).mpr
    ⟨t.entries[i].2, List.getElem?_eq_getElem inside⟩
  have second := (indexed.byTag t.entries[j].1 j).mpr
    ⟨t.entries[j].2, List.getElem?_eq_getElem inside'⟩
  rw [same, second] at first
  have equal := Option.some.inj first
  omega

theorem nodup_numbers (indexed : t.Indexed) : t.numbers.Nodup := by
  unfold numbers
  rw [List.nodup_iff_pairwise_ne, List.pairwise_map, List.pairwise_iff_getElem]
  intro i j inside inside' before same
  have first := (indexed.byType t.entries[i].2.number i).mpr
    ⟨t.entries[i], List.getElem?_eq_getElem inside, rfl⟩
  have second := (indexed.byType t.entries[j].2.number j).mpr
    ⟨t.entries[j], List.getElem?_eq_getElem inside', rfl⟩
  rw [same, second] at first
  have equal := Option.some.inj first
  omega

theorem typeOf_eq_ok_iff (indexed : t.Indexed) {tag : String} {type : TypeIdent} :
    t.typeOf tag = .ok type ↔ (tag, type) ∈ t.entries := by
  unfold typeOf
  cases found : t.entryOfTag? tag with
  | none =>
      have absent := indexed.entryOfTag?_eq_none_iff.mp found
      simp only [reduceCtorEq, false_iff]
      exact fun member => absent (List.mem_map.mpr ⟨(tag, type), member, rfl⟩)
  | some entry =>
      obtain ⟨member, rfl⟩ := indexed.entryOfTag?_eq_some_iff.mp found
      simp only [Except.ok.injEq]
      constructor
      · rintro rfl
        exact member
      · intro other
        have same := indexed.entryOfTag?_eq_some_iff.mpr ⟨other, rfl⟩
        exact congrArg Prod.snd (Option.some.inj (found.symm.trans same))

theorem tagOf_eq_ok_iff (indexed : t.Indexed) {tag : String} {type : TypeIdent} :
    t.tagOf type = .ok tag ↔
      ∃ held, (tag, held) ∈ t.entries ∧ held.number = type.number := by
  unfold tagOf
  cases found : t.entryOfType? type with
  | none =>
      have absent := indexed.entryOfType?_eq_none_iff.mp found
      simp only [reduceCtorEq, false_iff]
      rintro ⟨held, member, number⟩
      exact absent (List.mem_map.mpr ⟨(tag, held), member, number⟩)
  | some entry =>
      obtain ⟨member, number⟩ := indexed.entryOfType?_eq_some_iff.mp found
      simp only [Except.ok.injEq]
      constructor
      · rintro rfl
        exact ⟨entry.2, member, number⟩
      · rintro ⟨held, other, sameNumber⟩
        have same := indexed.entryOfType?_eq_some_iff.mpr ⟨other, sameNumber⟩
        exact congrArg Prod.fst (Option.some.inj (found.symm.trans same))

theorem checkVacant_eq_ok_iff (indexed : t.Indexed) {type : TypeIdent} {tag : String} :
    t.checkVacant type tag = .ok () ↔ tag ∉ t.tags ∧ type.number ∉ t.numbers := by
  rw [← indexed.entryOfTag?_eq_none_iff, ← indexed.entryOfType?_eq_none_iff]
  unfold checkVacant
  cases t.entryOfTag? tag with
  | some entry => simp
  | none => cases t.entryOfType? type <;> simp

theorem append (indexed : t.Indexed) {type : TypeIdent} {tag : String} (newTag : tag ∉ t.tags)
    (newType : type.number ∉ t.numbers) : (t.append type tag).Indexed where
  byTag key place := by
    -- no place but the new one leads to a vacant tag, so appending keeps the agreement
    simp only [TagTable.append, Std.TreeMap.getElem?_insert, getElem?_concat, exists_or]
    rw [← indexed.byTag key place]
    by_cases same : tag = key
    · subst same
      have missing : t.byTag[tag]? ≠ some place := by
        intro found
        obtain ⟨held, here⟩ := (indexed.byTag tag place).mp found
        exact newTag (List.mem_map.mpr ⟨(tag, held), List.mem_of_getElem? here, rfl⟩)
      simp [missing, eq_comm]
    · simp [same]
  byType number place := by
    simp only [TagTable.append, Std.TreeMap.getElem?_insert, getElem?_concat, or_and_right,
      exists_or]
    rw [← indexed.byType number place]
    by_cases same : type.number = number
    · subst same
      have missing : t.byType[type.number]? ≠ some place := by
        intro found
        obtain ⟨held, here, number⟩ := (indexed.byType type.number place).mp found
        exact newType (List.mem_map.mpr ⟨held, List.mem_of_getElem? here, number⟩)
      have atEnd : (∃ entry : String × TypeIdent, (place = t.entries.length ∧
          (tag, type) = entry) ∧ entry.2.number = type.number) ↔ place = t.entries.length := by
        constructor
        · rintro ⟨entry, ⟨here, -⟩, -⟩
          exact here
        · intro here
          exact ⟨(tag, type), ⟨here, rfl⟩, rfl⟩
      rw [atEnd]
      simp [missing, eq_comm]
    · simp [same]

theorem append_of_vacant (indexed : t.Indexed) {type : TypeIdent} {tag : String}
    (vacant : t.checkVacant type tag = .ok ()) : (t.append type tag).Indexed := by
  obtain ⟨newTag, newType⟩ := indexed.checkVacant_eq_ok_iff.mp vacant
  exact indexed.append newTag newType

end Indexed

theorem Draft.set_eq_ok_iff {d d' : Draft} {type : TypeIdent} {tag : String} :
    d.set type tag = .ok d' ↔
      d.base.checkVacant type tag = .ok () ∧ d.staged.checkVacant type tag = .ok () ∧
        d' = { d with staged := d.staged.append type tag } := by
  unfold Draft.set
  cases d.base.checkVacant type tag with
  | error cause => simp [bind, Except.bind]
  | ok vacant =>
      cases staged : d.staged.set type tag with
      | error cause =>
          have refused : d.staged.checkVacant type tag ≠ .ok () := by
            intro vacant
            rw [TagTable.set, vacant] at staged
            cases staged
          simp [bind, Except.bind, refused]
      | ok next =>
          obtain ⟨vacant, rfl⟩ := TagTable.set_eq_ok_iff.mp staged
          simp [bind, Except.bind, pure, Except.pure, vacant, eq_comm]

theorem Draft.commit_of_base_empty (entries : List (String × TypeIdent)) :
    ({ base := {}, staged := ofEntries entries } : Draft).commit = ofEntries entries := by
  simp only [Draft.commit, entries_ofEntries]
  rfl

end SourceRegistry.TagTable
