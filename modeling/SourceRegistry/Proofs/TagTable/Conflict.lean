import SourceRegistry.Proofs.TagTable.Indexed

/-!
Conflicts of a new entry with the entries that are there.  A table refuses an entry for the first
conflict, of the tag before that of the type; a draft asks the committed entries before the staged
ones.
-/

set_option autoImplicit false
set_option relaxedAutoImplicit false

namespace SourceRegistry.TagTable

def Vacant (entries : List (String × TypeIdent)) (type : TypeIdent) (tag : String) : Prop :=
  ∀ entry ∈ entries, entry.1 ≠ tag ∧ entry.2.same type = false

/-- Why entries leave no room for a type under a tag: the tag is taken, or else the type is. -/
inductive Conflict (entries : List (String × TypeIdent)) (type : TypeIdent) (tag : String) :
    TagError → Prop
  | tag {holder : TypeIdent} (taken : (tag, holder) ∈ entries) :
      Conflict entries type tag (.tagTaken tag holder)
  | type {other : String} {held : TypeIdent} (free : ∀ entry ∈ entries, entry.1 ≠ tag)
      (taken : (other, held) ∈ entries) (same : held.same type = true) :
      Conflict entries type tag (.typeTaken type other)

variable {t : TagTable} {type : TypeIdent} {tag : String} {cause : TagError}

theorem vacant_append {first second : List (String × TypeIdent)} :
    Vacant (first ++ second) type tag ↔ Vacant first type tag ∧ Vacant second type tag := by
  simp only [Vacant, List.forall_mem_append]

theorem Conflict.not_vacant {entries : List (String × TypeIdent)}
    (conflict : Conflict entries type tag cause) : ¬ Vacant entries type tag := by
  intro vacant
  cases conflict with
  | tag taken => exact (vacant _ taken).1 rfl
  | type free taken same =>
      have apart := (vacant _ taken).2
      rw [same] at apart
      cases apart

theorem Indexed.checkVacant_cases (indexed : t.Indexed) (type : TypeIdent) (tag : String) :
    (t.checkVacant type tag = .ok () ∧ Vacant t.entries type tag) ∨
      ∃ cause, t.checkVacant type tag = .error cause ∧ Conflict t.entries type tag cause := by
  unfold checkVacant
  cases tagged : t.entryOfTag? tag with
  | some entry =>
      obtain ⟨member, rfl⟩ := indexed.entryOfTag?_eq_some_iff.mp tagged
      exact .inr ⟨_, rfl, .tag member⟩
  | none =>
      have free : ∀ entry ∈ t.entries, entry.1 ≠ tag := by
        intro entry member equal
        have found := indexed.entryOfTag?_eq_some_iff.mpr ⟨member, equal⟩
        rw [tagged] at found
        cases found
      cases typed : t.entryOfType? type with
      | some entry =>
          obtain ⟨member, number⟩ := indexed.entryOfType?_eq_some_iff.mp typed
          exact .inr ⟨_, rfl, .type free member (by simpa [TypeIdent.same] using number)⟩
      | none =>
          refine .inl ⟨rfl, fun entry member => ⟨free entry member, ?_⟩⟩
          by_contra same
          have number : entry.2.number = type.number := by simpa [TypeIdent.same] using same
          have found := indexed.entryOfType?_eq_some_iff.mpr ⟨member, number⟩
          rw [typed] at found
          cases found

theorem Indexed.checkVacant_eq_ok_iff_vacant (indexed : t.Indexed) :
    t.checkVacant type tag = .ok () ↔ Vacant t.entries type tag := by
  rcases indexed.checkVacant_cases type tag with ⟨ok, vacant⟩ | ⟨cause, refused, conflict⟩
  · simp only [ok, vacant]
  · simp only [refused, reduceCtorEq, conflict.not_vacant]

theorem Indexed.checkVacant_eq_error_iff (indexed : t.Indexed) :
    t.checkVacant type tag = .error cause ↔ Conflict t.entries type tag cause := by
  constructor
  · intro refused
    rcases indexed.checkVacant_cases type tag with ⟨ok, -⟩ | ⟨other, found, conflict⟩
    · rw [ok] at refused
      cases refused
    · rw [found] at refused
      cases refused
      exact conflict
  · intro conflict
    unfold checkVacant
    cases conflict with
    | tag taken =>
        rw [indexed.entryOfTag?_eq_some_iff.mpr ⟨taken, rfl⟩]
    | @type other held free taken same =>
        have unheld : t.entryOfTag? tag = none := by
          rw [indexed.entryOfTag?_eq_none_iff]
          intro held
          obtain ⟨entry, member, equal⟩ := List.mem_map.mp held
          exact free entry member equal
        have number : held.number = type.number := by simpa [TypeIdent.same] using same
        rw [unheld, indexed.entryOfType?_eq_some_iff.mpr ⟨taken, number⟩]

theorem Indexed.set_eq_error_iff (indexed : t.Indexed) :
    t.set type tag = .error cause ↔ Conflict t.entries type tag cause := by
  rw [← indexed.checkVacant_eq_error_iff]
  unfold TagTable.set
  cases t.checkVacant type tag with
  | error other => simp [bind, Except.bind]
  | ok vacant => simp [bind, Except.bind, pure, Except.pure]

theorem Draft.set_eq_ok_iff_vacant {d d' : Draft} (base : d.base.Indexed)
    (staged : d.staged.Indexed) :
    d.set type tag = .ok d' ↔
      Vacant (d.base.entries ++ d.staged.entries) type tag ∧
        d' = { d with staged := d.staged.append type tag } := by
  rw [Draft.set_eq_ok_iff, base.checkVacant_eq_ok_iff_vacant,
    staged.checkVacant_eq_ok_iff_vacant, vacant_append, and_assoc]

theorem Draft.set_eq_error_iff {d : Draft} (base : d.base.Indexed) (staged : d.staged.Indexed) :
    d.set type tag = .error cause ↔
      Conflict d.base.entries type tag cause ∨
        (Vacant d.base.entries type tag ∧ Conflict d.staged.entries type tag cause) := by
  unfold Draft.set
  rcases base.checkVacant_cases type tag with ⟨ok, vacant⟩ | ⟨other, refused, conflict⟩
  · have unopposed : ¬ Conflict d.base.entries type tag cause := fun conflict =>
      conflict.not_vacant vacant
    rw [← staged.set_eq_error_iff]
    simp only [ok, vacant, unopposed, true_and, false_or]
    cases d.staged.set type tag with
    | error later => simp [bind, Except.bind]
    | ok next => simp [bind, Except.bind, pure, Except.pure]
  · rw [← base.checkVacant_eq_error_iff, refused]
    simp [bind, Except.bind, conflict.not_vacant]

end SourceRegistry.TagTable
