import SourceRegistry.Proofs.TagTable.Run

/-!
Staged entries against entries that are added directly.  At every moment a draft answers as the table
to which the same calls were made directly, and a commit makes that very table of it.  A refusal
names a conflict with a committed entry before one with a staged entry.
-/

set_option autoImplicit false
set_option relaxedAutoImplicit false

namespace SourceRegistry.TagTable

/-- A draft over a table stands for another table that took the same calls directly. -/
structure Draft.Mirrors (d : Draft) (table direct : TagTable) : Prop where
  typeOf : ∀ tag : String, d.typeOf tag = direct.typeOf tag
  tagOf : ∀ type : TypeIdent, d.tagOf type = direct.tagOf type
  stagedSize : table.size + d.stagedSize = direct.size
  commit : d.commit = direct
  drop : d.drop = table
  accepts : ∀ (type : TypeIdent) (tag : String),
    (d.attempt type tag).1 = .ok () ↔ (direct.attempt type tag).1 = .ok ()
  refuses : ∀ (type : TypeIdent) (tag : String) (cause : TagError),
    (d.attempt type tag).1 = .error cause ↔
      Conflict table.entries type tag cause ∨
        (Vacant table.entries type tag ∧ Conflict d.staged.entries type tag cause)
  unchanged : ∀ (type : TypeIdent) (tag : String) (cause : TagError),
    (d.attempt type tag).1 = .error cause → (d.attempt type tag).2 = d

theorem typeOf_eq_unknown {t : TagTable} {tag : String} {cause : TagError}
    (missing : t.typeOf tag = .error cause) : cause = .unknown tag := by
  unfold typeOf at missing
  cases found : t.entryOfTag? tag with
  | some entry => simp [found] at missing
  | none => simpa [found, eq_comm] using missing

theorem tagOf_eq_unknown {t : TagTable} {type : TypeIdent} {cause : TagError}
    (missing : t.tagOf type = .error cause) : cause = .unknown type.name := by
  unfold tagOf at missing
  cases found : t.entryOfType? type with
  | some entry => simp [found] at missing
  | none => simpa [found, eq_comm] using missing

/-- A read that falls through from one layer to another answers as a table of both, if all of them
miss the same label. -/
private theorem fallThrough_eq {α : Type} {upper lower both : Except TagError α} {label : String}
    (answers : ∀ a, both = .ok a ↔ upper = .ok a ∨ lower = .ok a)
    (lowerMisses : ∀ cause, lower = .error cause → cause = .unknown label)
    (bothMiss : ∀ cause, both = .error cause → cause = .unknown label) :
    upper.orElseLazy (fun _ => lower) = both := by
  cases upper with
  | ok a => exact ((answers a).mpr (.inl rfl)).symm
  | error cause =>
      cases lower with
      | ok a => exact ((answers a).mpr (.inr rfl)).symm
      | error other =>
          cases both with
          | error last =>
              rw [lowerMisses other rfl, bothMiss last rfl]
              rfl
          | ok a =>
              rcases (answers a).mp rfl with held | held
              · cases held
              · cases held

namespace Draft.Sound

variable {d : Draft} {type : TypeIdent} {tag : String} {cause : TagError}

theorem typeOf_eq_ok_iff (sound : d.Sound) (tag : String) :
    d.commit.typeOf tag = .ok type ↔
      d.staged.typeOf tag = .ok type ∨ d.base.typeOf tag = .ok type := by
  rw [sound.commit.typeOf_eq_ok_iff, sound.staged.typeOf_eq_ok_iff, sound.base.typeOf_eq_ok_iff,
    entries_commit, List.mem_append, or_comm]

theorem tagOf_eq_ok_iff (sound : d.Sound) (type : TypeIdent) :
    d.commit.tagOf type = .ok tag ↔ d.staged.tagOf type = .ok tag ∨ d.base.tagOf type = .ok tag := by
  rw [sound.commit.tagOf_eq_ok_iff, sound.staged.tagOf_eq_ok_iff, sound.base.tagOf_eq_ok_iff,
    entries_commit, ← exists_or]
  simp only [List.mem_append, or_and_right, or_comm]

theorem typeOf_commit (sound : d.Sound) (tag : String) : d.typeOf tag = d.commit.typeOf tag := by
  have through : d.typeOf tag = (d.staged.typeOf tag).orElseLazy fun _ => d.base.typeOf tag := by
    unfold Draft.typeOf
    cases d.staged.typeOf tag <;> rfl
  rw [through]
  exact fallThrough_eq (fun _ => sound.typeOf_eq_ok_iff tag) (fun _ => typeOf_eq_unknown)
    fun _ => typeOf_eq_unknown

theorem tagOf_commit (sound : d.Sound) (type : TypeIdent) : d.tagOf type = d.commit.tagOf type := by
  have through : d.tagOf type = (d.staged.tagOf type).orElseLazy fun _ => d.base.tagOf type := by
    unfold Draft.tagOf
    cases d.staged.tagOf type <;> rfl
  rw [through]
  exact fallThrough_eq (fun _ => sound.tagOf_eq_ok_iff type) (fun _ => tagOf_eq_unknown)
    fun _ => tagOf_eq_unknown

theorem attempt_eq_error_iff (sound : d.Sound) :
    (d.attempt type tag).1 = .error cause ↔
      Conflict d.base.entries type tag cause ∨
        (Vacant d.base.entries type tag ∧ Conflict d.staged.entries type tag cause) := by
  rw [← Draft.set_eq_error_iff sound.base sound.staged]
  unfold Draft.attempt
  cases d.set type tag <;> simp

theorem mirrors (sound : d.Sound) : d.Mirrors d.base d.commit where
  typeOf := sound.typeOf_commit
  tagOf := sound.tagOf_commit
  stagedSize := by simp only [size, stagedSize, entries_commit, List.length_append]
  commit := rfl
  drop := rfl
  accepts type tag := (sound.attempt type tag).2.2.2
  refuses type tag cause := sound.attempt_eq_error_iff
  unchanged type tag cause refused := by
    unfold Draft.attempt at refused ⊢
    cases outcome : d.set type tag with
    | error other => rfl
    | ok d' => simp [outcome] at refused

end Draft.Sound

/-- A draft over a table that operations made of the empty one mirrors, after any calls, the copy of
the table that took the same calls directly. -/
theorem attemptAll_mirrors (ops : List Op) (calls : List (String × TypeIdent)) :
    ((TagTable.empty.run ops).draft.attemptAll calls).Mirrors (TagTable.empty.run ops)
      ((TagTable.empty.run ops).attemptAll calls) := by
  obtain ⟨sound, base, commit⟩ :=
    (Draft.sound_draft (indexed_run_empty ops)).attemptAll calls
  have mirrors := sound.mirrors
  rw [base, commit] at mirrors
  exact mirrors

-- The layers show in the cause of a refusal: a draft meets the committed type before the staged tag.
example :
    let table := TagTable.empty.run [.set ⟨0, "A"⟩ "a"]
    let calls : List (String × TypeIdent) := [("b", ⟨1, "B"⟩)]
    ((table.draft.attemptAll calls).attempt ⟨0, "A"⟩ "b").1 = .error (.typeTaken ⟨0, "A"⟩ "a") ∧
      ((table.attemptAll calls).attempt ⟨0, "A"⟩ "b").1 = .error (.tagTaken "b" ⟨1, "B"⟩) := by
  decide +kernel

end SourceRegistry.TagTable
