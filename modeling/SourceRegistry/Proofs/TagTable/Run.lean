import SourceRegistry.Proofs.TagTable.Conflict

/-!
Runs of operations on a tag table: entries that are added directly, and drafts that are filled and
then committed or dropped.  Every table that a run makes of the empty one is indexed, and a run only
adds entries at the end.
-/

set_option autoImplicit false
set_option relaxedAutoImplicit false

namespace SourceRegistry.TagTable

def attempt (t : TagTable) (type : TypeIdent) (tag : String) : Except TagError Unit × TagTable :=
  match t.set type tag with
  | .ok t' => (.ok (), t')
  | .error cause => (.error cause, t)

/-- The table after trying to add entries in turn; those that are refused are passed over. -/
def attemptAll (t : TagTable) (calls : List (String × TypeIdent)) : TagTable :=
  calls.foldl (fun t call => (t.attempt call.2 call.1).2) t

namespace Draft

def attempt (d : Draft) (type : TypeIdent) (tag : String) : Except TagError Unit × Draft :=
  match d.set type tag with
  | .ok d' => (.ok (), d')
  | .error cause => (.error cause, d)

def attemptAll (d : Draft) (calls : List (String × TypeIdent)) : Draft :=
  calls.foldl (fun d call => (d.attempt call.2 call.1).2) d

def drop (d : Draft) : TagTable := d.base

/-- Both layers are indexed, and so is the table that a commit would make of them. -/
structure Sound (d : Draft) : Prop where
  base : d.base.Indexed
  staged : d.staged.Indexed
  commit : d.commit.Indexed

theorem commit_staged (d : Draft) (type : TypeIdent) (tag : String) :
    { d with staged := d.staged.append type tag : Draft }.commit = d.commit.append type tag := by
  simp only [commit, entries_append, List.foldl_append, List.foldl_cons, List.foldl_nil]

theorem sound_draft {t : TagTable} (indexed : t.Indexed) : t.draft.Sound :=
  ⟨indexed, Indexed.empty, indexed⟩

variable {d d' : Draft} {type : TypeIdent} {tag : String} {cause : TagError}

namespace Sound

theorem set_eq_ok_iff (sound : d.Sound) :
    d.set type tag = .ok d' ↔
      d.commit.checkVacant type tag = .ok () ∧
        d' = { d with staged := d.staged.append type tag } := by
  rw [Draft.set_eq_ok_iff_vacant sound.base sound.staged,
    sound.commit.checkVacant_eq_ok_iff_vacant, entries_commit]

theorem set (sound : d.Sound) (accepted : d.set type tag = .ok d') : d'.Sound := by
  obtain ⟨-, staged, -⟩ := Draft.set_eq_ok_iff.mp accepted
  obtain ⟨free, rfl⟩ := sound.set_eq_ok_iff.mp accepted
  refine ⟨sound.base, sound.staged.append_of_vacant staged, ?_⟩
  rw [commit_staged]
  exact sound.commit.append_of_vacant free

theorem attempt (sound : d.Sound) (type : TypeIdent) (tag : String) :
    (d.attempt type tag).2.Sound ∧ (d.attempt type tag).2.base = d.base ∧
      (d.attempt type tag).2.commit = (d.commit.attempt type tag).2 ∧
      ((d.attempt type tag).1 = .ok () ↔ (d.commit.attempt type tag).1 = .ok ()) := by
  unfold Draft.attempt TagTable.attempt
  cases staged : d.set type tag with
  | ok d' =>
      have sound' := sound.set staged
      obtain ⟨free, rfl⟩ := sound.set_eq_ok_iff.mp staged
      rw [TagTable.set_eq_ok_iff.mpr ⟨free, rfl⟩]
      exact ⟨sound', rfl, commit_staged d type tag, Iff.rfl⟩
  | error cause =>
      cases direct : d.commit.set type tag with
      | ok t' =>
          obtain ⟨free, -⟩ := TagTable.set_eq_ok_iff.mp direct
          rw [sound.set_eq_ok_iff.mpr ⟨free, rfl⟩] at staged
          cases staged
      | error other => exact ⟨sound, rfl, rfl, by simp⟩

theorem attemptAll (sound : d.Sound) (calls : List (String × TypeIdent)) :
    (d.attemptAll calls).Sound ∧ (d.attemptAll calls).base = d.base ∧
      (d.attemptAll calls).commit = d.commit.attemptAll calls := by
  induction calls generalizing d with
  | nil => exact ⟨sound, rfl, rfl⟩
  | cons call rest ih =>
      obtain ⟨next, base, commit, -⟩ := sound.attempt call.2 call.1
      obtain ⟨last, base', commit'⟩ := ih next
      refine ⟨last, base'.trans base, commit'.trans ?_⟩
      rw [commit]
      rfl

end Sound

end Draft

inductive Op where
  | set (type : TypeIdent) (tag : String)
  /-- Opens a draft, tries to stage entries in turn, and commits or drops the draft. -/
  | transaction (calls : List (String × TypeIdent)) (commits : Bool)

def perform (t : TagTable) : Op → TagTable
  | .set type tag => (t.attempt type tag).2
  | .transaction calls true => (t.draft.attemptAll calls).commit
  | .transaction calls false => (t.draft.attemptAll calls).drop

def run (t : TagTable) (ops : List Op) : TagTable := ops.foldl perform t

variable {t : TagTable}

namespace Indexed

theorem attempt (indexed : t.Indexed) (type : TypeIdent) (tag : String) :
    (t.attempt type tag).2.Indexed := by
  unfold TagTable.attempt
  cases outcome : t.set type tag with
  | error cause => exact indexed
  | ok t' =>
      obtain ⟨vacant, rfl⟩ := TagTable.set_eq_ok_iff.mp outcome
      exact indexed.append_of_vacant vacant

theorem perform (indexed : t.Indexed) (op : Op) : (t.perform op).Indexed := by
  have opened := Draft.sound_draft indexed
  cases op with
  | set type tag => exact indexed.attempt type tag
  | transaction calls commits =>
      obtain ⟨sound, -⟩ := opened.attemptAll calls
      cases commits with
      | true => exact sound.commit
      | false => exact sound.base

theorem run (indexed : t.Indexed) (ops : List Op) : (t.run ops).Indexed := by
  induction ops generalizing t with
  | nil => exact indexed
  | cons op rest ih => exact ih (indexed.perform op)

end Indexed

theorem indexed_run_empty (ops : List Op) : (TagTable.empty.run ops).Indexed :=
  Indexed.empty.run ops

theorem entries_prefix_attempt (t : TagTable) (type : TypeIdent) (tag : String) :
    t.entries <+: (t.attempt type tag).2.entries := by
  unfold attempt
  cases outcome : t.set type tag with
  | error cause => exact List.prefix_rfl
  | ok t' =>
      obtain ⟨-, rfl⟩ := set_eq_ok_iff.mp outcome
      exact List.prefix_append _ _

theorem entries_prefix_attemptAll (t : TagTable) (calls : List (String × TypeIdent)) :
    t.entries <+: (t.attemptAll calls).entries := by
  induction calls generalizing t with
  | nil => exact List.prefix_rfl
  | cons call rest ih => exact (t.entries_prefix_attempt call.2 call.1).trans (ih _)

theorem Indexed.entries_prefix_perform (indexed : t.Indexed) (op : Op) :
    t.entries <+: (t.perform op).entries := by
  cases op with
  | set type tag => exact t.entries_prefix_attempt type tag
  | transaction calls commits =>
      obtain ⟨-, base, commit⟩ := (Draft.sound_draft indexed).attemptAll calls
      cases commits with
      | true =>
          simp only [TagTable.perform, commit]
          exact t.entries_prefix_attemptAll calls
      | false =>
          simp only [TagTable.perform, Draft.drop, base]
          exact List.prefix_rfl

theorem Indexed.entries_prefix_run (indexed : t.Indexed) (ops : List Op) :
    t.entries <+: (t.run ops).entries := by
  induction ops generalizing t with
  | nil => exact List.prefix_rfl
  | cons op rest ih => exact (indexed.entries_prefix_perform op).trans (ih (indexed.perform op))

end SourceRegistry.TagTable
