import Mathlib.Order.Bounds.Defs
import Mathlib.Order.MinMax
import SourceRegistry.Suggestion

/-!
Edit distances.  One edit inserts, deletes or replaces one character anywhere in a text.  The first
entry of the last row of distances is the least number of edits that turn the source into the target:
so many edits are enough, and no chain of edits that gets there is shorter.
-/

set_option autoImplicit false
set_option relaxedAutoImplicit false

namespace SourceRegistry.Suggestion

variable {α : Type}

inductive Edit : List α → List α → Prop
  | insert (front rest : List α) (c : α) : Edit (front ++ rest) (front ++ c :: rest)
  | delete (front rest : List α) (c : α) : Edit (front ++ c :: rest) (front ++ rest)
  | replace (front rest : List α) (c d : α) : Edit (front ++ c :: rest) (front ++ d :: rest)

/-- So many edits, one after another, turn one text into another. -/
inductive Edits : Nat → List α → List α → Prop
  | none (text : List α) : Edits 0 text text
  | more {count : Nat} {first second last : List α} (edit : Edit first second)
      (later : Edits count second last) : Edits (count + 1) first last

theorem Edit.cons {source target : List α} (edit : Edit source target) (c : α) :
    Edit (c :: source) (c :: target) := by
  cases edit with
  | insert front rest d => exact .insert (c :: front) rest d
  | delete front rest d => exact .delete (c :: front) rest d
  | replace front rest d e => exact .replace (c :: front) rest d e

theorem Edits.cons {count : Nat} {source target : List α} (edits : Edits count source target) (c : α) :
    Edits count (c :: source) (c :: target) := by
  induction edits with
  | none text => exact .none (c :: text)
  | more edit _ ih => exact .more (edit.cons c) ih

theorem edits_insertAll (target : List α) : Edits target.length [] target := by
  induction target with
  | nil => exact .none []
  | cons t target ih => exact .more (.insert [] [] t) (ih.cons t)

theorem edits_deleteAll (source : List α) : Edits source.length source [] := by
  induction source with
  | nil => exact .none []
  | cons c source ih => exact .more (.delete [] source c) ih

variable [DecidableEq α]

theorem Edits.replaceFirst {count : Nat} {source target : List α} (edits : Edits count source target)
    (c t : α) : Edits (count + if c = t then 0 else 1) (c :: source) (t :: target) := by
  split
  · rename_i same
    subst same
    exact edits.cons c
  · exact .more (.replace [] source c t) (edits.cons t)

def distance (source target : List α) : Nat := (distanceRow target source).headD 0

section Table

variable (c t : α) (source target : List α)

private theorem nextRow_cons {previous : List Nat} (here : Nat) (filled : previous ≠ [])
    (filled' : nextRow c target previous ≠ []) :
    nextRow c (t :: target) (here :: previous) =
      min (min (here + 1) ((nextRow c target previous).headD 0 + 1))
        (previous.headD 0 + if c = t then 0 else 1) :: nextRow c target previous := by
  obtain ⟨next, rest, rfl⟩ := List.exists_cons_of_ne_nil filled
  obtain ⟨right, row, equal⟩ := List.exists_cons_of_ne_nil filled'
  simp [nextRow, equal]

private theorem distanceRow_nil : distanceRow [] source = [source.length] := by
  induction source with
  | nil => rfl
  | cons c source ih => simp [distanceRow, ih, nextRow]

private theorem distanceRow_cons (filled : ∀ source, distanceRow target source ≠ []) :
    distanceRow (t :: target) source =
      distance source (t :: target) :: distanceRow target source := by
  induction source with
  | nil => rfl
  | cons c source ih =>
      have next := nextRow_cons c t target (distance source (t :: target)) (filled source)
        (filled (c :: source))
      rw [distance, distanceRow, ih, next]
      rfl

private theorem distanceRow_ne_nil : distanceRow target source ≠ [] := by
  induction target generalizing source with
  | nil => simp [distanceRow_nil]
  | cons t target ih => simp [distanceRow_cons t source target ih]

theorem distance_nil_left : distance [] target = target.length := by
  cases target <;> rfl

theorem distance_nil_right : distance source [] = source.length := by
  simp [distance, distanceRow_nil]

theorem distance_cons_cons :
    distance (c :: source) (t :: target) =
      min (min (distance source (t :: target) + 1) (distance (c :: source) target + 1))
        (distance source target + if c = t then 0 else 1) := by
  -- the first characters are settled by a deletion, an insertion or a replacement; a replacement by
  -- the same character is free of charge
  have filled := fun source => distanceRow_ne_nil source target
  have next := nextRow_cons c t target (distance source (t :: target)) (filled source)
    (filled (c :: source))
  rw [distance, distanceRow, distanceRow_cons t source target filled, next]
  rfl

end Table

theorem edits_distance (source target : List α) : Edits (distance source target) source target := by
  induction source generalizing target with
  | nil =>
      rw [distance_nil_left]
      exact edits_insertAll target
  | cons c source ih =>
      induction target with
      | nil =>
          rw [distance_nil_right]
          exact edits_deleteAll (c :: source)
      | cons t target before =>
          have deleted := Edits.more (.delete [] source c) (ih (t :: target))
          have inserted := Edits.more (.insert [] (c :: source) t) (before.cons t)
          have replaced := (ih target).replaceFirst c t
          rw [distance_cons_cons]
          rcases min_choice (min (distance source (t :: target) + 1) (distance (c :: source) target + 1))
            (distance source target + if c = t then 0 else 1) with outer | outer
          · rw [outer]
            rcases min_choice (distance source (t :: target) + 1)
              (distance (c :: source) target + 1) with inner | inner
            · rw [inner]
              exact deleted
            · rw [inner]
              exact inserted
          · rw [outer]
            exact replaced

section Few

variable (c d t : α) (source target : List α)

theorem distance_self (text : List α) : distance text text = 0 := by
  induction text with
  | nil => rfl
  | cons c text ih => simp [distance_cons_cons, ih]

theorem distance_insertTarget_le : distance source (t :: target) ≤ distance source target + 1 := by
  cases source with
  | nil => simp [distance_nil_left]
  | cons c source =>
      rw [distance_cons_cons]
      omega

theorem distance_delete_le : distance (c :: source) target ≤ distance source target + 1 := by
  cases target with
  | nil => simp [distance_nil_right]
  | cons t target =>
      rw [distance_cons_cons]
      omega

theorem distance_insert_le : distance source target ≤ distance (c :: source) target + 1 := by
  induction target with
  | nil =>
      simp only [distance_nil_right, List.length_cons]
      omega
  | cons t target ih =>
      have longer := distance_insertTarget_le t source target
      rw [distance_cons_cons]
      omega

theorem distance_replace_le : distance (c :: source) target ≤ distance (d :: source) target + 1 := by
  induction target with
  | nil => simp [distance_nil_right]
  | cons t target ih =>
      have cost : (if c = t then 0 else 1) ≤ 1 := by split <;> omega
      rw [distance_cons_cons, distance_cons_cons]
      omega

theorem distance_cons_le {source' : List α}
    (closer : ∀ target, distance source target ≤ distance source' target + 1) :
    distance (c :: source) target ≤ distance (c :: source') target + 1 := by
  induction target with
  | nil =>
      have lengths := closer []
      simp only [distance_nil_right, List.length_cons] at lengths ⊢
      omega
  | cons t target ih =>
      have whole := closer (t :: target)
      have rest := closer target
      rw [distance_cons_cons, distance_cons_cons]
      omega

end Few

theorem Edit.distance_le {source source' : List α} (edit : Edit source source') (target : List α) :
    distance source target ≤ distance source' target + 1 := by
  -- all three kinds are settled at their place first and then carried over the characters in front
  have carried : ∀ (front : List α) {rest rest' : List α},
      (∀ target, distance rest target ≤ distance rest' target + 1) → ∀ target,
        distance (front ++ rest) target ≤ distance (front ++ rest') target + 1 := by
    intro front
    induction front with
    | nil => exact fun closer => closer
    | cons c front ih => exact fun closer target => distance_cons_le c _ target (ih closer)
  cases edit with
  | insert front rest c => exact carried front (distance_insert_le c rest) target
  | delete front rest c => exact carried front (distance_delete_le c rest) target
  | replace front rest c d => exact carried front (distance_replace_le c d rest) target

theorem Edits.distance_le {count : Nat} {source target : List α} (edits : Edits count source target) :
    distance source target ≤ count := by
  induction edits with
  | none text => exact (distance_self text).le
  | @more count first second last edit _ ih =>
      have closer := edit.distance_le last
      omega

/-- The distance is the least number of edits that turn the source into the target. -/
theorem distance_isLeast (source target : List α) :
    IsLeast {count | Edits count source target} (distance source target) :=
  ⟨edits_distance source target, fun _ edits => edits.distance_le⟩

example : editDistance "kitten" "sitting" = 3 := by decide +kernel

end SourceRegistry.Suggestion
