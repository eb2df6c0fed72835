import Mathlib.Order.Basic
import Mathlib.Tactic.SplitIfs

/-!
The order of texts.  Texts are compared by their characters, and that is the order of their bytes in
UTF-8: of two characters the greater has the greater bytes, at the latest where its own bytes end.
-/

set_option autoImplicit false
set_option relaxedAutoImplicit false

namespace SourceRegistry.Text

def bytes (text : String) : List UInt8 := text.toByteArray.data.toList

theorem bytes_eq_flatMap (text : String) :
    bytes text = text.toList.flatMap String.utf8EncodeChar := by
  unfold bytes
  rw [← String.utf8Encode_toList, List.utf8Encode, List.toList_data_toByteArray]

private theorem ofNat_cons_lt_iff {x y : Nat} (first : x < 256) (second : y < 256)
    {rest rest' : List UInt8} :
    UInt8.ofNat x :: rest < UInt8.ofNat y :: rest' ↔ x < y ∨ x = y ∧ rest < rest' := by
  rw [List.cons_lt_cons_iff, UInt8.lt_iff_toNat_lt, ← UInt8.toNat_inj,
    UInt8.toNat_ofNat_of_lt' first, UInt8.toNat_ofNat_of_lt' second]

theorem utf8EncodeChar_append_lt {c d : Char} (smaller : c < d) (after after' : List UInt8) :
    String.utf8EncodeChar c ++ after < String.utf8EncodeChar d ++ after' := by
  -- the bytes of a smaller character are smaller before either of them end, so it does not matter
  -- what comes after them
  have points : c.val.toNat < d.val.toNat := UInt32.lt_iff_toNat_lt.mp smaller
  have bound : d.val.toNat < 0x110000 := by
    have valid := d.valid
    simp only [UInt32.isValidChar, Nat.isValidChar] at valid
    omega
  unfold String.utf8EncodeChar
  generalize c.val.toNat = v at points
  generalize d.val.toNat = w at points bound
  have top : v / 262144 % 8 = v / 262144 := by omega
  have top' : w / 262144 % 8 = w / 262144 := by omega
  -- from the front, the first place where the digits to the base 64 differ decides
  have lead : v / 262144 < w / 262144 ∨ v / 262144 = w / 262144 :=
    Nat.lt_or_eq_of_le (Nat.div_le_div_right (Nat.le_of_lt points))
  have second : v / 4096 < w / 4096 ∨ v / 4096 = w / 4096 :=
    Nat.lt_or_eq_of_le (Nat.div_le_div_right (Nat.le_of_lt points))
  have third : v / 64 < w / 64 ∨ v / 64 = w / 64 :=
    Nat.lt_or_eq_of_le (Nat.div_le_div_right (Nat.le_of_lt points))
  dsimp only
  rw [top, top']
  split_ifs <;>
    simp (disch := omega) only [List.cons_append, List.nil_append, ofNat_cons_lt_iff] <;>
    omega

private theorem flatMap_lt {first second : List Char} (smaller : first < second) :
    first.flatMap String.utf8EncodeChar < second.flatMap String.utf8EncodeChar := by
  induction first generalizing second with
  | nil =>
      cases second with
      | nil => exact absurd smaller (List.lt_irrefl [])
      | cons d rest =>
          obtain ⟨byte, more, encoded⟩ := List.exists_cons_of_ne_nil (@String.utf8EncodeChar_ne_nil d)
          rw [List.flatMap_cons, encoded]
          exact List.nil_lt_cons _ _
  | cons c rest ih =>
      cases second with
      | nil => exact absurd smaller (List.not_lt_nil _)
      | cons d others =>
          rw [List.flatMap_cons, List.flatMap_cons]
          rcases List.cons_lt_cons_iff.mp smaller with differ | ⟨rfl, later⟩
          · exact utf8EncodeChar_append_lt differ _ _
          · exact List.append_left_lt (ih later)

/-- The order of texts is the order of their bytes. -/
theorem bytes_lt_iff {first second : String} : bytes first < bytes second ↔ first < second := by
  have keeps {a b : String} (smaller : a < b) : bytes a < bytes b := by
    rw [bytes_eq_flatMap, bytes_eq_flatMap]
    exact flatMap_lt (String.lt_iff.mp smaller)
  refine ⟨fun smaller => ?_, keeps⟩
  by_contra larger
  by_cases equal : first ≤ second
  · obtain rfl := String.le_antisymm equal (String.not_lt.mp larger)
    exact List.lt_irrefl _ smaller
  · exact List.lt_asymm smaller (keeps (String.not_le.mp equal))

end SourceRegistry.Text
