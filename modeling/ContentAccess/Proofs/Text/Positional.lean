import Mathlib.Data.Nat.Digits.Lemmas
import ContentAccess.Proofs.Text.Numeral

/-!
# Positional notation

Digits are read in positional notation to base ten, so zeros in front do not change the number,
and digits behind shift it.  A number with few digits can be written with zeros in front, in as
many digits as are asked for.
-/

namespace ContentAccess
namespace Text

/-- Digits have their value in positional notation, the last of them that of ones. -/
theorem decimalValue_eq_ofDigits (digits : List Char) :
    decimalValue digits = Nat.ofDigits 10 (digits.map digitValue).reverse := by
  induction digits using List.reverseRecOn with
  | nil => rfl
  | append_singleton digits digit step =>
      rw [decimalValue_concat, step, List.map_append, List.map_singleton, List.reverse_append,
        List.reverse_singleton, List.singleton_append, Nat.ofDigits_cons, Nat.add_comm]

theorem decimalValue_append (front back : List Char) :
    decimalValue (front ++ back) =
      10 ^ back.length * decimalValue front + decimalValue back := by
  rw [decimalValue_eq_ofDigits, decimalValue_eq_ofDigits, decimalValue_eq_ofDigits,
    List.map_append, List.reverse_append, Nat.ofDigits_append, List.length_reverse,
    List.length_map, Nat.add_comm]

@[simp] theorem decimalValue_replicate_zero (count : Nat) :
    decimalValue (List.replicate count '0') = 0 := by
  rw [decimalValue_eq_ofDigits, List.map_replicate, List.reverse_replicate]
  exact Nat.ofDigits_replicate_zero

theorem decimalValue_zeros_append
    (count : Nat)
    (digits : List Char) :
    decimalValue (List.replicate count '0' ++ digits) = decimalValue digits := by
  rw [decimalValue_append, decimalValue_replicate_zero, Nat.mul_zero, Nat.zero_add]

theorem digitValue_lt
    {digit : Char}
    (isDigit : digit.isDigit = true) :
    digitValue digit < 10 := by
  simp only [Char.isDigit, Bool.and_eq_true, decide_eq_true_eq, ge_iff_le,
    UInt32.le_iff_toNat_le] at isDigit
  obtain ⟨_, high⟩ := isDigit
  change digit.toNat ≤ 57 at high
  change digit.toNat - 48 < 10
  omega

theorem decimalValue_lt
    {digits : List Char}
    (areDigits : ∀ digit ∈ digits, digit.isDigit = true) :
    decimalValue digits < 10 ^ digits.length := by
  rw [decimalValue_eq_ofDigits]
  have bounded := Nat.ofDigits_lt_base_pow_length (b := 10) (l := (digits.map digitValue).reverse)
    (by decide) (by
      intro value member
      obtain ⟨digit, isMember, rfl⟩ := List.mem_map.mp (List.mem_reverse.mp member)
      exact digitValue_lt (areDigits digit isMember))
  rwa [List.length_reverse, List.length_map] at bounded

/-! ## Zeros in front -/

theorem isDigits_replicate_append
    {digits : List Char}
    (count : Nat)
    (numeral : isDigits digits = true) :
    isDigits (List.replicate count '0' ++ digits) = true := by
  simp only [isDigits, Bool.and_eq_true, List.all_eq_true] at numeral ⊢
  refine ⟨?_, fun character member => ?_⟩
  · simpa using fun _ => by simpa using numeral.1
  · rcases List.mem_append.mp member with zero | digit
    · rw [List.eq_of_mem_replicate zero]
      decide
    · exact numeral.2 character digit

/-- The digits of a number, with zeros in front up to the width. -/
def padded (width value : Nat) : List Char :=
  List.replicate (width - (decimalDigits value).length) '0' ++ decimalDigits value

theorem isDigits_padded (width value : Nat) : isDigits (padded width value) = true :=
  isDigits_replicate_append _ (isDigits_decimalDigits value)

@[simp] theorem decimalValue_padded (width value : Nat) :
    decimalValue (padded width value) = value := by
  rw [padded, decimalValue_zeros_append, decimalValue_decimalDigits]

theorem length_padded
    {width value : Nat}
    (positive : 0 < width)
    (bounded : value < 10 ^ width) :
    (padded width value).length = width := by
  have fits : (decimalDigits value).length ≤ width :=
    (Nat.length_toDigits_le_iff (by decide) positive).mpr bounded
  rw [padded, List.length_append, List.length_replicate, Nat.sub_add_cancel fits]

end Text
end ContentAccess
