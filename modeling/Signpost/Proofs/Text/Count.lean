import Mathlib.Data.List.Induction
import Signpost.Proofs.Text.Split
import Signpost.Text.Basic

/-! Counts that are written in decimal digits.

A count may have a plus and zeros in front of its digits. Exactly the counts below `2 ^ 64` are read,
each of them from all texts in which it is so written. -/

namespace Signpost.Text

variable {digits : List Char} {text : String} {n : Nat}

/-- The text is the decimal form of the count, perhaps with a plus and zeros before it. -/
def Writes (n : Nat) (text : String) : Prop :=
  ∃ sign zeros, (sign = [] ∨ sign = ['+']) ∧
    text.toList = sign ++ (List.replicate zeros '0' ++ Nat.toDigits 10 n)

theorem writes_toString (n : Nat) : Writes n (toString n) :=
  ⟨[], 0, .inl rfl, Nat.toList_repr⟩

theorem decimal_eq_ofDigitChars (digits : List Char) :
    decimal digits = Nat.ofDigitChars 10 digits 0 := by
  simp only [decimal, Nat.ofDigitChars, Nat.mul_comm]

theorem decimal_append_singleton (digits : List Char) (c : Char) :
    decimal (digits ++ [c]) = 10 * decimal digits + (c.toNat - '0'.toNat) := by
  simp only [decimal_eq_ofDigitChars, Nat.ofDigitChars_append, Nat.ofDigitChars_cons,
    Nat.ofDigitChars_nil]

theorem decimal_zeros_append (zeros n : Nat) :
    decimal (List.replicate zeros '0' ++ Nat.toDigits 10 n) = n := by
  simp only [decimal_eq_ofDigitChars, Nat.ofDigitChars_append, Nat.ofDigitChars_replicate_zero,
    Nat.mul_zero, Nat.ofDigitChars_ten_toDigits]

theorem isDigit_of_mem_zeros_append (zeros n : Nat) :
    ∀ c ∈ List.replicate zeros '0' ++ Nat.toDigits 10 n, c.isDigit = true := by
  intro c member
  rcases List.mem_append.mp member with zero | digit
  · rw [List.eq_of_mem_replicate zero]
    rfl
  · exact Nat.isDigit_of_mem_toDigits (by decide) (by decide) digit

theorem toDigits_of_isDigit {c : Char} (digit : c.isDigit = true) :
    c.toNat - '0'.toNat < 10 ∧ Nat.toDigits 10 (c.toNat - '0'.toNat) = [c] := by
  have each : ∀ d < 10, Nat.digitChar d = Char.ofNat (48 + d) := by decide
  simp only [Char.isDigit, Bool.and_eq_true, decide_eq_true_eq, ge_iff_le,
    UInt32.le_iff_toNat_le] at digit
  have ends : '0'.val.toNat = 48 ∧ '9'.val.toNat = 57 ∧ c.toNat = c.val.toNat := ⟨rfl, rfl, rfl⟩
  have zero : '0'.toNat = 48 := rfl
  have small : c.toNat - '0'.toNat < 10 := by omega
  have same : 48 + (c.toNat - '0'.toNat) = c.toNat := by omega
  rw [Nat.toDigits_of_lt_base small, each _ small, same, Char.ofNat_toNat]
  exact ⟨small, rfl⟩

/-- Digits are the decimal form of their value but for the zeros in front. -/
theorem eq_zeros_append (shown : digits ≠ []) (each : ∀ c ∈ digits, c.isDigit = true) :
    ∃ zeros, digits = List.replicate zeros '0' ++ Nat.toDigits 10 (decimal digits) := by
  induction digits using List.reverseRecOn with
  | nil => exact absurd rfl shown
  | append_singleton digits c ih =>
    obtain ⟨small, last⟩ := toDigits_of_isDigit (each c (by simp))
    rw [decimal_append_singleton]
    by_cases single : digits = []
    · subst single
      exact ⟨0, last.symm.trans (by simp [decimal])⟩
    · obtain ⟨zeros, split⟩ := ih single fun other member =>
        each other (List.mem_append_left [c] member)
      rcases Nat.eq_zero_or_pos (decimal digits) with zero | positive
      · refine ⟨zeros + 1, ?_⟩
        rw [zero, Nat.toDigits_zero] at split
        rw [zero, Nat.mul_zero, Nat.zero_add, last, List.replicate_succ', ← split]
      · refine ⟨zeros, ?_⟩
        rw [← Nat.toDigits_append_toDigits (by decide) positive small, last, ← List.append_assoc,
          ← split]

def digitsValue? (digits : List Char) : Option Nat :=
  if digits.isEmpty || !digits.all Char.isDigit then none
  else if decimal digits < Nat.pow 2 64 then some (decimal digits) else none

theorem count?_plus {rest : List Char} (plus : text.toList = '+' :: rest) :
    count? text = digitsValue? rest := by
  unfold count?
  rw [plus]
  rfl

theorem count?_unsigned (unsigned : ∀ rest, text.toList ≠ '+' :: rest) :
    count? text = digitsValue? text.toList := by
  unfold count?
  split
  next digits rest plus => exact absurd plus (unsigned rest)
  next => rfl

theorem digitsValue?_eq_some_iff : digitsValue? digits = some n ↔
    (∃ zeros, digits = List.replicate zeros '0' ++ Nat.toDigits 10 n) ∧ n < Nat.pow 2 64 := by
  constructor
  · intro valued
    unfold digitsValue? at valued
    split_ifs at valued with malformed fits
    cases valued
    simp only [Bool.or_eq_true, List.isEmpty_iff, Bool.not_eq_true', not_or, Bool.not_eq_false,
      List.all_eq_true] at malformed
    exact ⟨eq_zeros_append malformed.1 malformed.2, fits⟩
  · rintro ⟨⟨zeros, rfl⟩, fits⟩
    have each := isDigit_of_mem_zeros_append zeros n
    have formed : (List.replicate zeros '0' ++ Nat.toDigits 10 n).isEmpty = false := by
      simp [Nat.toDigits_ne_nil]
    rw [digitsValue?, formed, List.all_eq_true.mpr each, decimal_zeros_append, if_pos fits]
    rfl

theorem count?_eq_some_iff : count? text = some n ↔ Writes n text ∧ n < Nat.pow 2 64 := by
  by_cases signed : ∃ rest, text.toList = '+' :: rest
  · obtain ⟨rest, plus⟩ := signed
    rw [count?_plus plus, digitsValue?_eq_some_iff, Writes, plus]
    refine and_congr_left fun _ => ⟨?_, ?_⟩
    · rintro ⟨zeros, rfl⟩
      exact ⟨['+'], zeros, .inr rfl, rfl⟩
    · rintro ⟨sign, zeros, rfl | rfl, split⟩
      · cases isDigit_of_mem_zeros_append zeros n '+' (split ▸ List.mem_cons_self)
      · exact ⟨zeros, (List.cons.inj split).2⟩
  · have unsigned := not_exists.mp signed
    rw [count?_unsigned unsigned, digitsValue?_eq_some_iff, Writes]
    refine and_congr_left fun _ => ⟨?_, ?_⟩
    · rintro ⟨zeros, split⟩
      exact ⟨[], zeros, .inl rfl, split⟩
    · rintro ⟨sign, zeros, rfl | rfl, split⟩
      · exact ⟨zeros, split⟩
      · exact absurd split (unsigned _)

theorem count?_eq_none_iff : count? text = none ↔ ∀ n, Writes n text → Nat.pow 2 64 ≤ n := by
  simp only [Option.eq_none_iff_forall_ne_some, ne_eq, count?_eq_some_iff, not_and, not_lt]

theorem Writes.digit_or_plus (writes : Writes n text) :
    ∀ c ∈ text.toList, c.isDigit || c == '+' := by
  obtain ⟨sign, zeros, signed, split⟩ := writes
  intro c member
  rw [split] at member
  rcases List.mem_append.mp member with plus | digit
  · rcases signed with rfl | rfl
    · cases plus
    · rw [List.mem_singleton.mp plus]
      rfl
  · rw [isDigit_of_mem_zeros_append zeros n c digit]
    rfl

theorem Writes.trimChars (writes : Writes n text) : Text.trimChars text.toList = text.toList := by
  refine trimChars_of_visible fun c member => ?_
  rcases Bool.or_eq_true_iff.mp (writes.digit_or_plus c member) with digit | plus
  · exact isBlank_of_isDigit digit
  · rw [beq_iff_eq.mp plus]
    decide

end Signpost.Text
