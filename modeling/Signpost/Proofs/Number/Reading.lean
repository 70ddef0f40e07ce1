import Signpost.Number.Reading

/-! Integers that are written in digits read back.

The digits are gathered from the left; no partial value exceeds the whole one, so none of them is
dropped. The reader stops in front of any character that cannot go on with the number. -/

namespace Signpost.Number

/-- What does not go on with a number: neither a digit nor a point nor the letter of an exponent. -/
def Stops : List Char → Prop
  | [] => True
  | c :: _ => c.isDigit = false ∧ c ≠ '.' ∧ c ≠ 'e' ∧ c ≠ 'E'

variable {digits rest : List Char}

theorem le_ofDigitChars (digits : List Char) (start : Nat) :
    start ≤ Nat.ofDigitChars 10 digits start := by
  induction digits generalizing start with
  | nil => exact Nat.le_refl start
  | cons c digits ih =>
    rw [Nat.ofDigitChars_cons]
    refine Nat.le_trans ?_ (ih _)
    omega

theorem wholeDigits_append (each : ∀ c ∈ digits, c.isDigit = true) (stops : Stops rest) {start : Nat}
    (fits : Nat.ofDigitChars 10 digits start < Nat.pow 2 64) :
    wholeDigits start 0 (digits ++ rest) = ⟨Nat.ofDigitChars 10 digits start, 0, rest⟩ := by
  induction digits generalizing start with
  | nil =>
    cases rest with
    | nil => rfl
    | cons c rest => simp [wholeDigits, digit?, stops.1]
  | cons c digits ih =>
    rw [Nat.ofDigitChars_cons, Nat.mul_comm] at fits ⊢
    have digit : digit? c = some (c.toNat - '0'.toNat) := by
      rw [digit?, if_pos (each c List.mem_cons_self)]
    have small := Nat.lt_of_le_of_lt (le_ofDigitChars digits _) fits
    rw [List.cons_append, wholeDigits, digit]
    simp only [small, and_self, ↓reduceIte]
    exact ih (fun other later => each other (List.mem_cons_of_mem c later)) fits

theorem exponent?_of_stops (stops : Stops rest) : exponent? rest = some (none, rest) := by
  cases rest with
  | nil => rfl
  | cons c rest =>
    obtain ⟨-, -, lower, upper⟩ := stops
    simp [exponent?, lower, upper]

/-- What has been gathered is a whole number where no fraction and no exponent follow. -/
theorem finish?_of_stops (stops : Stops rest) (n : Nat) :
    finish? false ⟨n, 0, rest⟩ = some (int n, rest) ∧
      (n ≠ 0 → n ≤ Nat.pow 2 63 → finish? true ⟨n, 0, rest⟩ = some (int (-(n : Int)), rest)) := by
  have ended := exponent?_of_stops stops
  have whole : ∀ more, rest ≠ '.' :: more := by
    rintro more rfl
    exact stops.2.1 rfl
  refine ⟨?_, fun positive small => ?_⟩
  all_goals
    unfold finish?
    split
    next more point => exact absurd point (whole more)
    next => simp only [Option.bind_some, ↓reduceIte, Bool.false_eq_true, *]

theorem digitChar_ne_zero : ∀ n < 10, 0 < n → Nat.digitChar n ≠ '0' := by decide

theorem toDigits_head {n : Nat} (positive : 0 < n) :
    ∃ c more, Nat.toDigits 10 n = c :: more ∧ c ≠ '0' := by
  induction n using Nat.strongRecOn with
  | ind n ih =>
    rw [Nat.toDigits_eq_if (by decide)]
    split
    next small => exact ⟨_, [], rfl, digitChar_ne_zero n small positive⟩
    next large =>
      obtain ⟨c, more, split, different⟩ := ih (n / 10) (by omega) (by omega)
      exact ⟨c, more ++ [(n % 10).digitChar], by rw [split]; rfl, different⟩

theorem isDigit_toDigits (n : Nat) : ∀ c ∈ Nat.toDigits 10 n, c.isDigit = true := fun _ =>
  Nat.isDigit_of_mem_toDigits (by decide) (by decide)

theorem magnitude?_toDigits (stops : Stops rest) {n : Nat} (fits : n < Nat.pow 2 64)
    (negative : Bool) : magnitude? negative (Nat.toDigits 10 n ++ rest) =
      finish? negative ⟨n, 0, rest⟩ := by
  by_cases zero : n = 0
  · subst zero
    cases rest with
    | nil => rfl
    | cons c rest => simp [Nat.toDigits_zero, magnitude?, stops.1]
  · obtain ⟨c, more, split, different⟩ := toDigits_head (Nat.pos_of_ne_zero zero)
    have each := isDigit_toDigits n
    have within : Nat.ofDigitChars 10 (Nat.toDigits 10 n) 0 < Nat.pow 2 64 := by
      rwa [Nat.ofDigitChars_ten_toDigits]
    have gathered := wholeDigits_append each stops within
    rw [Nat.ofDigitChars_ten_toDigits, split] at gathered
    rw [split] at each
    rw [split, List.cons_append, magnitude?, if_pos (each c List.mem_cons_self), ← List.cons_append,
      gathered]
    · exact different

/-- The number is read from its own text, whatever follows that does not go on with it. -/
def Legible (n : Number) : Prop :=
  ∀ rest, Stops rest → read? (n.text.toList ++ rest) = some (n, rest)

theorem read?_of_ne {text : List Char} (positive : ∀ rest, text ≠ '-' :: rest) :
    read? text = magnitude? false text := by
  unfold read?
  split
  next rest => exact absurd rfl (positive rest)
  next => rfl

theorem toList_text_ofNat (n : Nat) : (int (Int.ofNat n)).text.toList = Nat.toDigits 10 n :=
  Nat.toList_repr

theorem toList_text_negSucc (n : Nat) :
    (int (Int.negSucc n)).text.toList = '-' :: Nat.toDigits 10 (n + 1) := by
  have signed : (int (Int.negSucc n)).text = "-" ++ (n + 1).repr := rfl
  rw [signed, String.toList_append, Nat.toList_repr]
  rfl

theorem of_mem_text_int {value : Int} {c : Char} (member : c ∈ (int value).text.toList) :
    c = '-' ∨ c.isDigit = true := by
  cases value with
  | ofNat n =>
    rw [toList_text_ofNat] at member
    exact .inr (isDigit_toDigits n c member)
  | negSucc n =>
    rw [toList_text_negSucc] at member
    exact (List.mem_cons.mp member).imp_right (isDigit_toDigits (n + 1) c)

/-- Every integer that is kept exactly reads back. -/
theorem legible_int {value : Int} (lower : least ≤ value) (upper : value ≤ greatest) :
    (int value).Legible := by
  intro rest stops
  unfold least at lower
  unfold greatest at upper
  have bounds : Nat.pow 2 63 = 9223372036854775808 ∧ Nat.pow 2 64 = 18446744073709551616 := by decide
  cases value with
  | ofNat n =>
    rw [Int.ofNat_eq_natCast] at upper
    have fits : n < Nat.pow 2 64 := by omega
    rw [toList_text_ofNat, read?_of_ne, magnitude?_toDigits stops fits, (finish?_of_stops stops n).1]
    · rfl
    · intro more same
      obtain ⟨c, digits, split⟩ := List.exists_cons_of_ne_nil (Nat.toDigits_ne_nil (n := n) (b := 10))
      have digit := isDigit_toDigits n c (split ▸ List.mem_cons_self)
      rw [split, List.cons_append] at same
      rw [(List.cons.inj same).1] at digit
      exact absurd digit (by decide)
  | negSucc n =>
    have fits : n + 1 < Nat.pow 2 64 := by omega
    rw [toList_text_negSucc, List.cons_append, read?, magnitude?_toDigits stops fits]
    exact (finish?_of_stops stops (n + 1)).2 (by omega) (by omega)

/-! ## Greatest integers -/

theorem significand_wholeDigits_lt {significand : Nat} (fits : significand < Nat.pow 2 64)
    (dropped : Nat) (text : List Char) :
    (wholeDigits significand dropped text).significand < Nat.pow 2 64 := by
  fun_induction wholeDigits significand dropped text with
  | case1 => exact fits
  | case2 => exact fits
  | case3 _ _ _ _ _ _ kept ih => exact ih kept.2
  | case4 _ _ _ _ _ _ _ ih => exact ih fits

theorem natural?_int_eq_some_iff {value : Int} {n : Nat} :
    (int value).natural? = some n ↔ value = n := by
  unfold natural?
  dsimp only
  split
  next => exact ⟨nofun, fun _ => by omega⟩
  next =>
    rw [Option.some.injEq]
    omega

theorem natural?_le_of_finish? {negative : Bool} {whole : Gathered} {number : Number} {n : Nat}
    (read : finish? negative whole = some (number, rest)) (natural : number.natural? = some n) :
    n ≤ whole.significand := by
  have not_real {x : Option Double} {after : List Char}
      (read : x.map (fun x => (real x, after)) = some (number, rest)) : False := by
    obtain ⟨_, _, same⟩ := Option.map_eq_some_iff.mp read
    obtain ⟨rfl, -⟩ := Prod.mk.inj same
    cases natural
  unfold finish? at read
  split at read
  next =>
    split at read
    next => cases read
    next =>
      split at read
      next =>
        obtain ⟨_, _, read⟩ := Option.bind_eq_some_iff.mp read
        exact (not_real read).elim
      next => cases read
  next =>
    obtain ⟨_, _, read⟩ := Option.bind_eq_some_iff.mp read
    dsimp only at read
    split at read
    next =>
      split at read
      next =>
        split at read
        next =>
          split at read
          next =>
            cases read
            cases natural
          next =>
            split at read
            next =>
              cases read
              have value := natural?_int_eq_some_iff.mp natural
              omega
            next => exact (not_real read).elim
        next =>
          cases read
          have value := natural?_int_eq_some_iff.mp natural
          omega
      next => exact (not_real read).elim
    next => exact (not_real read).elim

theorem natural?_lt_of_read? {text : List Char} {number : Number} {n : Nat}
    (read : read? text = some (number, rest)) (natural : number.natural? = some n) :
    n < Nat.pow 2 64 := by
  have zero : 0 < Nat.pow 2 64 := by decide
  have magnitude {negative : Bool} {text : List Char}
      (read : magnitude? negative text = some (number, rest)) : n < Nat.pow 2 64 := by
    unfold magnitude? at read
    split at read
    next => cases read
    next =>
      split at read
      next =>
        split at read
        next => cases read
        next => exact Nat.lt_of_le_of_lt (natural?_le_of_finish? read natural) zero
      next => exact Nat.lt_of_le_of_lt (natural?_le_of_finish? read natural) zero
    next =>
      split at read
      next =>
        exact Nat.lt_of_le_of_lt (natural?_le_of_finish? read natural)
          (significand_wholeDigits_lt zero _ _)
      next => cases read
  unfold read? at read
  split at read
  · exact magnitude read
  · exact magnitude read

end Signpost.Number
