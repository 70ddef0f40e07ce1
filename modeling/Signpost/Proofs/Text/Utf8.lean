import Signpost.Text.Utf8

/-! Text that is encoded reads back.

A character takes one to four bytes, by the size of its number. The first byte tells how many follow,
and the bounds on the second one leave out nothing that is encoded: numbers that a shorter sequence
could hold and surrogates do not occur. -/

namespace Signpost.Text

theorem toNat_ofNat_of_lt {n : Nat} (small : n < 256) : (UInt8.ofNat n).toNat = n := by
  rw [UInt8.toNat_ofNat', Nat.mod_eq_of_lt small]

theorem lead?_ofNat {n : Nat} (small : n < 256) : lead? (UInt8.ofNat n) =
    if n < 0x80 then some (0, 0, 0)
    else if n < 0xc2 then none
    else if n < 0xe0 then some (1, 0x80, 0xbf)
    else if n < 0xf0 then some (2, if n = 0xe0 then 0xa0 else 0x80, if n = 0xed then 0x9f else 0xbf)
    else if n < 0xf5 then some (3, if n = 0xf0 then 0x90 else 0x80, if n = 0xf4 then 0x8f else 0xbf)
    else none := by
  revert n
  decide +kernel

theorem follow_cons {value n : Nat} {low high : UInt8} (least : low.toNat ≤ 0x80 + n)
    (greatest : 0x80 + n ≤ high.toNat) (small : n < 64) (more : Nat) (rest : Bytes) :
    follow value low high (more + 1) (UInt8.ofNat (0x80 + n) :: rest) =
      follow (value * 64 + n) 0x80 0xbf more rest := by
  have byte : (UInt8.ofNat (0x80 + n)).toNat = 0x80 + n := toNat_ofNat_of_lt (by omega)
  have within : low ≤ UInt8.ofNat (0x80 + n) ∧ UInt8.ofNat (0x80 + n) ≤ high := by
    rw [UInt8.le_iff_toNat_le, UInt8.le_iff_toNat_le, byte]
    exact ⟨least, greatest⟩
  simp only [follow, within, decide_true, Bool.and_self, ↓reduceIte, byte, Nat.add_sub_cancel_left]

theorem follow_later {value n : Nat} (small : n < 64) (more : Nat) (rest : Bytes) :
    follow value 0x80 0xbf (more + 1) (UInt8.ofNat (0x80 + n) :: rest) =
      follow (value * 64 + n) 0x80 0xbf more rest := by
  refine follow_cons ?_ ?_ small more rest
  · change 0x80 ≤ _
    omega
  · change _ ≤ 0xbf
    omega

theorem next_of_lead {b : UInt8} {more : Nat} {low high : UInt8}
    (leads : lead? b = some (more, low, high)) (rest : Bytes) :
    next b rest = follow (leadBits b more) low high more rest := by
  simp only [next, leads]

theorem leadBits_zero (b : UInt8) : leadBits b 0 = b.toNat := rfl

theorem leadBits_one (b : UInt8) : leadBits b 1 = b.toNat - 0xc0 := rfl

theorem leadBits_two (b : UInt8) : leadBits b 2 = b.toNat - 0xe0 := rfl

theorem leadBits_three (b : UInt8) : leadBits b 3 = b.toNat - 0xf0 := rfl

/-! ## Characters of each size -/

section Sizes

variable {n : Nat} (rest : Bytes)

theorem next_one (small : n < 0x80) :
    next (UInt8.ofNat n) rest = (some (Char.ofNat n), rest) := by
  have bits : (UInt8.ofNat n).toNat = n := toNat_ofNat_of_lt (by omega)
  have leads : lead? (UInt8.ofNat n) = some (0, 0, 0) := by
    rw [lead?_ofNat (by omega), if_pos small]
  rw [next_of_lead leads, leadBits_zero, bits, follow]

theorem next_two (least : 0x80 ≤ n) (most : n < 0x800) :
    next (UInt8.ofNat (0xc0 + n / 64)) (UInt8.ofNat (0x80 + n % 64) :: rest) =
      (some (Char.ofNat n), rest) := by
  have bits : (UInt8.ofNat (0xc0 + n / 64)).toNat = 0xc0 + n / 64 := toNat_ofNat_of_lt (by omega)
  have leads : lead? (UInt8.ofNat (0xc0 + n / 64)) = some (1, 0x80, 0xbf) := by
    rw [lead?_ofNat (by omega), if_neg (by omega), if_neg (by omega), if_pos (by omega)]
  have value : n / 64 * 64 + n % 64 = n := by omega
  rw [next_of_lead leads, leadBits_one, bits, Nat.add_sub_cancel_left, follow_later (by omega),
    value, follow]

/-- The second byte is bounded so that the number takes three bytes and is no surrogate. -/
theorem next_three (least : 0x800 ≤ n) (most : n < 0x10000) (scalar : n < 0xd800 ∨ 0xdfff < n) :
    next (UInt8.ofNat (0xe0 + n / 4096))
        (UInt8.ofNat (0x80 + n / 64 % 64) :: UInt8.ofNat (0x80 + n % 64) :: rest) =
      (some (Char.ofNat n), rest) := by
  have bits : (UInt8.ofNat (0xe0 + n / 4096)).toNat = 0xe0 + n / 4096 :=
    toNat_ofNat_of_lt (by omega)
  have leads : lead? (UInt8.ofNat (0xe0 + n / 4096)) = some (2,
      if 0xe0 + n / 4096 = 0xe0 then 0xa0 else 0x80,
      if 0xe0 + n / 4096 = 0xed then 0x9f else 0xbf) := by
    rw [lead?_ofNat (by omega), if_neg (by omega), if_neg (by omega), if_neg (by omega),
      if_pos (by omega)]
  have low : (if 0xe0 + n / 4096 = 0xe0 then 0xa0 else 0x80 : UInt8).toNat ≤
      0x80 + n / 64 % 64 := by
    split
    · change 0xa0 ≤ _
      omega
    · change 0x80 ≤ _
      omega
  have high : 0x80 + n / 64 % 64 ≤
      (if 0xe0 + n / 4096 = 0xed then 0x9f else 0xbf : UInt8).toNat := by
    split
    · change _ ≤ 0x9f
      omega
    · change _ ≤ 0xbf
      omega
  have value : (n / 4096 * 64 + n / 64 % 64) * 64 + n % 64 = n := by omega
  rw [next_of_lead leads, leadBits_two, bits, Nat.add_sub_cancel_left,
    follow_cons low high (by omega), follow_later (by omega), value, follow]

/-- The second byte is bounded so that the number takes four bytes and is not too large. -/
theorem next_four (least : 0x10000 ≤ n) (most : n < 0x110000) :
    next (UInt8.ofNat (0xf0 + n / 262144))
        (UInt8.ofNat (0x80 + n / 4096 % 64) :: UInt8.ofNat (0x80 + n / 64 % 64) ::
          UInt8.ofNat (0x80 + n % 64) :: rest) =
      (some (Char.ofNat n), rest) := by
  have bits : (UInt8.ofNat (0xf0 + n / 262144)).toNat = 0xf0 + n / 262144 :=
    toNat_ofNat_of_lt (by omega)
  have leads : lead? (UInt8.ofNat (0xf0 + n / 262144)) = some (3,
      if 0xf0 + n / 262144 = 0xf0 then 0x90 else 0x80,
      if 0xf0 + n / 262144 = 0xf4 then 0x8f else 0xbf) := by
    rw [lead?_ofNat (by omega), if_neg (by omega), if_neg (by omega), if_neg (by omega),
      if_neg (by omega), if_pos (by omega)]
  have low : (if 0xf0 + n / 262144 = 0xf0 then 0x90 else 0x80 : UInt8).toNat ≤
      0x80 + n / 4096 % 64 := by
    split
    · change 0x90 ≤ _
      omega
    · change 0x80 ≤ _
      omega
  have high : 0x80 + n / 4096 % 64 ≤
      (if 0xf0 + n / 262144 = 0xf4 then 0x8f else 0xbf : UInt8).toNat := by
    split
    · change _ ≤ 0x8f
      omega
    · change _ ≤ 0xbf
      omega
  have value : ((n / 262144 * 64 + n / 4096 % 64) * 64 + n / 64 % 64) * 64 + n % 64 = n := by omega
  rw [next_of_lead leads, leadBits_three, bits, Nat.add_sub_cancel_left,
    follow_cons low high (by omega), follow_later (by omega), follow_later (by omega), value, follow]

end Sizes

theorem next_encodeChar (c : Char) (rest : Bytes) :
    ∃ b bytes, encodeChar c = b :: bytes ∧ next b (bytes ++ rest) = (some c, rest) := by
  have scalar : c.toNat.isValidChar := c.valid
  have same : Char.ofNat c.toNat = c := Char.ofNat_toNat c
  unfold Nat.isValidChar at scalar
  unfold encodeChar
  generalize c.toNat = n at scalar same
  subst same
  dsimp only
  split
  next small => exact ⟨_, _, rfl, next_one rest small⟩
  split
  next least most => exact ⟨_, _, rfl, by simpa using next_two rest (by omega) most⟩
  split
  next least most => exact ⟨_, _, rfl, by simpa using next_three rest (by omega) most (by omega)⟩
  next least => exact ⟨_, _, rfl, by simpa using next_four rest (by omega) (by omega)⟩

theorem decodeAll_encode (cs : List Char) :
    decodeAll (cs.flatMap encodeChar) = cs.map some := by
  induction cs with
  | nil => rw [List.flatMap_nil, decodeAll, List.map_nil]
  | cons c cs ih =>
    obtain ⟨b, bytes, written, read⟩ := next_encodeChar c (cs.flatMap encodeChar)
    rw [List.flatMap_cons, written, List.cons_append, decodeAll, read, ih, List.map_cons]

theorem decode?_encode (text : String) : decode? (encode text) = some text := by
  have characters : (text.toList.map some).mapM id = some text.toList := by
    rw [List.mapM_map]
    exact (List.mapM_pure (m := Option) (f := id)).trans (by rw [List.map_id]; rfl)
  unfold decode? encode
  rw [decodeAll_encode, characters, Option.map_some, String.ofList_toList]

end Signpost.Text
