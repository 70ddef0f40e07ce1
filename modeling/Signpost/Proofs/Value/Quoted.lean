import Signpost.Value.Reader
import Signpost.Value.Text

/-! Quoted texts read back.

Each character is written as an escape or as itself, and either way the reader takes exactly what was
written for it. -/

namespace Signpost.Value

/-- What the reader makes of one escape of two hexadecimal digits. -/
theorem unit?_hexDigit : ∀ n < 32, unit? '0' '0' (hexDigit (n / 16)) (hexDigit n) = some n := by
  decide

theorem quotedText?_control {n : Nat} (control : n < 32) (rest : List Char) :
    quotedText? ('\\' :: 'u' :: '0' :: '0' :: hexDigit (n / 16) :: hexDigit n :: rest) =
      (quotedText? rest).map fun (cs, rest) => (Char.ofNat n :: cs, rest) := by
  have low : ¬(0xd800 ≤ n) := by omega
  have high : ¬(0xdc00 ≤ n) := by omega
  rw [quotedText?]
  simp only [unit?_hexDigit n control, low, high, false_and, ↓reduceIte]

theorem quotedText?_escaped (c : Char) (rest : List Char) :
    quotedText? (escaped c ++ rest) = (quotedText? rest).map fun (cs, rest) => (c :: cs, rest) := by
  unfold escaped
  split
  case h_8 noQuote noBackslash _ _ _ _ _ =>
    split
    next control =>
      have small : c.toNat < 32 := control
      have read := quotedText?_control small rest
      rwa [Char.ofNat_toNat] at read
    next visible =>
      rw [List.singleton_append, quotedText?, if_neg]
      · exact fun either => either.elim visible noBackslash
      · exact noQuote
      · exact fun _ _ _ _ _ same _ => noBackslash same
      · exact fun _ _ same _ => noBackslash same
  all_goals rfl

theorem quotedText?_append (cs rest : List Char) :
    quotedText? (cs.flatMap escaped ++ '"' :: rest) = some (cs, rest) := by
  induction cs with
  | nil => rfl
  | cons c cs ih =>
    rw [List.flatMap_cons, List.append_assoc, quotedText?_escaped, ih]
    rfl

end Signpost.Value
