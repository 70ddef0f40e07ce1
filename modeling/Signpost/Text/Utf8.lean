/-! Text as bytes.

Well-formed UTF-8 is decoded exactly. `decodeLossy` puts one replacement character for each longest
beginning of a sequence that cannot be completed. -/

namespace Signpost.Text

abbrev Bytes := List UInt8

def encodeChar (c : Char) : Bytes :=
  let n := c.toNat
  let follow (k : Nat) : UInt8 := UInt8.ofNat (0x80 + n / Nat.pow 64 k % 64)
  if n < 0x80 then [UInt8.ofNat n]
  else if n < 0x800 then [UInt8.ofNat (0xc0 + n / 64), follow 0]
  else if n < 0x10000 then [UInt8.ofNat (0xe0 + n / 4096), follow 1, follow 0]
  else [UInt8.ofNat (0xf0 + n / 262144), follow 2, follow 1, follow 0]

def encode (text : String) : Bytes := text.toList.flatMap encodeChar

def lead? (b : UInt8) : Option (Nat × UInt8 × UInt8) :=
  if b < 0x80 then some (0, 0, 0)
  else if 0xc2 ≤ b && b ≤ 0xdf then some (1, 0x80, 0xbf)
  else if b = 0xe0 then some (2, 0xa0, 0xbf)
  else if b = 0xed then some (2, 0x80, 0x9f)
  else if 0xe1 ≤ b && b ≤ 0xef then some (2, 0x80, 0xbf)
  else if b = 0xf0 then some (3, 0x90, 0xbf)
  else if 0xf1 ≤ b && b ≤ 0xf3 then some (3, 0x80, 0xbf)
  else if b = 0xf4 then some (3, 0x80, 0x8f)
  else none

def leadBits (b : UInt8) : Nat → Nat
  | 0 => b.toNat
  | 1 => b.toNat - 0xc0
  | 2 => b.toNat - 0xe0
  | _ => b.toNat - 0xf0

/-- Reads the bytes that follow a first one. `low` and `high` bound the next byte. -/
def follow (value : Nat) (low high : UInt8) : Nat → Bytes → Option Char × Bytes
  | 0, rest => (some (Char.ofNat value), rest)
  | _ + 1, [] => (none, [])
  | more + 1, b :: rest =>
      if low ≤ b && b ≤ high then
        follow (value * 64 + (b.toNat - 0x80)) 0x80 0xbf more rest
      else (none, b :: rest)

def next (b : UInt8) (rest : Bytes) : Option Char × Bytes :=
  match lead? b with
  | none => (none, rest)
  | some (more, low, high) => follow (leadBits b more) low high more rest

theorem follow_length (value : Nat) (low high : UInt8) (more : Nat) (bytes : Bytes) :
    (follow value low high more bytes).2.length ≤ bytes.length := by
  induction more generalizing value low high bytes with
  | zero => simp [follow]
  | succ more ih =>
      cases bytes with
      | nil => simp [follow]
      | cons b rest =>
          simp only [follow]
          split
          · exact Nat.le_succ_of_le (ih ..)
          · exact Nat.le_refl _

theorem next_length (b : UInt8) (rest : Bytes) : (next b rest).2.length ≤ rest.length := by
  unfold next
  split
  · exact Nat.le_refl _
  · exact follow_length ..

def decodeAll (bytes : Bytes) : List (Option Char) :=
  match bytes with
  | [] => []
  | b :: rest => (next b rest).1 :: decodeAll (next b rest).2
termination_by bytes.length
decreasing_by exact Nat.lt_succ_of_le (next_length b rest)

def decode? (bytes : Bytes) : Option String :=
  ((decodeAll bytes).mapM id).map String.ofList

def decodeLossy (bytes : Bytes) : String :=
  String.ofList ((decodeAll bytes).map fun c => c.getD '\ufffd')

/-! Raw text: every character stands for one byte.

Programs work on bytes, whatever their encoding. Raw text has the literals and comparisons of text, but
its characters are counted, compared and cut as bytes are. -/

def rawOf (bytes : Bytes) : String := String.ofList (bytes.map fun b => Char.ofNat b.toNat)

def bytesOf (raw : String) : Bytes := raw.toList.map fun c => UInt8.ofNat c.toNat

def toRaw (text : String) : String := rawOf (encode text)

def ofRaw (raw : String) : String := decodeLossy (bytesOf raw)

def isRawBlank (c : Char) : Bool := c == ' ' || ('\t' ≤ c && c ≤ '\r')

end Signpost.Text
