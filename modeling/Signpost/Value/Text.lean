import Signpost.Value.Basic
import Signpost.Text.Basic

/-! Values as text: a compact form on one line and an indented form for files.

Only the quote, the backslash and control characters are escaped; every other character stands for
itself. -/

namespace Signpost.Value

def hexDigit (n : Nat) : Char := (Nat.digitChar (n % 16))

def escaped (c : Char) : List Char :=
  match c with
  | '"' => ['\\', '"']
  | '\\' => ['\\', '\\']
  | '\x08' => ['\\', 'b']
  | '\x0c' => ['\\', 'f']
  | '\n' => ['\\', 'n']
  | '\r' => ['\\', 'r']
  | '\t' => ['\\', 't']
  | c => if c < ' ' then ['\\', 'u', '0', '0', hexDigit (c.toNat / 16), hexDigit c.toNat] else [c]

def quoted (text : String) : String :=
  String.ofList ('"' :: (text.toList.flatMap escaped ++ ['"']))

mutual
def text : Value → String
  | .null => "null"
  | .bool true => "true"
  | .bool false => "false"
  | .num n => n.text
  | .str s => quoted s
  | .arr items => "[" ++ Text.join "," (textItems items) ++ "]"
  | .obj fields => "\x7b" ++ Text.join "," (textFields fields) ++ "\x7d"

def textItems : List Value → List String
  | [] => []
  | item :: items => text item :: textItems items

def textFields : List (String × Value) → List String
  | [] => []
  | (name, value) :: fields => (quoted name ++ ":" ++ text value) :: textFields fields
end

def newline (level : Nat) : String := "\n" ++ String.ofList (List.replicate (2 * level) ' ')

mutual
def indentedAt (level : Nat) : Value → String
  | .arr [] => "[]"
  | .obj [] => "\x7b\x7d"
  | .arr (item :: items) =>
      "[" ++ newline (level + 1) ++
        Text.join ("," ++ newline (level + 1))
          (indentedAt (level + 1) item :: indentedItems (level + 1) items) ++
        newline level ++ "]"
  | .obj ((name, value) :: fields) =>
      "\x7b" ++ newline (level + 1) ++
        Text.join ("," ++ newline (level + 1))
          ((quoted name ++ ": " ++ indentedAt (level + 1) value) ::
            indentedFields (level + 1) fields) ++
        newline level ++ "\x7d"
  | .null => "null"
  | .bool true => "true"
  | .bool false => "false"
  | .num n => n.text
  | .str s => quoted s

def indentedItems (level : Nat) : List Value → List String
  | [] => []
  | item :: items => indentedAt level item :: indentedItems level items

def indentedFields (level : Nat) : List (String × Value) → List String
  | [] => []
  | (name, value) :: fields =>
      (quoted name ++ ": " ++ indentedAt level value) :: indentedFields level fields
end

def indented (value : Value) : String := indentedAt 0 value

/-- A value inside a sentence: text as it is, anything else in compact form. -/
def plain : Value → String
  | .str s => s
  | value => value.text

end Signpost.Value
