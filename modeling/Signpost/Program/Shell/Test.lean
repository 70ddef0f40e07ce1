import Signpost.Program.Shell.Process

/-! Conditions: the commands `test` and `[`.

Operators and operands cannot be told apart by their looks alone, so each argument is read with a view to
those behind it: what could be an operator counts as an operand where an operand is missing. -/

namespace Signpost.Program.Shell

namespace Test

inductive Kind where
  | unary
  | binary
  | negation
  | conjunction
  | disjunction
  | opening
  | closing
deriving DecidableEq, Repr, Inhabited

def kind? (text : String) : Option Kind :=
  if ["-b", "-c", "-d", "-e", "-f", "-g", "-h", "-k", "-n", "-p", "-r", "-s", "-t", "-u", "-w", "-x",
      "-z", "-G", "-L", "-O", "-S"].contains text then some .unary
  else if ["=", "!=", "<", ">", "-eq", "-ne", "-ge", "-gt", "-le", "-lt", "-nt", "-ot",
      "-ef"].contains text then some .binary
  else match text with
    | "!" => some .negation
    | "-a" => some .conjunction
    | "-o" => some .disjunction
    | "(" => some .opening
    | ")" => some .closing
    | _ => none

inductive Lexeme where
  | nothing
  | operand
  | operator (kind : Kind) (text : String)
deriving DecidableEq, Repr, Inhabited

def isOperand : List String → Bool
  | [] => true
  | [_] => false
  | next :: _ => kind? next == some .binary

def lexeme : List String → Lexeme
  | [] => .nothing
  | text :: rest =>
      match kind? text with
      | some .unary => if isOperand rest then .operand else .operator .unary text
      | some .opening => if rest.isEmpty then .operand else .operator .opening text
      | some kind => .operator kind text
      | none => .operand

/-- Whether a condition holds, with the arguments from its last one on; or what is wrong with it. -/
abbrev Answer := Except String (Bool × List String)

def number (text : String) : Except String Int :=
  match number? text true with
  | some n => .ok n
  | none => .error ("Illegal number: " ++ text)

def samePlace (s : State) (a b : String) : Bool :=
  match s.find a, s.find b with
  | .ok a, .ok b => a == b
  | _, _ => false

def binary (s : State) (operator a b : String) : Except String Bool :=
  let numbers (holds : Int → Int → Bool) : Except String Bool := do
    return holds (← number a) (← number b)
  match operator with
  | "=" => .ok (a == b)
  | "!=" => .ok (a != b)
  | "<" => .ok (a < b)
  | ">" => .ok (b < a)
  | "-eq" => numbers (· == ·)
  | "-ne" => numbers (· != ·)
  | "-ge" => numbers fun a b => b ≤ a
  | "-gt" => numbers fun a b => b < a
  | "-le" => numbers fun a b => a ≤ b
  | "-lt" => numbers fun a b => a < b
  | "-ef" => .ok (samePlace s a b)
  | _ => .ok false

def file (s : State) (operator path : String) : Bool :=
  match s.find path with
  | .error _ => false
  | .ok found =>
      match operator with
      | "-e" | "-r" | "-w" | "-O" | "-G" => true
      | "-f" => match found with
          | .file _ | .program => true
          | .device (.file _) => true
          | _ => false
      | "-d" => match found with
          | .directory _ | .device .directory => true
          | _ => false
      | "-x" => match found with
          | .directory _ | .program => true
          | _ => false
      | "-s" => match found with
          | .file place => !(s.world.contentAt place).isEmpty
          | .directory _ | .program => true
          | .device _ => false
      | "-c" => found == .device .nowhere || found == .device .full
      | "-p" => match found with
          | .device (.outside _) | .device (.source _) | .device (.drain _) => true
          | _ => false
      | _ => false

def unary (s : State) (operator text : String) : Except String Bool :=
  match operator with
  | "-z" => .ok text.isEmpty
  | "-n" => .ok (!text.isEmpty)
  | "-t" => do
      let _ ← number text
      return false
  | operator => .ok (file s operator text)

mutual

def disjunction (s : State) : (fuel : Nat) → (so : Bool) → Lexeme → List String → Answer
  | 0, so, _, arguments => .ok (so, arguments)
  | fuel + 1, so, first, arguments => do
      let (holds, arguments) ← conjunction s fuel true first arguments
      let so := so || holds
      match lexeme (arguments.drop 1) with
      | .operator .disjunction _ =>
          disjunction s fuel so (lexeme (arguments.drop 2)) (arguments.drop 2)
      | _ => return (so, arguments)

def conjunction (s : State) : (fuel : Nat) → (so : Bool) → Lexeme → List String → Answer
  | 0, so, _, arguments => .ok (so, arguments)
  | fuel + 1, so, first, arguments => do
      let (holds, arguments) ← negation s fuel first arguments
      let so := so && holds
      match lexeme (arguments.drop 1) with
      | .operator .conjunction _ =>
          conjunction s fuel so (lexeme (arguments.drop 2)) (arguments.drop 2)
      | _ => return (so, arguments)

def negation (s : State) : (fuel : Nat) → Lexeme → List String → Answer
  | 0, _, arguments => .ok (false, arguments)
  | fuel + 1, first, arguments =>
      match first with
      | .operator .negation _ => do
          let next := lexeme (arguments.drop 1)
          let (holds, arguments) ←
            negation s fuel next (if next == .nothing then arguments else arguments.drop 1)
          return (!holds, arguments)
      | first => primary s fuel first arguments

def primary (s : State) : (fuel : Nat) → Lexeme → List String → Answer
  | 0, _, arguments => .ok (false, arguments)
  | fuel + 1, first, arguments =>
      match first with
      | .nothing => .ok (false, arguments)
      | .operator .opening _ => do
          let arguments := arguments.drop 1
          let next := lexeme arguments
          if next == .operator .closing ")" then return (false, arguments)
          else
            let (holds, arguments) ← disjunction s fuel false next arguments
            let arguments := arguments.drop 1
            if lexeme arguments == .operator .closing ")" then return (holds, arguments)
            else throw "closing paren expected"
      | .operator .unary operator =>
          match arguments.drop 1 with
          | text :: rest => return (← unary s operator text, text :: rest)
          | [] => .error (operator ++ ": argument expected")
      | _ =>
          match arguments with
          | a :: operator :: rest =>
              match lexeme (operator :: rest) with
              | .operator .binary operator =>
                  match rest with
                  | b :: rest => return (← binary s operator a b, b :: rest)
                  | [] => .error (operator ++ ": argument expected")
              | _ => .ok (!a.isEmpty, arguments)
          | [a] => .ok (!a.isEmpty, arguments)
          | [] => .ok (false, arguments)

end

/-- Whether a condition holds. Up to four arguments are read by their number; `expected` is the answer
that counts as true. -/
def condition (s : State) : (fuel : Nat) → (expected : Bool) → List String → Except String Bool
  | 0, _, _ => .ok false
  | fuel + 1, expected, arguments =>
      let whole (first : Lexeme) : Except String Bool := do
        let (holds, rest) ← disjunction s (16 * arguments.length + 16) false first arguments
        match rest with
        | text :: _ :: _ =>
            throw (if text.isEmpty then "unexpected operator" else text ++ ": unexpected operator")
        | _ => return holds == expected
      let count := arguments.length
      if count = 0 then .ok (!expected)
      else if count = 3 && kind? (arguments[1]?.getD "") == some .binary then whole .operand
      else if (count = 3 || count = 4) && arguments.head? = some "(" &&
          arguments.getLast? = some ")" then
        condition s fuel expected (arguments.drop 1).dropLast
      else if (count = 3 || count = 4) && arguments.head? = some "!" then
        condition s fuel false (arguments.drop 1)
      else whole (lexeme arguments)

def run (arguments : List String) : Running Nat := do
  match condition (← get).state (arguments.length + 1) true arguments with
  | .ok holds => return if holds then 0 else 1
  | .error text => fail text

end Test

def test (arguments : List String) : Running Nat := Test.run arguments

/-- The command `[`. Of its last argument only the first character counts. -/
def bracket (arguments : List String) : Running Nat :=
  if (arguments.getLast?.getD "").startsWith "]" then Test.run arguments.dropLast
  else fail "missing ]"

end Signpost.Program.Shell
