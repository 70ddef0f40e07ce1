import Signpost.Program.Shell.Field
import Signpost.Program.Shell.Script

/-! Arithmetic: whole numbers of 64 bits that wrap around, the usual operators, and variables, which
may be assigned.

Parts that are not needed, such as the other part of a choice, are read without being calculated. -/

namespace Signpost.Program.Shell

namespace Arithmetic

inductive Symbol where
  | number (n : Int)
  | name (name : String)
  | operator (text : String)
  /-- A character that means nothing here. -/
  | unknown
deriving DecidableEq, Repr, Inhabited

def operators : List String :=
  ["<<=", ">>=", "||", "&&", "==", "!=", "<=", ">=", "<<", ">>", "*=", "/=", "%=", "+=", "-=", "&=",
    "^=", "|=", "|", "^", "&", "<", ">", "+", "-", "*", "/", "%", "(", ")", "!", "~", "=", "?", ":"]

def symbols : (fuel : Nat) → List Char → List Symbol
  | 0, _ => []
  | _, [] => []
  | fuel + 1, c :: rest =>
      if c == ' ' || c == '\t' || c == '\n' then symbols fuel rest
      else if c.isDigit then
        let numeral := readInteger (c :: rest)
        .number (toSigned numeral.value).1 :: symbols fuel numeral.rest
      else if startsName c then
        let name := (c :: rest).takeWhile continuesName
        .name (String.ofList name) :: symbols fuel ((c :: rest).drop name.length)
      else
        match operators.find? fun operator => operator.toList.isPrefixOf (c :: rest) with
        | some operator =>
            .operator operator :: symbols fuel ((c :: rest).drop operator.length)
        | none => .unknown :: symbols fuel rest

inductive Fault where
  | complaint (text : String)
  /-- A quotient that the machine cannot hold. -/
  | trap
deriving DecidableEq, Repr, Inhabited

structure Progress where
  expression : String
  symbols : List Symbol
  bindings : Variables

abbrev Calculation := EStateM Fault Progress

def wrong {α : Type} (what : String) : Calculation α := do
  throw (.complaint ("arithmetic expression: " ++ what ++ ": \"" ++ (← get).expression ++ "\""))

def next? : Calculation (Option Symbol) := return (← get).symbols.head?

def skip : Calculation Unit := modify fun p => { p with symbols := p.symbols.tail }

def expect (operator : String) : Calculation Unit := do
  if (← next?) = some (.operator operator) then skip else wrong ("expecting '" ++ operator ++ "'")

def truth (b : Bool) : Int := if b then 1 else 0

def tightness? : Symbol → Option Nat
  | .operator text =>
      match text with
      | "*" | "/" | "%" => some 0
      | "+" | "-" => some 1
      | "<<" | ">>" => some 2
      | "<" | "<=" | ">" | ">=" => some 3
      | "==" | "!=" => some 4
      | "&" => some 5
      | "^" => some 6
      | "|" => some 7
      | _ => none
  | _ => none

def loosest : Nat := 8

def bits (n : Int) : Nat := (n % (greatestUnsigned + 1)).toNat

def apply (operator : String) (a b : Int) : Calculation Int := do
  match operator with
  | "/" | "%" =>
      if b = 0 then wrong "division by zero"
      else if a = leastSigned && b = -1 then throw .trap
      else return if operator = "/" then a.tdiv b else a.tmod b
  | "*" => return wrapped (a * b)
  | "+" => return wrapped (a + b)
  | "-" => return wrapped (a - b)
  | "<<" => return wrapped (a * Nat.pow 2 (b % 64).toNat)
  | ">>" => return a / (Nat.pow 2 (b % 64).toNat : Nat)
  | "<" => return truth (a < b)
  | "<=" => return truth (a ≤ b)
  | ">" => return truth (b < a)
  | ">=" => return truth (b ≤ a)
  | "==" => return truth (a == b)
  | "!=" => return truth (a != b)
  | "&" => return wrapped (Nat.land (bits a) (bits b))
  | "^" => return wrapped (Nat.xor (bits a) (bits b))
  | _ => return wrapped (Nat.lor (bits a) (bits b))

def valueOf (name : String) : Calculation Int := do
  let text := (← get).bindings.text name
  match number? text false with
  | some n => return n
  | none => throw (.complaint ("Illegal number: " ++ text))

def store (name : String) (n : Int) : Calculation Unit := do
  if (← get).bindings.isReadOnly name then throw (.complaint (name ++ ": is read only"))
  else modify fun p => { p with bindings := p.bindings.assign name (some (toString n)) }

def assignment? : Symbol → Option String
  | .operator text =>
      if text = "=" then some ""
      else if text.endsWith "=" && text.length = 3 then some (text.take 2).toString
      else if text.endsWith "=" && text.length = 2 && text != "==" && text != "!=" && text != "<=" &&
        text != ">=" then some (text.take 1).toString
      else none
  | _ => none

mutual

/-- A number, a variable, an expression in parentheses, or one with an operator in front. What is
`idle` is read without being calculated. -/
def primary : (fuel : Nat) → (idle : Bool) → Calculation Int
  | 0, _ => return 0
  | fuel + 1, idle => do
      match ← next? with
      | some (.number n) => skip *> return n
      | some (.name name) =>
          skip
          if idle then return 0 else valueOf name
      | some (.operator "(") =>
          skip
          let n ← expression fuel idle
          expect ")"
          return n
      | some (.operator "+") => skip *> primary fuel idle
      | some (.operator "-") =>
          skip
          return wrapped (-(← primary fuel idle))
      | some (.operator "!") =>
          skip
          return truth ((← primary fuel idle) == 0)
      | some (.operator "~") =>
          skip
          return -(← primary fuel idle) - 1
      | _ => wrong "expecting primary"

def chain : (fuel : Nat) → (idle : Bool) → (limit : Nat) → (a : Int) → Calculation Int
  | 0, _, _, a => return a
  | fuel + 1, idle, limit, a => do
      match ← next? with
      | some (.operator operator) =>
          match tightness? (.operator operator) with
          | some tightness =>
              if tightness < limit then
                skip
                let b ← primary fuel idle
                let b ← chain fuel idle tightness b
                let a ← if idle then pure b else apply operator a b
                chain fuel idle limit a
              else return a
          | none => return a
      | _ => return a

def conjunction : (fuel : Nat) → (idle : Bool) → Calculation Int
  | 0, _ => return 0
  | fuel + 1, idle => do
      let a ← chain fuel idle loosest (← primary fuel idle)
      if (← next?) = some (.operator "&&") then
        skip
        let b ← conjunction fuel (idle || a == 0)
        return truth (a != 0 && b != 0)
      else return a

def disjunction : (fuel : Nat) → (idle : Bool) → Calculation Int
  | 0, _ => return 0
  | fuel + 1, idle => do
      let a ← conjunction fuel idle
      if (← next?) = some (.operator "||") then
        skip
        let b ← disjunction fuel (idle || a != 0)
        return truth (a != 0 || b != 0)
      else return a

def choice : (fuel : Nat) → (idle : Bool) → Calculation Int
  | 0, _ => return 0
  | fuel + 1, idle => do
      let a ← disjunction fuel idle
      if (← next?) = some (.operator "?") then
        skip
        let b ← expression fuel (idle || a == 0)
        expect ":"
        let c ← choice fuel (idle || a != 0)
        return if a != 0 then b else c
      else return a

def expression : (fuel : Nat) → (idle : Bool) → Calculation Int
  | 0, _ => return 0
  | fuel + 1, idle => do
      match (← get).symbols with
      | .name name :: sign :: _ =>
          match assignment? sign with
          | some operator =>
              skip
              skip
              let b ← expression fuel idle
              if idle then return b
              else
                let n ← if operator = "" then pure b else do apply operator (← valueOf name) b
                store name n
                return n
          | none => choice fuel idle
      | _ => choice fuel idle

end

def depth (symbols : List Symbol) : Nat := 8 * symbols.length + 16

def whole : Calculation Int := do
  let n ← expression (depth (← get).symbols) false
  if (← get).symbols.isEmpty then return n else wrong "expecting EOF"

end Arithmetic

def calculate (bindings : Variables) (expression : String) :
    Except Arithmetic.Fault Int × Variables :=
  let symbols := Arithmetic.symbols (expression.length + 1) expression.toList
  match Arithmetic.whole.run ⟨expression, symbols, bindings⟩ with
  | .ok n p => (.ok n, p.bindings)
  | .error fault p => (.error fault, p.bindings)

end Signpost.Program.Shell
