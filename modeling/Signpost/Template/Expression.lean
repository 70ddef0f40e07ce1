import Signpost.Template.Arithmetic
import Signpost.Template.Token

/-! Expressions and how they are read.

Reading climbs from conditionals through the binary operators, each level binding tighter, to signs,
attributes, calls, filters and tests. `depth` counts the brackets and sections that are open, of which
a template may have only so many; the fuel is computed from the number of tokens. -/

namespace Signpost.Template

inductive Form where
  | plain
  /-- The items of a list, each as an argument. -/
  | spread
  | named (name : String)
  /-- The entries of a map, each as a named argument. -/
  | spreadNamed
deriving DecidableEq, Repr, Inhabited

inductive Expr where
  | constant (value : Datum)
  | binding (name : String)
  | list (items : List Expr)
  | map (entries : List (Expr × Expr))
  | member (container : Expr) (name : String)
  | item (container key : Expr)
  | slice (container : Expr) (first last step : Option Expr)
  | negate (operand : Expr)
  | not (operand : Expr)
  | binary (operator : Operator) (left right : Expr)
  | choose (condition yes : Expr) (no : Option Expr)
  /-- A filter; without a subject it applies to the text of a section. -/
  | filter (subject : Option Expr) (name : String) (arguments : List (Form × Expr))
  | test (subject : Expr) (name : String) (arguments : List (Form × Expr))
  | call (callee : Expr) (arguments : List (Form × Expr))
deriving Inhabited, Repr

def nestingBound : Nat := 150

def expectSymbol (text : String) : List Token → Except Fault (List Token)
  | .symbol found :: rest => if found = text then .ok rest else .error .unreadable
  | _ => .error .unreadable

def skipSymbol? (text : String) : List Token → Option (List Token)
  | .symbol found :: rest => if found = text then some rest else none
  | _ => none

def constant? : String → Option Datum
  | "true" | "True" => some (.bool true)
  | "false" | "False" => some (.bool false)
  | "none" | "None" => some .null
  | _ => none

def operators (level : Nat) : List (Token × Operator) :=
  match level with
  | 0 => [(.name "or", .or)]
  | 1 => [(.name "and", .and)]
  | 3 => [(.symbol "==", .equal), (.symbol "!=", .unequal), (.symbol "<", .less),
      (.symbol "<=", .lessEqual), (.symbol ">", .greater), (.symbol ">=", .greaterEqual),
      (.name "in", .isIn)]
  | 4 => [(.symbol "+", .add), (.symbol "-", .subtract)]
  | 5 => [(.symbol "~", .concat)]
  | 6 => [(.symbol "*", .multiply), (.symbol "/", .divide), (.symbol "//", .wholeDivide),
      (.symbol "%", .remainder)]
  | 7 => [(.symbol "**", .power)]
  | _ => []

def beginsArgument : Token → Bool
  | .text _ | .int _ | .real _ => true
  | .name text => !(["and", "or", "else", "is"].contains text)
  | .symbol text => ["+", "-", "[", "\x7b"].contains text
  | _ => false

mutual
def expression : (fuel depth : Nat) → List Token → Except Fault (Expr × List Token)
  | 0, _, _ => .error .unreadable
  | fuel + 1, depth, ts => do
      let (e, ts) ← operand fuel depth 0 ts
      conditions fuel depth e ts

def conditions : (fuel depth : Nat) → Expr → List Token → Except Fault (Expr × List Token)
  | 0, _, _, _ => .error .unreadable
  | fuel + 1, depth, e, .name "if" :: ts => do
      let (condition, ts) ← operand fuel depth 0 ts
      match ts with
      | .name "else" :: ts =>
          let (no, ts) ← expression fuel depth ts
          conditions fuel depth (.choose condition e (some no)) ts
      | ts => conditions fuel depth (.choose condition e none) ts
  | _ + 1, _, e, ts => .ok (e, ts)

def operand : (fuel depth level : Nat) → List Token → Except Fault (Expr × List Token)
  | 0, _, _, _ => .error .unreadable
  | fuel + 1, depth, 2, .name "not" :: ts => do
      let (e, ts) ← operand fuel depth 2 ts
      return (.not e, ts)
  | fuel + 1, depth, level, ts =>
      if level < 8 then do
        let (left, ts) ← operand fuel depth (level + 1) ts
        operations fuel depth level left ts
      else do
        let (e, ts) ← signed fuel depth ts
        let (e, ts) ← suffixes fuel depth e ts
        filters fuel depth e ts

def operations : (fuel depth level : Nat) → Expr → List Token → Except Fault (Expr × List Token)
  | 0, _, _, _, _ => .error .unreadable
  | _ + 1, _, _, left, [] => .ok (left, [])
  | fuel + 1, depth, level, left, t :: ts =>
      match (operators level).lookup t with
      | some operator => do
          let (right, ts) ← operand fuel depth (level + 1) ts
          operations fuel depth level (.binary operator left right) ts
      | none =>
          if level = 3 && t = .name "not" then
            match ts with
            | .name "in" :: ts => do
                let (right, ts) ← operand fuel depth 4 ts
                operations fuel depth level (.not (.binary .isIn left right)) ts
            | _ => .error .unreadable
          else .ok (left, t :: ts)

def signed : (fuel depth : Nat) → List Token → Except Fault (Expr × List Token)
  | 0, _, _ => .error .unreadable
  | fuel + 1, depth, .symbol "-" :: ts => do
      let (e, ts) ← signed fuel depth ts
      return (.negate e, ts)
  | fuel + 1, depth, ts =>
      if depth < nestingBound then primary fuel (depth + 1) ts else .error .unreadable

def primary : (fuel depth : Nat) → List Token → Except Fault (Expr × List Token)
  | 0, _, _ => .error .unreadable
  | _ + 1, _, .name name :: ts =>
      match constant? name with
      | some value => .ok (.constant value, ts)
      | none => .ok (.binding name, ts)
  | _ + 1, _, .text value :: ts => .ok (.constant (.ofText value), ts)
  | _ + 1, _, .int value :: ts => .ok (.constant (.int value), ts)
  | _ + 1, _, .real value :: ts => .ok (.constant (.real value), ts)
  | _ + 1, _, .symbol "(" :: .symbol ")" :: ts => .ok (.list [], ts)
  | fuel + 1, depth, .symbol "(" :: ts => do
      let (e, ts) ← expression fuel depth ts
      match ts with
      | .symbol "," :: ts =>
          let (others, ts) ← items fuel depth ")" ts
          return (.list (e :: others), ts)
      | ts => return (e, ← expectSymbol ")" ts)
  | fuel + 1, depth, .symbol "[" :: ts => do
      let (found, ts) ← items fuel depth "]" ts
      return (.list found, ts)
  | fuel + 1, depth, .symbol "\x7b" :: ts => do
      let (found, ts) ← entries fuel depth ts
      return (.map found, ts)
  | _ + 1, _, _ => .error .unreadable

def items : (fuel depth : Nat) → (close : String) → List Token →
    Except Fault (List Expr × List Token)
  | 0, _, _, _ => .error .unreadable
  | fuel + 1, depth, close, ts =>
      match skipSymbol? close ts with
      | some ts => .ok ([], ts)
      | none => do
          let (e, ts) ← expression fuel depth ts
          match ts with
          | .symbol "," :: ts =>
              let (others, ts) ← items fuel depth close ts
              return (e :: others, ts)
          | ts => return ([e], ← expectSymbol close ts)

def entries : (fuel depth : Nat) → List Token → Except Fault (List (Expr × Expr) × List Token)
  | 0, _, _ => .error .unreadable
  | _ + 1, _, .symbol "\x7d" :: ts => .ok ([], ts)
  | fuel + 1, depth, ts => do
      let (key, ts) ← expression fuel depth ts
      let ts ← expectSymbol ":" ts
      let (value, ts) ← expression fuel depth ts
      match ts with
      | .symbol "," :: ts =>
          let (others, ts) ← entries fuel depth ts
          return ((key, value) :: others, ts)
      | ts => return ([(key, value)], ← expectSymbol "\x7d" ts)

def suffixes : (fuel depth : Nat) → Expr → List Token → Except Fault (Expr × List Token)
  | 0, _, _, _ => .error .unreadable
  | fuel + 1, depth, e, .symbol "." :: .name name :: ts =>
      suffixes fuel depth (.member e name) ts
  | fuel + 1, depth, e, .symbol "." :: .int n :: ts =>
      suffixes fuel depth (.item e (.constant (.int n))) ts
  | _ + 1, _, _, .symbol "." :: _ => .error .unreadable
  | fuel + 1, depth, e, .symbol "[" :: ts => do
      let (first, ts) ← bound fuel depth [":"] ts
      match ts with
      | .symbol ":" :: ts =>
          let (last, ts) ← bound fuel depth ["]", ":"] ts
          let (step, ts) ← match ts with
            | .symbol ":" :: ts => bound fuel depth ["]"] ts
            | ts => .ok (none, ts)
          suffixes fuel depth (.slice e first last step) (← expectSymbol "]" ts)
      | ts =>
          match first with
          | some key => suffixes fuel depth (.item e key) (← expectSymbol "]" ts)
          | none => .error .unreadable
  | fuel + 1, depth, e, .symbol "(" :: ts => do
      let (found, ts) ← arguments fuel depth false ts
      suffixes fuel depth (.call e found) ts
  | _ + 1, _, e, ts => .ok (e, ts)

/-- A bound of a slice, left out in front of certain symbols. -/
def bound : (fuel depth : Nat) → (stops : List String) → List Token →
    Except Fault (Option Expr × List Token)
  | 0, _, _, _ => .error .unreadable
  | fuel + 1, depth, stops, ts =>
      if stops.any fun stop => (skipSymbol? stop ts).isSome then .ok (none, ts)
      else do
        let (e, ts) ← expression fuel depth ts
        return (some e, ts)

/-- The arguments of a call up to the closing parenthesis; once one has a name, all plain ones have. -/
def arguments : (fuel depth : Nat) → (hasNamed : Bool) → List Token →
    Except Fault (List (Form × Expr) × List Token)
  | 0, _, _, _ => .error .unreadable
  | _ + 1, _, _, .symbol ")" :: ts => .ok ([], ts)
  | fuel + 1, depth, hasNamed, ts => do
      let ((form, e), ts) ← argument fuel depth ts
      let isNamed := match form with
        | .named _ | .spreadNamed => true
        | _ => false
      if hasNamed && form = .plain then .error .unreadable
      else match ts with
        | .symbol "," :: ts =>
            let (others, ts) ← arguments fuel depth (hasNamed || isNamed) ts
            return ((form, e) :: others, ts)
        | ts => return ([(form, e)], ← expectSymbol ")" ts)

def argument : (fuel depth : Nat) → List Token → Except Fault ((Form × Expr) × List Token)
  | 0, _, _ => .error .unreadable
  | fuel + 1, depth, .symbol "**" :: ts => do
      let (e, ts) ← expression fuel depth ts
      return ((.spreadNamed, e), ts)
  | fuel + 1, depth, .symbol "*" :: ts => do
      let (e, ts) ← expression fuel depth ts
      return ((.spread, e), ts)
  | fuel + 1, depth, ts => do
      let (e, ts) ← expression fuel depth ts
      match e, ts with
      | .binding name, .symbol "=" :: ts =>
          let (value, ts) ← operand fuel depth 0 ts
          return ((.named name, value), ts)
      | e, ts => return ((.plain, e), ts)

def filters : (fuel depth : Nat) → Expr → List Token → Except Fault (Expr × List Token)
  | 0, _, _, _ => .error .unreadable
  | fuel + 1, depth, e, .symbol "|" :: .name name :: ts => do
      let (found, ts) ← givenArguments fuel depth ts
      filters fuel depth (.filter (some e) name found) ts
  | _ + 1, _, _, .symbol "|" :: _ => .error .unreadable
  | fuel + 1, depth, e, .name "is" :: .name "not" :: ts => do
      let (e, ts) ← tested fuel depth e ts
      filters fuel depth (.not e) ts
  | fuel + 1, depth, e, .name "is" :: ts => do
      let (e, ts) ← tested fuel depth e ts
      filters fuel depth e ts
  | _ + 1, _, e, ts => .ok (e, ts)

def givenArguments : (fuel depth : Nat) → List Token →
    Except Fault (List (Form × Expr) × List Token)
  | 0, _, _ => .error .unreadable
  | fuel + 1, depth, .symbol "(" :: ts => arguments fuel depth false ts
  | _ + 1, _, ts => .ok ([], ts)

def tested : (fuel depth : Nat) → Expr → List Token → Except Fault (Expr × List Token)
  | 0, _, _, _ => .error .unreadable
  | fuel + 1, depth, e, .name name :: ts =>
      match ts with
      | .symbol "(" :: ts => do
          let (found, ts) ← arguments fuel depth false ts
          return (.test e name found, ts)
      | t :: _ =>
          if beginsArgument t then do
            let (found, ts) ← signed fuel depth ts
            let (found, ts) ← suffixes fuel depth found ts
            return (.test e name [(.plain, found)], ts)
          else .ok (.test e name [], ts)
      | [] => .ok (.test e name [], [])
  | _ + 1, _, _, _ => .error .unreadable
end

def filterChain : (fuel depth : Nat) → Option Expr → List Token → Except Fault (Expr × List Token)
  | 0, _, _, _ => .error .unreadable
  | _ + 1, _, some e, .closing .order :: ts => .ok (e, .closing .order :: ts)
  | fuel + 1, depth, none, .name name :: ts => do
      let (found, ts) ← givenArguments fuel depth ts
      filterChain fuel depth (some (.filter none name found)) ts
  | fuel + 1, depth, some e, .symbol "|" :: .name name :: ts => do
      let (found, ts) ← givenArguments fuel depth ts
      filterChain fuel depth (some (.filter (some e) name found)) ts
  | _ + 1, _, _, _ => .error .unreadable

end Signpost.Template
