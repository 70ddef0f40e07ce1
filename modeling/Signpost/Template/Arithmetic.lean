import Signpost.Template.Datum
import Signpost.Template.Printed

/-! The operators.

Two whole numbers give a whole number, and a result that does not fit is refused; as soon as one
operand is a double, so is the result. Lists are joined and repeated as streams. -/

namespace Signpost.Template

inductive Operator where
  | add | subtract | multiply | divide | wholeDivide | remainder | power | concat
  | equal | unequal | less | lessEqual | greater | greaterEqual | isIn | and | or
deriving DecidableEq, Repr, Inhabited

def whole (n : Int) : Except Fault Datum :=
  if -integerBound ≤ n && n < integerBound then .ok (.int n) else .error .operation

inductive Pair where
  | whole (a b : Int)
  | real (x y : Double)

def pair? (a b : Datum) : Option Pair :=
  match a, b with
  | .real _, _ | _, .real _ => do return .real (← a.double?) (← b.double?)
  | _, _ => do return .whole (← a.calculable?) (← b.calculable?)

def calculate (exact : Int → Int → Except Fault Datum) (machine : Double → Double → Double)
    (a b : Datum) : Except Fault Datum :=
  match pair? a b with
  | some (.whole m n) => exact m n
  | some (.real x y) => .ok (.real (machine x y))
  | none => .error .operation

def repetitionBound : Nat := 100000000

def repeated {α : Type} (count : Nat) (part : List α) : Except Fault (List α) :=
  if part.isEmpty then .ok []
  else if repetitionBound < count * part.length then .error .operation
  else .ok ((List.replicate count part).flatten)

def repetition? (part times : Datum) : Option (Except Fault Datum) :=
  let copies {α : Type} (known : Bool) (items : List α) : Except Fault (List α) :=
    match times.count? with
    | some count => if known then repeated count items else .error .operation
    | none => .error .operation
  match part with
  | .text value _ => some ((copies true value.toList).map Datum.ofChars)
  | .list items _ => some ((copies true items).map fun items => .stream items true)
  | .stream items sized => some ((copies sized items).map fun items => .stream items true)
  | _ => none

def Datum.isSized : Datum → Bool
  | .stream _ sized => sized
  | _ => true

def Datum.contains (container value : Datum) : Except Fault Bool :=
  match container with
  | .undefined => .ok false
  | .text held _ => .ok (Text.occurs value.printed.toList held.toList)
  | .list items _ | .stream items _ => .ok (items.any fun item => item.equals value)
  | .object (.function _) _ _ => .ok false
  | .map entries | .options entries | .object _ _ entries =>
      .ok (Datum.find? entries value).isSome
  | _ => .error .operation

def powerOf (a b : Int) : Except Fault Datum :=
  if b < 0 || 4294967295 < b then .error .operation
  else if a.natAbs ≤ 1 then whole (if a = -1 && b % 2 = 0 then 1 else if b = 0 then 1 else a)
  else if 128 < b then .error .operation
  else whole (Int.pow a b.toNat)

def Operator.apply (operator : Operator) (a b : Datum) : Except Fault Datum :=
  match operator with
  | .add =>
      match a.elements?, b.elements? with
      | some xs, some ys => .ok (.stream (xs ++ ys) (a.isSized && b.isSized))
      | _, _ =>
          match a, b with
          | .text s _, .text t _ => .ok (.ofText (s ++ t))
          | _, _ => calculate (fun m n => whole (m + n)) (Double.combine (· + ·)) a b
  | .subtract => calculate (fun m n => whole (m - n)) (Double.combine (· - ·)) a b
  | .multiply =>
      let texts := match a, b with
        | .text _ _, _ => repetition? a b
        | _, .text _ _ => repetition? b a
        | _, _ => (repetition? a b).or (repetition? b a)
      match texts with
      | some result => result
      | none => calculate (fun m n => whole (m * n)) (Double.combine (· * ·)) a b
  | .divide =>
      match a.double?, b.double? with
      | some x, some y => .ok (.real (Double.combine (· / ·) x y))
      | _, _ => .error .operation
  | .wholeDivide =>
      calculate (fun m n => if n = 0 then .error .operation else whole (m / n))
        Double.wholeQuotient a b
  | .remainder =>
      calculate (fun m n => if n = 0 then .error .operation else whole (m % n)) Double.remainder a b
  | .power => calculate powerOf (Double.combine Float.pow) a b
  | .concat => .ok (.ofText (a.printed ++ b.printed))
  | .equal => .ok (.bool (a.equals b))
  | .unequal => .ok (.bool !(a.equals b))
  | .less => .ok (.bool (a.order b == .lt))
  | .lessEqual => .ok (.bool (a.order b != .gt))
  | .greater => .ok (.bool (a.order b == .gt))
  | .greaterEqual => .ok (.bool (a.order b != .lt))
  | .isIn => (b.contains a).map .bool
  | .and => .ok (if a.holds then b else a)
  | .or => .ok (if a.holds then a else b)

def Datum.negated : Datum → Except Fault Datum
  | .real x => .ok (.real x.flipped)
  | .int n =>
      if n = integerBound then .ok (.int n)
      else if integerBound < n then .error .operation
      else whole (-n)
  | _ => .error .operation

end Signpost.Template
