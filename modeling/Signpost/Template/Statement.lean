import Signpost.Template.Expression

/-! Statements and how they are read.

A section holds statements up to the tag that ends it. Blocks have names of their own, which occur once
in a template and never inside a routine. -/

namespace Signpost.Template

inductive Target where
  | name (text : String)
  /-- A member of a namespace. -/
  | member (container : Expr) (name : String)
  /-- The items of a list, one to each target. -/
  | several (targets : List Target)
deriving Inhabited, Repr

inductive Statement where
  | data (text : String)
  | print (e : Expr)
  | choose (condition : Expr) (yes no : List Statement)
  | each (target : Target) (source : Expr) (condition : Option Expr) (recursive : Bool)
      (body no : List Statement)
  /-- Names that are set within the body only. -/
  | within (bindings : List (Target × Expr)) (body : List Statement)
  | assign (target : Target) (e : Expr)
  /-- Assigns what the body prints, perhaps filtered. -/
  | capture (target : Target) (chain : Option Expr) (body : List Statement)
  | escaping (e : Expr) (body : List Statement)
  | filtered (chain : Expr) (body : List Statement)
  | block (name : String) (body : List Statement)
  | insertion (source : Expr) (optional : Bool)
  | extension (source : Expr)
  | importAs (source : Expr) (target : Target)
  | importNames (source : Expr) (names : List (String × Target))
  /-- Defines a routine: the last parameters have the defaults. -/
  | define (name : String) (parameters : List String) (defaults : List Expr) (body : List Statement)
  /-- Prints a call that is given the body as a routine of its own. -/
  | callWith (callee : Expr) (arguments : List (Form × Expr)) (parameters : List String)
      (defaults : List Expr) (body : List Statement)
  | perform (e : Expr)
deriving Inhabited, Repr

def reserved : List String := ["true", "True", "false", "False", "none", "None", "loop", "self"]

def assignable : List Token → Except Fault (String × List Token)
  | .name name :: ts => if reserved.contains name then .error .unreadable else .ok (name, ts)
  | _ => .error .unreadable

def memberTarget (container : Expr) : List Token → Except Fault (Target × List Token)
  | .symbol "." :: .name name :: .symbol "." :: ts =>
      memberTarget (.member container name) (.symbol "." :: ts)
  | .symbol "." :: .name name :: ts => .ok (.member container name, ts)
  | _ => .error .unreadable

def pathTarget (ts : List Token) : Except Fault (Target × List Token) := do
  let (name, ts) ← assignable ts
  match ts with
  | .symbol "." :: _ => memberTarget (.binding name) ts
  | ts => return (.name name, ts)

def endsTargets : List Token → Bool
  | .symbol ")" :: _ | .closing _ :: _ | .name "in" :: _ => true
  | _ => false

mutual
def targets : (fuel : Nat) → (found : List Target) → List Token → Except Fault (Target × List Token)
  | 0, _, _ => .error .unreadable
  | fuel + 1, found, ts =>
      if endsTargets ts then .ok (.several found, ts)
      else do
        let (target, ts) ← oneTarget fuel ts
        match ts, found with
        | .symbol "," :: ts, _ => targets fuel (found ++ [target]) ts
        | ts, [] => return (target, ts)
        | ts, _ => return (.several (found ++ [target]), ts)

def oneTarget : (fuel : Nat) → List Token → Except Fault (Target × List Token)
  | 0, _ => .error .unreadable
  | fuel + 1, .symbol "(" :: ts => do
      let (target, ts) ← targets fuel [] ts
      return (target, ← expectSymbol ")" ts)
  | _ + 1, ts => do
      let (name, ts) ← assignable ts
      return (.name name, ts)
end

def expectEnd : List Token → Except Fault (List Token)
  | .closing .order :: ts => .ok ts
  | _ => .error .unreadable

def scopedBindings (depth : Nat) : (fuel : Nat) → List Token →
    Except Fault (List (Target × Expr) × List Token)
  | 0, _ => .error .unreadable
  | _ + 1, .closing .order :: ts => .ok ([], .closing .order :: ts)
  | fuel + 1, ts => do
      let (target, ts) ← oneTarget fuel ts
      let (e, ts) ← expression fuel depth (← expectSymbol "=" ts)
      match ts with
      | .symbol "," :: ts =>
          if (expectEnd ts).isOk then .error .unreadable
          else
            let (others, ts) ← scopedBindings depth fuel ts
            return ((target, e) :: others, ts)
      | .closing .order :: ts => return ([(target, e)], .closing .order :: ts)
      | _ => .error .unreadable

def parameters (depth : Nat) : (fuel : Nat) → (hasDefault : Bool) → List Token →
    Except Fault ((List String × List Expr) × List Token)
  | 0, _, _ => .error .unreadable
  | _ + 1, _, .symbol ")" :: ts => .ok (([], []), ts)
  | fuel + 1, hasDefault, ts => do
      let (name, ts) ← assignable ts
      let (default?, ts) ← match ts with
        | .symbol "=" :: ts => (expression fuel depth ts).map fun (e, ts) => (some e, ts)
        | ts => if hasDefault then .error .unreadable else .ok (none, ts)
      let ((names, defaults), ts) ← match ts with
        | .symbol "," :: ts => parameters depth fuel default?.isSome ts
        | ts => (expectSymbol ")" ts).map fun ts => (([], []), ts)
      return ((name :: names, default?.toList ++ defaults), ts)

def importedNames : (fuel : Nat) → List Token → Except Fault (List (String × Target) × List Token)
  | 0, _ => .error .unreadable
  | _ + 1, .closing .order :: ts => .ok ([], .closing .order :: ts)
  | fuel + 1, ts => do
      let (name, ts) ← assignable ts
      let (target, ts) ← match ts with
        | .name "as" :: ts => assignable ts
        | ts => .ok (name, ts)
      match ts with
      | .symbol "," :: ts =>
          let (others, ts) ← importedNames fuel ts
          return ((name, .name target) :: others, ts)
      | .closing .order :: ts => return ([(name, .name target)], .closing .order :: ts)
      | _ => .error .unreadable

def skipContext : List Token → List Token
  | .name "with" :: .name "context" :: ts | .name "without" :: .name "context" :: ts => ts
  | ts => ts

def expectName (name : String) : List Token → Except Fault (List Token)
  | .name found :: ts => if found = name then .ok ts else .error .unreadable
  | _ => .error .unreadable

/-- Where a section stands: how deep, and whether in a routine. -/
structure Place where
  depth : Nat
  inRoutine : Bool

mutual
def statements : (fuel : Nat) → Place → (ends : List String) → List Token →
    Except Fault (List Statement × List Token)
  | 0, _, _, _ => .error .unreadable
  | _ + 1, _, _, [] => .ok ([], [])
  | fuel + 1, place, ends, .data text :: ts => do
      let (others, ts) ← statements fuel place ends ts
      return (.data text :: others, ts)
  | fuel + 1, place, ends, .opening .print :: ts => do
      let (e, ts) ← expression fuel place.depth ts
      match ts with
      | .closing .print :: ts =>
          let (others, ts) ← statements fuel place ends ts
          return (.print e :: others, ts)
      | _ => .error .unreadable
  | fuel + 1, place, ends, .opening .order :: .name name :: ts =>
      if ends.contains name then .ok ([], .name name :: ts)
      else if nestingBound ≤ place.depth then .error .unreadable
      else do
        let (first, ts) ← statement fuel { place with depth := place.depth + 1 } name ts
        let (others, ts) ← statements fuel place ends (← expectEnd ts)
        return (first :: others, ts)
  | _ + 1, _, _, _ => .error .unreadable

def sectionUntil : (fuel : Nat) → Place → (last : String) → List Token →
    Except Fault (List Statement × List Token)
  | 0, _, _, _ => .error .unreadable
  | fuel + 1, place, last, ts => do
      let (body, ts) ← statements fuel place [last] (← expectEnd ts)
      return (body, ← expectName last ts)

def choice : (fuel : Nat) → Place → List Token → Except Fault (Statement × List Token)
  | 0, _, _ => .error .unreadable
  | fuel + 1, place, ts => do
      let (condition, ts) ← expression fuel place.depth ts
      let (yes, ts) ← statements fuel place ["endif", "else", "elif"] (← expectEnd ts)
      match ts with
      | .name "else" :: ts =>
          let (no, ts) ← sectionUntil fuel place "endif" ts
          return (.choose condition yes no, ts)
      | .name "elif" :: ts =>
          let (no, ts) ← choice fuel place ts
          return (.choose condition yes [no], ts)
      | ts => return (.choose condition yes [], ← expectName "endif" ts)

def routine : (fuel : Nat) → Place → (last : String) → (hasParameters : Bool) → List Token →
    Except Fault (((List String × List Expr) × List Statement) × List Token)
  | 0, _, _, _, _ => .error .unreadable
  | fuel + 1, place, last, hasParameters, ts => do
      let (head, ts) ←
        if hasParameters then parameters place.depth fuel false ts else .ok (([], []), ts)
      let (body, ts) ← sectionUntil fuel { place with inRoutine := true } last ts
      return ((head, body), ts)

def statement : (fuel : Nat) → Place → (name : String) → List Token →
    Except Fault (Statement × List Token)
  | 0, _, _, _ => .error .unreadable
  | fuel + 1, place, "if", ts => choice fuel place ts
  | fuel + 1, place, "for", ts => do
      let (target, ts) ← targets fuel [] ts
      let (source, ts) ← operand fuel place.depth 0 (← expectName "in" ts)
      let (condition, ts) ← match ts with
        | .name "if" :: ts => (expression fuel place.depth ts).map fun (e, ts) => (some e, ts)
        | ts => .ok (none, ts)
      let (recursive, ts) := match ts with
        | .name "recursive" :: ts => (true, ts)
        | ts => (false, ts)
      let (body, ts) ← statements fuel place ["endfor", "else"] (← expectEnd ts)
      match ts with
      | .name "else" :: ts =>
          let (no, ts) ← sectionUntil fuel place "endfor" ts
          return (.each target source condition recursive body no, ts)
      | ts => return (.each target source condition recursive body [], ← expectName "endfor" ts)
  | fuel + 1, place, "with", ts => do
      let (bindings, ts) ← scopedBindings place.depth fuel ts
      let (body, ts) ← sectionUntil fuel place "endwith" ts
      return (.within bindings body, ts)
  | fuel + 1, place, "set", ts => do
      let (target, isSeveral, ts) ← match ts with
        | .symbol "(" :: ts => do
            let (target, ts) ← targets fuel [] ts
            .ok (target, true, ← expectSymbol ")" ts)
        | ts => (pathTarget ts).map fun (target, ts) => (target, false, ts)
      match isSeveral, ts with
      | false, .symbol "|" :: ts => do
          let (chain, ts) ← filterChain fuel place.depth none ts
          let (body, ts) ← sectionUntil fuel place "endset" ts
          return (.capture target (some chain) body, ts)
      | false, .closing .order :: _ => do
          let (body, ts) ← sectionUntil fuel place "endset" ts
          return (.capture target none body, ts)
      | _, ts => do
          let (e, ts) ← expression fuel place.depth (← expectSymbol "=" ts)
          return (.assign target e, ts)
  | fuel + 1, place, "autoescape", ts => do
      let (e, ts) ← expression fuel place.depth ts
      let (body, ts) ← sectionUntil fuel place "endautoescape" ts
      return (.escaping e body, ts)
  | fuel + 1, place, "filter", ts => do
      let (chain, ts) ← filterChain fuel place.depth none ts
      let (body, ts) ← sectionUntil fuel place "endfilter" ts
      return (.filtered chain body, ts)
  | fuel + 1, place, "block", .name name :: ts =>
      if place.inRoutine then .error .unreadable
      else do
        let (body, ts) ← sectionUntil fuel place "endblock" ts
        match ts with
        | .name again :: ts =>
            if again = name then return (.block name body, ts) else .error .unreadable
        | ts => return (.block name body, ts)
  | fuel + 1, place, "extends", ts => do
      let (e, ts) ← expression fuel place.depth ts
      return (.extension e, ts)
  | fuel + 1, place, "include", ts => do
      let (e, ts) ← expression fuel place.depth ts
      let ts := skipContext ts
      match ts with
      | .name "ignore" :: .name "missing" :: ts => return (.insertion e true, skipContext ts)
      | .name "ignore" :: _ => .error .unreadable
      | ts => return (.insertion e false, ts)
  | fuel + 1, place, "import", ts => do
      let (e, ts) ← expression fuel place.depth ts
      let (name, ts) ← assignable (← expectName "as" ts)
      return (.importAs e (.name name), skipContext ts)
  | fuel + 1, place, "from", ts => do
      let (e, ts) ← expression fuel place.depth ts
      let (names, ts) ← importedNames fuel (← expectName "import" ts)
      return (.importNames e names, ts)
  | fuel + 1, place, "macro", .name name :: ts => do
      let (((names, defaults), body), ts) ←
        routine fuel place "endmacro" true (← expectSymbol "(" ts)
      return (.define name names defaults body, ts)
  | fuel + 1, place, "call", ts => do
      let (hasParameters, ts) := match skipSymbol? "(" ts with
        | some ts => (true, ts)
        | none => (false, ts)
      let (head, ts) ←
        if hasParameters then parameters place.depth fuel false ts else .ok (([], []), ts)
      let (e, ts) ← expression fuel place.depth ts
      let (body, ts) ← sectionUntil fuel { place with inRoutine := true } "endcall" ts
      match e with
      | .call callee arguments => return (.callWith callee arguments head.1 head.2 body, ts)
      | _ => .error .unreadable
  | fuel + 1, place, "do", ts => do
      let (e, ts) ← expression fuel place.depth ts
      match e with
      | .call _ _ => return (.perform e, ts)
      | _ => .error .unreadable
  | _ + 1, _, _, _ => .error .unreadable
end

mutual
def Statement.blocks : Statement → List (String × List Statement)
  | .choose _ yes no => blocksOf yes ++ blocksOf no
  | .each _ _ _ _ body no => blocksOf body ++ blocksOf no
  | .within _ body | .capture _ _ body | .escaping _ body | .filtered _ body => blocksOf body
  | .block name body => (name, body) :: blocksOf body
  | _ => []

def blocksOf : List Statement → List (String × List Statement)
  | [] => []
  | statement :: others => statement.blocks ++ blocksOf others
end

def read (source : String) : Except Fault (List Statement) :=
  match tokensOf source with
  | none => .error .unreadable
  | some ts => do
      let (body, rest) ← statements (16 * (ts.length + 2)) ⟨0, false⟩ [] ts
      let names := (blocksOf body).map (·.1)
      if rest.isEmpty && names.eraseDups == names then return body else .error .unreadable

/-! The names that a routine takes from its surroundings.

They are the names that its body reads before it assigns them. A name that is assigned in an inner
section is unknown again behind that section. An assignment counts from its own right side on. -/

/-- The name under which a routine finds the body of a call that is given one. A routine that is
defined inside another one has a body of its own under that name. -/
def callerName : String := "caller"

structure Tracing where
  assigned : List String
  taken : List String

namespace Tracing

def assign (tracing : Tracing) (name : String) : Tracing :=
  { tracing with assigned := name :: tracing.assigned }

def take (tracing : Tracing) (name : String) : Tracing :=
  if tracing.assigned.contains name || tracing.taken.contains name then tracing
  else { tracing with taken := name :: tracing.taken }

def leave (outer inner : Tracing) : Tracing := { inner with assigned := outer.assigned }

end Tracing

mutual
def Expr.trace (tracing : Tracing) : Expr → Tracing
  | .constant _ => tracing
  | .binding name => tracing.take name
  | .list items => traceItems tracing items
  | .map entries => traceEntries tracing entries
  | .member container _ => container.trace tracing
  | .item container key => key.trace (container.trace tracing)
  | .slice container first last step =>
      traceOption (traceOption (traceOption (container.trace tracing) first) last) step
  | .negate operand | .not operand => operand.trace tracing
  | .binary _ left right => right.trace (left.trace tracing)
  | .choose condition yes no => traceOption (yes.trace (condition.trace tracing)) no
  | .filter subject _ arguments => traceArguments (traceOption tracing subject) arguments
  | .test subject _ arguments => traceArguments (subject.trace tracing) arguments
  | .call callee arguments => traceArguments (callee.trace tracing) arguments

def traceItems (tracing : Tracing) : List Expr → Tracing
  | [] => tracing
  | e :: es => traceItems (e.trace tracing) es

def traceEntries (tracing : Tracing) : List (Expr × Expr) → Tracing
  | [] => tracing
  | (key, value) :: entries => traceEntries (value.trace (key.trace tracing)) entries

def traceArguments (tracing : Tracing) : List (Form × Expr) → Tracing
  | [] => tracing
  | (_, e) :: arguments => traceArguments (e.trace tracing) arguments

def traceOption (tracing : Tracing) : Option Expr → Tracing
  | none => tracing
  | some e => e.trace tracing
end

mutual
def Target.trace (tracing : Tracing) : Target → Tracing
  | .name name => tracing.assign name
  | .member container _ => container.trace tracing
  | .several targets => traceTargets tracing targets

def traceTargets (tracing : Tracing) : List Target → Tracing
  | [] => tracing
  | target :: targets => traceTargets (target.trace tracing) targets
end

def traceBindings (tracing : Tracing) : List (Target × Expr) → Tracing
  | [] => tracing
  | (target, e) :: bindings => traceBindings (e.trace (target.trace tracing)) bindings

def traceImported (tracing : Tracing) : List (String × Target) → Tracing
  | [] => tracing
  | (_, target) :: names => traceImported (target.trace tracing) names

mutual
def Statement.trace (tracing : Tracing) : Statement → Tracing
  | .data _ | .extension _ | .insertion _ _ => tracing
  | .print e => e.trace tracing
  | .choose condition yes no =>
      let tracing := condition.trace tracing
      let tracing := tracing.leave (traceAll tracing yes)
      tracing.leave (traceAll tracing no)
  | .each target source condition _ body no =>
      let inside := target.trace (source.trace (tracing.assign "loop"))
      let tracing := tracing.leave (traceAll (traceOption inside condition) body)
      tracing.leave (traceAll tracing no)
  | .within bindings body => tracing.leave (traceAll (traceBindings tracing bindings) body)
  | .assign target e => e.trace (target.trace tracing)
  | .capture target _ body =>
      let tracing := target.trace tracing
      tracing.leave (traceAll tracing body)
  | .escaping _ body | .filtered _ body => tracing.leave (traceAll tracing body)
  | .block _ body => tracing.leave (traceAll (tracing.assign "super") body)
  | .importAs _ target => target.trace tracing
  | .importNames _ names => traceImported tracing names
  | .define name parameters defaults body =>
      let known := callerName :: name :: parameters
      traceAll (traceItems (known.foldl Tracing.assign tracing) defaults) body
  | .callWith callee arguments parameters defaults body =>
      let tracing := traceArguments (callee.trace tracing) arguments
      let known := callerName :: parameters
      traceAll (traceItems (known.foldl Tracing.assign tracing) defaults) body
  | .perform e => e.trace tracing

def traceAll (tracing : Tracing) : List Statement → Tracing
  | [] => tracing
  | statement :: others => traceAll (statement.trace tracing) others
end

def enclosedNames (parameters : List String) (defaults : List Expr) (body : List Statement) :
    List String :=
  (traceAll (traceItems ⟨parameters, []⟩ defaults) body).taken

end Signpost.Template
