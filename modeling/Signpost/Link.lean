import Signpost.Location

/-! Links between documents.

A link is written `path.block?predicate`, where the block and the predicate may be missing. The
path is absolute (`/doc`), relative to the directory of the current document (`./doc`, `../doc`,
`doc`) or missing (`.block`), which stays in the current document. -/

namespace Signpost

inductive Reference where
  | absolute (path : String)
  | here (rest : String)
  | bare (rest : String)
  | up (levels : Nat) (rest : String)
  | sameDocument
deriving DecidableEq, Repr, Inhabited

/-- Without a block the link leads to the default block of the document; without a permission
everyone may follow it. -/
structure Link where
  target : Reference
  block : Option String
  permission : Option String
deriving DecidableEq, Repr, Inhabited

namespace Reference

def climb : List Char → Nat × List Char
  | '.' :: '.' :: '/' :: rest =>
      let (levels, rest) := climb rest
      (levels + 1, rest)
  | rest => (0, rest)

def climbText : Nat → String
  | 0 => ""
  | levels + 1 => "../" ++ climbText levels

/-- The segments between slashes; empty ones and `.` do not count. -/
def segments (path : List Char) : List (List Char) :=
  (Text.fields '/' path).filter fun segment => !segment.isEmpty && segment != ['.']

def text : Reference → String
  | absolute path => path
  | here rest => "./" ++ rest
  | bare rest => rest
  | up levels rest => climbText levels ++ rest
  | sameDocument => ""

/-- Reads a path that is not empty; one that names no document is refused. -/
def read? (path : List Char) : Option Reference :=
  match path with
  | [] => none
  | '/' :: _ => if (segments path).isEmpty then none else some (absolute (String.ofList path))
  | '.' :: '/' :: rest => if rest.isEmpty then none else some (here (String.ofList rest))
  | '.' :: '.' :: '/' :: _ =>
      let (levels, rest) := climb path
      if rest.isEmpty || rest == ['.', '.'] then none else some (up levels (String.ofList rest))
  | path => if path == ['.'] || path == ['.', '.'] then none else some (bare (String.ofList path))

/-- Follows segments from the root: `..` leaves the last directory entered. -/
def walk (entered : List (List Char)) : List (List Char) → List (List Char)
  | [] => entered
  | segment :: rest =>
      if segment = ['.', '.'] then walk entered.dropLast rest
      else walk (entered ++ [segment]) rest

def absoluteText (segments : List (List Char)) : String :=
  "/" ++ Text.join "/" ((walk [] segments).map String.ofList)

def directory (path : String) : List (List Char) := (segments path.toList).dropLast

def resolve (current : String) : Reference → String
  | absolute path => absoluteText (segments path.toList)
  | sameDocument => absoluteText (segments current.toList)
  | here rest | bare rest => absoluteText (directory current ++ segments rest.toList)
  | up levels rest =>
      let base := directory current
      absoluteText (base.take (base.length - levels) ++ segments rest.toList)

end Reference

namespace Link

def text (link : Link) : String :=
  link.target.text ++
    (match link.block with | some block => "." ++ block | none => "") ++
    (match link.permission with | some predicate => "?" ++ predicate | none => "")

/-- The block of a link within the document: a point, then neither a point nor any slash. -/
def sameDocumentBlock? : List Char → Option (List Char)
  | '.' :: rest => if rest.head? = some '.' || rest.contains '/' then none else some rest
  | _ => none

/-- Reads what stands before the predicate. `whole` is the link as written, for messages. -/
def readBody (whole : String) (body : List Char) (permission : Option String) :
    Except LinkError Link :=
  match sameDocumentBlock? body with
  | some block =>
      if Location.validBlock block then
        .ok ⟨.sameDocument, some (String.ofList block), permission⟩
      else .error (.invalidBlock (String.ofList block))
  | none =>
      let finish (path : List Char) (block : Option String) : Except LinkError Link :=
        match Reference.read? path with
        | some target => .ok ⟨target, block, permission⟩
        | none => .error (.missingDocument whole)
      match Location.splitBlock body with
      | (path, none) => finish path none
      | (path, some block) =>
          if Location.validBlock block then finish path (some (String.ofList block))
          else .error (.invalidBlock (String.ofList block))

/-- Reads a link. The predicate is what follows the last question mark. -/
def read (written : String) : Except LinkError Link :=
  let text := Text.trimChars written.toList
  if text.isEmpty then .error .empty
  else match Text.cutLast '?' text with
    | none => readBody (String.ofList text) text none
    | some (body, predicate) =>
        let predicate := Text.trimChars predicate
        if predicate.isEmpty then .error (.emptyPredicate (String.ofList text))
        else readBody (String.ofList text) (Text.trimChars body) (some (String.ofList predicate))

def resolve (link : Link) (current : String) : String := link.target.resolve current

end Link

end Signpost
