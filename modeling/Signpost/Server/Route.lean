import Signpost.Text.Basic
import Signpost.Text.Utf8
import Signpost.Value.Reader

/-! The routes of the session server. -/

namespace Signpost.Server

/-- A place of the interface; a session is named by the part of the path that stands for it. -/
inductive Route where
  | health
  | sessions
  | session (written : String)
  | block (written : String)
  | dispatch (written : String)
  | select (written : String)
  | back (written : String)
deriving DecidableEq, Repr, Inhabited

/-- The route of a path below the interface. The part for a session may be empty only where another
part follows. -/
def Route.ofParts : List String → Option Route
  | ["health"] => some .health
  | ["sessions"] => some .sessions
  | ["sessions", written] => if written.isEmpty then none else some (.session written)
  | ["sessions", written, "block"] => some (.block written)
  | ["sessions", written, "dispatch"] => some (.dispatch written)
  | ["sessions", written, "select"] => some (.select written)
  | ["sessions", written, "back"] => some (.back written)
  | _ => none

def afterHost : List Char → List Char
  | ':' :: '/' :: '/' :: rest => rest.dropWhile fun c => c != '/' && c != '?' && c != '#'
  | _ :: rest => afterHost rest
  | [] => []

/-- The path of an address: scheme, host, query and fragment do not count. -/
def pathOf (address : String) : List Char :=
  let below := match address.toList with
    | '/' :: rest => '/' :: rest
    | text => afterHost text
  below.takeWhile fun c => c != '?' && c != '#'

def Route.ofAddress (address : String) : Option Route :=
  match (Text.fields '/' (pathOf address)).map String.ofList with
  | "" :: "api" :: parts => Route.ofParts parts
  | _ => none

/-- The bytes of a part of a path, where `%` and two hexadecimal digits stand for a byte. -/
def percentBytes : List Char → Text.Bytes
  | '%' :: a :: b :: rest =>
      match Value.hexValue? a, Value.hexValue? b with
      | some high, some low => UInt8.ofNat (high * 16 + low) :: percentBytes rest
      | _, _ => Text.encodeChar '%' ++ percentBytes (a :: b :: rest)
  | c :: rest => Text.encodeChar c ++ percentBytes rest
  | [] => []

def sessionNumber? (written : String) : Option Nat :=
  (Text.decode? (percentBytes written.toList)).bind Text.count?

end Signpost.Server
