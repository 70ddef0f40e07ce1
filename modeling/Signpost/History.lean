import Signpost.Location
import Signpost.Timestamp
import Signpost.Value.Basic

/-! The log of moves: the latest `History.capacity` of them, oldest first. -/

namespace Signpost

structure HistoryEntry where
  location : Location
  context : String
  time : Timestamp
deriving DecidableEq, Repr, Inhabited

structure History where
  entries : List HistoryEntry := []
deriving DecidableEq, Repr, Inhabited

namespace History

def capacity : Nat := 50

def ofEntries (entries : List HistoryEntry) : History :=
  ⟨entries.drop (entries.length - capacity)⟩

def evict : List HistoryEntry → List HistoryEntry
  | [] => []
  | entry :: later => if capacity < (entry :: later).length then evict later else entry :: later

/-- Appends a move; the oldest one makes room when the log is full. -/
def record (h : History) (entry : HistoryEntry) : History := ⟨evict (h.entries ++ [entry])⟩

def last? (h : History) : Option HistoryEntry := h.entries.getLast?

def length (h : History) : Nat := h.entries.length

end History

def HistoryEntry.toValue (entry : HistoryEntry) : Value :=
  .obj [("location", .str entry.location.text), ("context", .str entry.context),
    ("ts", .str entry.time.text)]

def HistoryEntry.ofValue? (value : Value) : Option HistoryEntry := do
  let fields ← Fields.ofShape? ["location", "context", "ts"] 3 value
  let location ← (Location.read (← Fields.text? fields "location")).toOption
  let context ← Fields.text? fields "context"
  let time ← Timestamp.read? (← Fields.text? fields "ts")
  return ⟨location, context, time⟩

def History.toValue (h : History) : Value := .arr (h.entries.map HistoryEntry.toValue)

/-- Reads the saved form; of an oversized log the latest entries are kept. -/
def History.ofValue? : Value → Option History
  | .arr items => (items.mapM HistoryEntry.ofValue?).map ofEntries
  | _ => none

end Signpost
