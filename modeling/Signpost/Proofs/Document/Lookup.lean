import Mathlib.Data.List.Nodup
import Signpost.Proofs.Key
import Signpost.Proofs.Library

/-! Looking up the keys of a block.

A key is looked up as it is written, and else by its bare form, in which marks are taken off once more.
Where no two entries have the same bare form, a key finds the entry that shares its bare form and no
other. So an entry is not found by a bare key that still looks marked. -/

namespace Signpost.Document

variable {document : Document} {entries : Block} {block key written : String} {value : Value}

def BareDistinct (entries : Block) : Prop := (entries.map fun entry => Key.bare entry.1).Nodup

instance : Decidable (BareDistinct entries) := inferInstanceAs (Decidable (List.Nodup _))

theorem BareDistinct.eq_of_bare {entry other : String × Value} (distinct : BareDistinct entries)
    (member : entry ∈ entries) (member' : other ∈ entries)
    (same : Key.bare entry.1 = Key.bare other.1) : entry = other :=
  List.inj_on_of_nodup_map distinct member member' same

theorem exists_entry?_eq_some (member : (written, value) ∈ entries)
    (same : Key.bare written = Key.bare key) : ∃ entry, entry? entries key = some entry := by
  unfold entry?
  split
  next => exact ⟨_, rfl⟩
  next =>
    apply Option.isSome_iff_exists.mp
    apply List.find?_isSome.mpr
    exact ⟨_, member, by simpa using same⟩

theorem entry?_eq_some_iff (distinct : BareDistinct entries) :
    entry? entries key = some (written, value) ↔
      (written, value) ∈ entries ∧ Key.bare written = Key.bare key := by
  constructor
  · exact of_entry?_eq_some
  · rintro ⟨member, same⟩
    obtain ⟨⟨other, value'⟩, found⟩ := exists_entry?_eq_some member same
    obtain ⟨member', same'⟩ := of_entry?_eq_some found
    have equal := distinct.eq_of_bare member' member (same'.trans same.symm)
    rw [found, equal]

theorem lookupKey?_eq (named : document.block? block = some entries) (key : String) :
    document.lookupKey? block key = entry? entries key := by
  rw [lookupKey?, named, Option.bind_some]

/-- Where no two entries have the same bare key, a key finds exactly the entry with its bare form. So
every entry is found as it is written and by every key that is marked otherwise, and it is found by its
bare key exactly if no mark of the bare key counts. -/
theorem lookup_by_name (named : document.block? block = some entries)
    (distinct : BareDistinct entries) :
    (∀ key written value, document.lookupKey? block key = some (written, value) ↔
      (written, value) ∈ entries ∧ Key.bare written = Key.bare key) ∧
    ∀ written value, (written, value) ∈ entries →
      document.lookupKey? block written = some (written, value) ∧
      (document.lookupKey? block (Key.bare written) = some (written, value) ↔
        Key.Unmarked (Key.bare written)) := by
  have finds (key written : String) (value : Value) :
      document.lookupKey? block key = some (written, value) ↔
        (written, value) ∈ entries ∧ Key.bare written = Key.bare key := by
    rw [lookupKey?_eq named, entry?_eq_some_iff distinct]
  refine ⟨finds, fun written value member => ⟨(finds _ _ _).mpr ⟨member, rfl⟩, ?_⟩⟩
  rw [finds, ← Key.bare_eq_self_iff, eq_comm (a := Key.bare written)]
  exact and_iff_right member

/-- A block of a key with two marks, one with one, one that is too short for its mark to count, and one
with more marks than count. -/
def marked : Document :=
  ⟨"/app", [("main", [("^start*", .arr [.str "A", .str "B"]), ("save!", .str "call(save)"),
    ("~", .null), ("^^menu**", .str "call(list)")])]⟩

def markedEntries : Block :=
  [("^start*", .arr [.str "A", .str "B"]), ("save!", .str "call(save)"), ("~", .null),
    ("^^menu**", .str "call(list)")]

theorem lookup_by_name_marked :
    marked.block? "main" = some markedEntries ∧ BareDistinct markedEntries ∧
      marked.lookupKey? "main" "~start" = some ("^start*", .arr [.str "A", .str "B"]) ∧
      marked.lookupKey? "main" "save!" = some ("save!", .str "call(save)") ∧
      marked.lookupKey? "main" "save" = some ("save!", .str "call(save)") ∧
      marked.lookupKey? "main" "^menu*" ≠ some ("^^menu**", .str "call(list)") := by
  have named : marked.block? "main" = some markedEntries := rfl
  have distinct : BareDistinct markedEntries := by decide
  obtain ⟨finds, names⟩ := lookup_by_name named distinct
  have remarked := (finds "~start" "^start*" _).mpr ⟨List.mem_cons_self, by decide⟩
  have save : ("save!", .str "call(save)") ∈ markedEntries := by simp [markedEntries]
  have menu : ("^^menu**", .str "call(list)") ∈ markedEntries := by simp [markedEntries]
  obtain ⟨asWritten, asBare⟩ := names _ _ save
  have unmarked := asBare.mpr (by decide)
  have twice := (names _ _ menu).2.not.mpr (by decide)
  exact ⟨named, distinct, remarked, asWritten, unmarked, twice⟩

/-- A bare key that still looks marked finds nothing. -/
theorem doubly_marked_unfound :
    marked.block? "main" = some markedEntries ∧ BareDistinct markedEntries ∧
      ("^^menu**", .str "call(list)") ∈ markedEntries ∧ Key.bare "^^menu**" = "^menu*" ∧
      marked.lookupKey? "main" (Key.bare "^^menu**") = none :=
  ⟨rfl, by decide, by simp [markedEntries], by decide, by rfl⟩

end Signpost.Document
