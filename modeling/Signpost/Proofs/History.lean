import Signpost.History

/-! The log of moves holds the latest moves and the newest one last.

Entries are dropped in two places, one by one when a move is recorded and all at once when a saved log
is read. Both leave the latest entries, as many as there is room for, so a log that has been saved and
read any number of times in between is the end of the list of everything that has been recorded. -/

namespace Signpost.History

variable {entries kept : List HistoryEntry}

/-! ## The latest entries -/

/-- The entries that are kept of a list: those at its end, as many as there is room for. -/
structure Latest (kept entries : List HistoryEntry) : Prop where
  suffix : kept <:+ entries
  length : kept.length = min capacity entries.length

theorem latest_ofEntries (entries : List HistoryEntry) : Latest (ofEntries entries).entries entries where
  suffix := List.drop_suffix _ entries
  length := by
    rw [ofEntries, List.length_drop]
    omega

theorem latest_evict (entries : List HistoryEntry) : Latest (evict entries) entries := by
  induction entries with
  | nil => exact ⟨List.suffix_refl [], rfl⟩
  | cons entry later ih =>
    unfold evict
    split
    next full =>
      refine ⟨ih.suffix.trans (List.suffix_cons entry later), ?_⟩
      have length := ih.length
      rw [List.length_cons] at full ⊢
      omega
    next room =>
      exact ⟨List.suffix_refl _, (Nat.min_eq_right (Nat.le_of_not_lt room)).symm⟩

theorem Latest.of_append {first more : List HistoryEntry} (before : Latest first entries)
    (after : Latest kept (first ++ more)) : Latest kept (entries ++ more) where
  suffix := after.suffix.trans (List.suffix_append_self_iff.mpr before.suffix)
  length := by
    have length := before.length
    rw [after.length, List.length_append, List.length_append, length]
    omega

theorem latest_record (h : History) (entry : HistoryEntry) :
    Latest (h.record entry).entries (h.entries ++ [entry]) := latest_evict _

theorem length_record_le (h : History) (entry : HistoryEntry) :
    (h.record entry).length ≤ capacity := by
  rw [length, (latest_record h entry).length]
  exact Nat.min_le_left _ _

/-- A recorded move stays behind the last forty-nine of the moves before it. -/
theorem entries_record (h : History) (entry : HistoryEntry) :
    ∃ kept, (h.record entry).entries = kept ++ [entry] ∧ kept <:+ h.entries ∧
      kept.length = min 49 h.entries.length := by
  obtain ⟨suffix, length⟩ := latest_record h entry
  rw [List.length_append, List.length_singleton, capacity] at length
  rcases List.suffix_concat_iff.mp suffix with none | ⟨kept, split, before⟩
  · rw [none, List.length_nil] at length
    omega
  · rw [split, List.length_append, List.length_singleton] at length
    exact ⟨kept, split, before, by omega⟩

/-- However full the log is, a recorded move stays. -/
theorem last?_record (h : History) (entry : HistoryEntry) :
    (h.record entry).last? = some entry := by
  obtain ⟨kept, split, -⟩ := entries_record h entry
  rw [last?, split, List.getLast?_concat]

theorem mem_record {h : History} {entry move : HistoryEntry}
    (member : entry ∈ (h.record move).entries) : entry ∈ h.entries ∨ entry = move := by
  have kept : entry ∈ h.entries ++ [move] := (latest_record h move).suffix.subset member
  simpa using kept

/-! ## Recording, saving and reading -/

/-- What happens to a log: a move is recorded, or the log is saved and read again. -/
inductive Use where
  | record (move : HistoryEntry)
  | reload

namespace Use

def apply (h : History) : Use → History
  | record move => h.record move
  | reload => ofEntries h.entries

def move? : Use → Option HistoryEntry
  | record move => some move
  | reload => none

end Use

/-- The log that is left of saved entries and of everything that happens to it. -/
def after (saved : List HistoryEntry) (uses : List Use) : History :=
  uses.foldl Use.apply (ofEntries saved)

theorem latest_apply {h : History} (latest : Latest h.entries entries) (use : Use) :
    Latest (use.apply h).entries (entries ++ use.move?.toList) := by
  cases use with
  | record move => exact latest.of_append (latest_record h move)
  | reload =>
    refine latest.of_append ?_
    rw [Use.move?, Option.toList_none, List.append_nil]
    exact latest_ofEntries h.entries

theorem latest_foldl {h : History} (latest : Latest h.entries entries) (uses : List Use) :
    Latest (uses.foldl Use.apply h).entries (entries ++ uses.filterMap Use.move?) := by
  induction uses generalizing h entries with
  | nil => simpa using latest
  | cons use later ih =>
    have rest := ih (latest_apply latest use)
    rw [List.append_assoc] at rest
    cases use <;> exact rest

/-- A log holds the last fifty of the saved and the recorded entries in their order, however often it
is saved and read in between. -/
theorem holds_latest (saved : List HistoryEntry) (uses : List Use) :
    (after saved uses).entries <:+ saved ++ uses.filterMap Use.move? ∧
      (after saved uses).length = min 50 (saved.length + (uses.filterMap Use.move?).length) := by
  obtain ⟨suffix, length⟩ := latest_foldl (latest_ofEntries saved) uses
  rw [List.length_append] at length
  exact ⟨suffix, length⟩

end Signpost.History
