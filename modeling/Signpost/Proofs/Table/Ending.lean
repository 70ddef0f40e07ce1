import Signpost.Proofs.Files.Directory
import Signpost.Table

/-! How a request on a table ends.

A request is refused before any file is touched, or the rows are read, and then they are written back
if the action changes them. Each way to end is named once, and what is proved about requests is proved
by cases on it. -/

namespace Signpost.Table

open Signpost.Path (IsPlain)

variable {directory table path : String} {tree : FileTree} {action : Action}

/-! ## Names -/

theorem isPlain_of_validName (valid : validName table = true) : IsPlain (table ++ ".json") := by
  obtain ⟨written, each⟩ := Bool.and_eq_true_iff.mp valid
  have more : 0 < table.length := by
    refine Nat.pos_of_ne_zero fun empty => ?_
    simp [String.length_eq_zero_iff.mp empty] at written
  have ending : ".json".length = 5 := rfl
  refine ⟨Path.isName_of_length ?_, ?_⟩
  · rw [String.length_append]
    omega
  · rw [String.toList_append, List.mem_append, not_or]
    refine ⟨fun member => ?_, by decide⟩
    exact absurd (List.all_eq_true.mp each '/' member) (by decide)

theorem of_path? (found : path? directory table = some path) :
    validName table = true ∧ path = Path.join directory (table ++ ".json") := by
  unfold path? at found
  split at found
  next valid => exact ⟨valid, (Option.some.inj found).symm⟩
  next => cases found

theorem file_ne {other : String} (different : other ≠ table) : other ++ ".json" ≠ table ++ ".json" :=
  (String.append_left_inj ".json").not.mpr different

theorem file_ne_temporary (other table : String) :
    other ++ ".json" ≠ table ++ ".json" ++ ".tmp" := by
  intro same
  have ends := congrArg (fun text => text.toList.getLast?) same
  simp at ends

theorem readRows_congr {after : FileTree} (same : tree.lookup? path = after.lookup? path) :
    readRows tree path = readRows after path := by
  simp only [readRows, FileTree.has, FileTree.readText, same]
  rfl

theorem fault_of_readRows {fault : FileFault} (lost : readRows tree path = .error (.file fault)) :
    ∃ error, fault = .read path error := by
  unfold readRows at lost
  split at lost
  next => cases lost
  next =>
    split at lost
    next error _ =>
      cases lost
      exact ⟨error, rfl⟩
    next => split at lost <;> cases lost

/-! ## Runs -/

/-- The ways in which an action on a table ends: the answer, and the tree that is left. -/
inductive Ending (directory table : String) (action : Action) (tree : FileTree) :
    Except Error Reply × FileTree → Prop
  | invalid (none : path? directory table = none) :
      Ending directory table action tree (.error (.invalidName table), tree)
  | unreadable {path : String} {error : Error} (found : path? directory table = some path)
      (lost : readRows tree path = .error error) :
      Ending directory table action tree (.error error, tree)
  | overflowed {path : String} {rows : List Value} (found : path? directory table = some path)
      (read : readRows tree path = .ok rows) (none : action.effect? table rows = none) :
      Ending directory table action tree (.error .overflow, tree)
  | looked {path : String} {rows : List Value} {reply : Reply}
      (found : path? directory table = some path) (read : readRows tree path = .ok rows)
      (same : action.effect? table rows = some ⟨reply, none⟩) :
      Ending directory table action tree (.ok reply, tree)
  | wrote {path : String} {rows changed : List Value} {reply : Reply} {after : FileTree}
      (found : path? directory table = some path) (read : readRows tree path = .ok rows)
      (changes : action.effect? table rows = some ⟨reply, some changed⟩)
      (stored : tree.writeAtomic path (text changed) = (none, after)) :
      Ending directory table action tree (.ok reply, after)
  | faulted {path : String} {rows changed : List Value} {reply : Reply} {fault : FileFault}
      {after : FileTree} (found : path? directory table = some path)
      (read : readRows tree path = .ok rows)
      (changes : action.effect? table rows = some ⟨reply, some changed⟩)
      (lost : tree.writeAtomic path (text changed) = (some fault, after)) :
      Ending directory table action tree (.error (.file fault), after)

theorem run_ends (tree : FileTree) (directory table : String) (action : Action) :
    Ending directory table action tree (run tree directory table action) := by
  unfold run
  split
  next none => exact .invalid none
  next path found =>
    split
    next error lost => exact .unreadable found lost
    next rows read =>
      split
      next none => exact .overflowed found read none
      next reply same => exact .looked found read same
      next reply changed changes =>
        split
        next fault after lost => exact .faulted found read changes lost
        next after stored => exact .wrote found read changes stored

end Signpost.Table
