import Signpost.Proofs.Check
import Signpost.Proofs.Navigator.Refusal

/-! Records with several action keys.

No rule says which of the actions is meant, so such a record is refused before anything is asked for,
and the check reports it. The auto-menu mark makes an exception: if one of the keys is that of a menu,
the menu is opened as if the other actions were not written, and the check sees nothing but the
menu. -/

namespace Signpost

variable {record : Fields} {key : String}

namespace Check

theorem entryMessages_ambiguous (doc : Document) (ambiguous : Command.Ambiguous record)
    (refused : ¬MenuSpec.Overrides key record) : entryMessages doc key (.obj record) =
      [(CommandError.ambiguous (Fields.names (Command.actions record))).message] := by
  have marked : (if (Key.read key).2.autoMenu then MenuSpec.ofMarked? (.obj record) else none) = none :=
    MenuSpec.marked?_of_ambiguous ambiguous refused
  unfold entryMessages
  rw [marked]
  exact commandMessages_of_error (Command.classify_ambiguous ambiguous)

theorem entryMessages_overridden (doc : Document) (overrides : MenuSpec.Overrides key record) :
    entryMessages doc key (.obj record) = menuMessages (.ofRecord record) := by
  have marked : (if (Key.read key).2.autoMenu then MenuSpec.ofMarked? (.obj record) else none) =
      some (.ofRecord record) := MenuSpec.marked?_of_overrides overrides
  unfold entryMessages
  rw [marked]

end Check

namespace Navigator

open Act

variable {World : Type} (n : Navigator World) {course : Course World} {value : Value}

theorem commandOf_ambiguous (mode : Mode) (ambiguous : Command.Ambiguous record)
    (refused : ¬MenuSpec.Overrides key record) :
    commandOf (FollowUp.ofKey mode key).2 (.obj record) =
      .error (.ambiguous (Fields.names (Command.actions record))) := by
  have marked : (if (FollowUp.ofKey mode key).2.autoMenu then MenuSpec.ofMarked? (.obj record)
      else none) = none := MenuSpec.marked?_of_ambiguous ambiguous refused
  unfold commandOf
  rw [marked]
  exact Command.classify_ambiguous ambiguous

theorem commandOf_overridden (mode : Mode) (overrides : MenuSpec.Overrides key record) :
    commandOf (FollowUp.ofKey mode key).2 (.obj record) = .ok (.menu (.ofRecord record)) := by
  have marked : (if (FollowUp.ofKey mode key).2.autoMenu then MenuSpec.ofMarked? (.obj record)
      else none) = some (.ofRecord record) := MenuSpec.marked?_of_overrides overrides
  unfold commandOf
  rw [marked]

/-- What cannot be read is refused before anything else is done. -/
theorem dispatch_misread {error : CommandError} (deep : 0 < n.patience.depth)
    (misread : commandOf (FollowUp.ofKey course.session.mode key).2 value = .error error) :
    n.dispatch key value course =
      (.error (.refused (.configuration (Key.read key).1 error.message)), course) := by
  unfold dispatch
  cases depth : n.patience.depth with
  | zero =>
    rw [depth] at deep
    cases deep
  | succ depth =>
    refine (bind_ok session_run).trans ?_
    simp only [FollowUp.ofKey] at misread ⊢
    simp only [misread]
    rfl

theorem dispatch_congr {value' : Value} (same : ∀ mode,
    commandOf (FollowUp.ofKey mode key).2 value = commandOf (FollowUp.ofKey mode key).2 value') :
    n.dispatch key value = n.dispatch key value' := by
  unfold dispatch
  cases n.patience.depth with
  | zero => rfl
  | succ depth =>
    refine congrArg (Act.session >>= ·) (funext fun s => ?_)
    have same := same s.mode
    simp only [FollowUp.ofKey] at same ⊢
    rw [same]

/-- A record with several action keys is refused, with nothing asked for and nothing changed, and the
check reports it in every document that has it; except that under the auto-menu mark a record with a
menu is dispatched and checked as if nothing but the menu were written. -/
theorem dispatch_ambiguous (ambiguous : Command.Ambiguous record) (deep : 0 < n.patience.depth)
    (key : String) (course : Course World) (doc : Document) :
    (¬MenuSpec.Overrides key record →
      n.dispatch key (.obj record) course = (.error (.refused (.configuration (Key.read key).1
        (CommandError.ambiguous (Fields.names (Command.actions record))).message)), course) ∧
      ∀ block entries, (block, entries) ∈ doc.blocks → (key, .obj record) ∈ entries →
        ∃ problem ∈ Check.problems doc, problem.block = block ∧ problem.key = key) ∧
    (MenuSpec.Overrides key record →
      n.dispatch key (.obj record) course =
        n.dispatch key (.obj (MenuSpec.menuFields record)) course ∧
      Check.entryMessages doc key (.obj record) = Check.menuMessages (.ofRecord record)) := by
  constructor
  · intro refused
    refine ⟨n.dispatch_misread deep (commandOf_ambiguous _ ambiguous refused), ?_⟩
    intro block entries present member
    have told := Check.entryMessages_ambiguous doc ambiguous refused
    exact ⟨_, Check.mem_problems present member (told ▸ List.mem_singleton_self _), rfl, rfl⟩
  · intro overrides
    have pruned : MenuSpec.Overrides key (MenuSpec.menuFields record) :=
      ⟨overrides.1, MenuSpec.has_menuFields.trans overrides.2⟩
    refine ⟨congrFun (n.dispatch_congr fun mode => ?_) course, Check.entryMessages_overridden doc overrides⟩
    rw [commandOf_overridden mode overrides, commandOf_overridden mode pruned,
      MenuSpec.ofRecord_menuFields]

namespace Sample

def twofold : Fields := [("menu", .arr [.str "note"]), ("function", .str "note")]

theorem twofold_ambiguous : Command.Ambiguous twofold :=
  ⟨"menu", "function", by decide, by decide, by decide⟩

theorem twofold_overrides : MenuSpec.Overrides "~pick*" twofold := ⟨by decide, by decide⟩

/-- Other marks do not help. -/
theorem dispatch_ambiguous_twofold :
    navigator.dispatch "^pick!" (.obj twofold) busy = (.error (.refused (.configuration "pick"
        "record has several action keys: menu, function")), busy) ∧
      navigator.dispatch "~pick*" (.obj twofold) busy =
        navigator.dispatch "~pick*" (.obj [("menu", .arr [.str "note"])]) busy := by
  have unmarked : ¬MenuSpec.Overrides "^pick!" twofold := fun overrides =>
    absurd overrides.1 (by decide)
  have bare : (Key.read "^pick!").1 = "pick" := by decide
  have told : (CommandError.ambiguous (Fields.names (Command.actions twofold))).message =
      "record has several action keys: menu, function" := by decide
  have refused := ((navigator.dispatch_ambiguous twofold_ambiguous (by decide) "^pick!" busy
    document).1 unmarked).1
  rw [bare, told] at refused
  exact ⟨refused, ((navigator.dispatch_ambiguous twofold_ambiguous (by decide) "~pick*" busy
    document).2 twofold_overrides).1⟩

/-- The dispatch goes through, and the check has nothing to say. -/
theorem twofold_unnoticed :
    Command.Ambiguous twofold ∧
      (∃ outcome after, navigator.dispatch "pick*" (.obj twofold) (visit .nonBlocking [] []) =
        (.ok outcome, after)) ∧
      Check.problems ⟨"/app", [("main", [("pick*", .obj twofold)])]⟩ = [] := by
  have went : (navigator.dispatch "pick*" (.obj twofold) (visit .nonBlocking [] [])).1.isOk = true := by
    decide +kernel
  obtain ⟨outcome, ran⟩ := run_of_isOk went
  exact ⟨twofold_ambiguous, ⟨outcome, _, ran⟩, by decide +kernel⟩

end Sample

end Navigator

end Signpost
