import Mathlib.Algebra.Group.Nat.Defs
import Signpost.Proofs.Server.Traffic

/-! The numbers of sessions.

Numbers are drawn one after the other, so two sessions have the same one only if the counter has gone all
the way round. Where a session is found under a number, that number is its own. -/

namespace Signpost.Server.Traffic

variable {project : Project} {t after : Traffic} {request other opener number : Nat}

/-! ## Drawing -/

def draws? (entry : Nat × Traffic) : Option Nat :=
  match entry.2.stages entry.1 with
  | .started _ => some entry.1
  | _ => none

/-- Each request has at most one number, the first one that was left. -/
structure Numbered (openers : List Nat) (t : Traffic) : Prop where
  next : t.nextNumber = (1 + openers.length) % 2 ^ 64
  once : openers.Nodup
  drawn : ∀ request number, (t.stages request).number? = some number ↔
    ∃ k, (request, k) ∈ openers.zipIdx ∧ number = (1 + k) % 2 ^ 64

theorem draws?_of_started {location : Location} (stage : t.stages request = .started location) :
    draws? (request, t) = some request := by
  simp only [draws?, stage]

theorem Advances.numbers_of_none (step : t.Advances project request after)
    (idle : draws? (request, t) = none) :
    after.nextNumber = t.nextNumber ∧
      ∀ other, (after.stages other).number? = (t.stages other).number? := by
  have only (next : after.nextNumber = t.nextNumber)
      (same : (after.stages request).number? = (t.stages request).number?) :
      after.nextNumber = t.nextNumber ∧
        ∀ other, (after.stages other).number? = (t.stages other).number? := by
    refine ⟨next, fun other => ?_⟩
    by_cases this : other = request
    · rw [this, same]
    · rw [step.stages_of_ne this]
  cases step with
  | works works =>
    obtain ⟨before, afterwards⟩ := Stage.work_number? works
    refine only rfl ?_
    rw [before]
    exact (congrArg Stage.number? (setStage_self _)).trans afterwards
  | draws stage =>
    rw [draws?_of_started stage] at idle
    cases idle
  | stores stage | misses stage | finds stage =>
    refine only rfl ?_
    rw [setStage_self, stage]
    rfl
  | rests => exact ⟨rfl, fun _ => rfl⟩

namespace Numbered

variable {openers : List Nat} (numbered : Numbered openers t)

include numbered

theorem not_mem_of_none (unnumbered : (t.stages request).number? = none) : request ∉ openers := by
  intro member
  obtain ⟨k, found⟩ := List.mem_iff_getElem?.mp member
  have drawn := (numbered.drawn request _).mpr ⟨k, List.mem_zipIdx_iff_getElem?.mpr found, rfl⟩
  rw [unnumbered] at drawn
  cases drawn

theorem draw {location : Location} (started : t.stages request = .started location) :
    Numbered (openers ++ [request]) ({ t with nextNumber := numberAfter t.nextNumber }.setStage request
      (.numbered location t.nextNumber)) := by
  have new : request ∉ openers := numbered.not_mem_of_none (by rw [started]; rfl)
  refine ⟨?_, ?_, fun other number => ?_⟩
  · change (t.nextNumber + 1) % 2 ^ 64 = _
    rw [numbered.next, List.length_append, List.length_singleton]
    omega
  · exact List.nodup_append.mpr ⟨numbered.once, List.pairwise_singleton _ _, fun a earlier b last => by
      rw [List.mem_singleton.mp last]
      exact fun same => new (same ▸ earlier)⟩
  · have members (k : Nat) : (other, k) ∈ (openers ++ [request]).zipIdx ↔
        (other, k) ∈ openers.zipIdx ∨ other = request ∧ k = openers.length := by
      rw [List.zipIdx_append, List.mem_append, List.zipIdx_singleton, List.mem_singleton,
        Prod.mk.injEq, Nat.zero_add]
    simp only [members]
    by_cases this : other = request
    · subst this
      rw [setStage_self]
      constructor
      · intro drawn
        cases drawn
        exact ⟨openers.length, .inr ⟨rfl, rfl⟩, numbered.next⟩
      · rintro ⟨k, earlier | ⟨-, rfl⟩, rfl⟩
        · exact absurd (List.fst_mem_of_mem_zipIdx earlier) new
        · exact congrArg some numbered.next
    · rw [setStage_of_ne _ this]
      refine (numbered.drawn other number).trans (exists_congr fun k => and_congr_left' ?_)
      exact ⟨.inl, fun found => found.resolve_right fun last => this last.1⟩

theorem step (step : t.Advances project request after) :
    Numbered (openers ++ (draws? (request, t)).toList) after := by
  cases drawing : draws? (request, t) with
  | none =>
    obtain ⟨next, same⟩ := step.numbers_of_none drawing
    rw [Option.toList_none, List.append_nil]
    exact ⟨next.trans numbered.next, numbered.once, fun other number => by
      rw [same other]; exact numbered.drawn other number⟩
  | some drawer =>
    cases started : t.stages request with
    | started location =>
      rw [draws?_of_started started] at drawing
      cases drawing
      rw [step.of_started started]
      exact numbered.draw started
    | _ => simp only [draws?, started] at drawing; cases drawing

end Numbered

variable (files : FileTree) (inquiries : Nat → Inquiry)

/-- A number leads to the session that has drawn it, once it is stored, and so does whatever has been
found. -/
structure Kept (t : Traffic) : Prop where
  table : ∀ number opener, t.table number = some opener →
    ∃ location, t.stages opener = .stored location number
  held : ∀ request opener operation, t.stages request = .holding opener operation →
    ∃ location number, t.stages opener = .stored location number

theorem Advances.of_table (step : t.Advances project request after)
    (found : after.table number = some opener) : t.table number = some opener ∨
      opener = request ∧ ∃ location, t.stages opener = .numbered location number ∧
        after.stages opener = .stored location number := by
  cases step with
  | works | draws | misses | rests => exact .inl found
  | @stores location stored stage =>
    have found : Function.update t.table stored (some request) number = some opener := found
    by_cases this : number = stored
    · subst this
      rw [Function.update_self] at found
      cases found
      exact .inr ⟨rfl, location, stage, setStage_self _⟩
    · rw [Function.update_of_ne this] at found
      exact .inl found
  | @finds sought _ operation _ _ =>
    have found : (if operation.closes then Function.update t.table sought none else t.table) number =
      some opener := found
    split at found
    next =>
      by_cases this : number = sought
      · rw [this, Function.update_self] at found
        cases found
      · rw [Function.update_of_ne this] at found
        exact .inl found
    next => exact .inl found

theorem Advances.holding_iff {operation : Operation} (step : t.Advances project request after) :
    after.stages other = .holding opener operation ↔
      other ≠ request ∧ t.stages other = .holding opener operation ∨
        other = request ∧ ∃ number, t.stages request = .seeking number operation ∧
          t.table number = some opener := by
  by_cases this : other = request
  · subst this
    simp only [ne_eq, not_true_eq_false, false_and, true_and, false_or]
    refine ⟨fun held => ?_, fun ⟨number, seeking, found⟩ => (step.of_found seeking found).1⟩
    cases step with
    | works works =>
      have held : (t.effect project other _).1 = .holding opener operation :=
        (setStage_self _).symm.trans held
      exact absurd held (Stage.work_ne_holding works)
    | draws | stores | misses =>
      rw [setStage_self] at held
      cases held
    | finds seeking found =>
      rw [setStage_self] at held
      cases held
      exact ⟨_, seeking, found⟩
    | rests told =>
      rw [held] at told
      cases told
  · rw [step.stages_of_ne this]
    simp only [this, ne_eq, not_false_eq_true, true_and, false_and, or_false]

theorem kept_arriving : Kept (arriving files inquiries) where
  table _ _ found := by cases found
  held _ _ _ held := absurd held (Stage.ofInquiry_ne_holding _)

theorem Kept.step (kept : t.Kept) (step : t.Advances project request after) : after.Kept where
  table number opener found := by
    rcases step.of_table found with before | ⟨-, location, -, stored⟩
    · obtain ⟨location, stored⟩ := kept.table number opener before
      exact ⟨location, (step.response?_stays (by rw [stored]; rfl)).trans stored⟩
    · exact ⟨location, stored⟩
  held other opener operation held := by
    have stays {number : Nat} {location : Location}
        (stored : t.stages opener = .stored location number) :
        ∃ location number, after.stages opener = .stored location number :=
      ⟨location, number, (step.response?_stays (by rw [stored]; rfl)).trans stored⟩
    rcases step.holding_iff.mp held with ⟨-, before⟩ | ⟨-, number, -, found⟩
    · obtain ⟨location, number, stored⟩ := kept.held other opener operation before
      exact stays stored
    · obtain ⟨location, stored⟩ := kept.table number opener found
      exact stays stored

theorem kept_run (schedule : List Nat) : Kept ((arriving files inquiries).run project schedule) :=
  run_induction (motive := fun _ t => Kept t) (kept_arriving files inquiries)
    (fun _ _ _ _ step kept => kept.step step) schedule

theorem run_append (t : Traffic) (first second : List Nat) :
    t.run project (first ++ second) = (t.run project first).run project second :=
  List.foldl_append

end Signpost.Server.Traffic
