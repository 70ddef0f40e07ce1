import Signpost.Proofs.Server.Numbers

/-! Who works on a session.

A request that has looked a session up has its turn with it in a later step, and only one. Nobody else
has one, but for the request that opens the session before it can be looked up. -/

namespace Signpost.Server.Traffic

variable {project : Project} {t after : Traffic} {request opener : Nat} {operation : Operation}

def visit? (opener : Nat) (entry : Nat × Traffic) : Option (Nat × Operation) :=
  match entry.2.stages entry.1 with
  | .seeking number operation =>
      if entry.2.table number = some opener then some (entry.1, operation) else none
  | _ => none

def turn? (opener : Nat) (entry : Nat × Traffic) : Option (Nat × Operation) :=
  match entry.2.stages entry.1 with
  | .holding holder operation => if holder = opener then some (entry.1, operation) else none
  | _ => none

def visits (opener : Nat) (entries : List (Nat × Traffic)) : List (Nat × Operation) :=
  entries.filterMap (visit? opener)

def turns (opener : Nat) (entries : List (Nat × Traffic)) : List (Nat × Operation) :=
  entries.filterMap (turn? opener)

theorem visit?_eq_some_iff {entry : Nat × Operation} :
    visit? opener (request, t) = some entry ↔
      entry.1 = request ∧ ∃ number, t.stages request = .seeking number entry.2 ∧
        t.table number = some opener := by
  obtain ⟨visitor, operation⟩ := entry
  unfold visit?
  cases stage : t.stages request with
  | seeking number sought =>
    simp only [Stage.seeking.injEq]
    split
    next found => grind
    next missing => grind
  | _ => simp

theorem turn?_eq_some_iff {entry : Nat × Operation} :
    turn? opener (request, t) = some entry ↔
      entry.1 = request ∧ t.stages request = .holding opener entry.2 := by
  obtain ⟨visitor, operation⟩ := entry
  unfold turn?
  cases stage : t.stages request with
  | holding holder sought =>
    simp only [Stage.holding.injEq]
    grind
  | _ => simp

theorem turns_concat (opener : Nat) (entries : List (Nat × Traffic)) (entry : Nat × Traffic) :
    turns opener (entries ++ [entry]) = turns opener entries ++ (turn? opener entry).toList :=
  filterMap_concat ..

/-- Everyone who has looked a session up either waits for the session or has had a turn with it, and
nobody has had two. -/
structure Queued (opener : Nat) (entries : List (Nat × Traffic)) (t : Traffic) : Prop where
  visited : ∀ entry, entry ∈ visits opener entries ↔
    t.stages entry.1 = .holding opener entry.2 ∨ entry ∈ turns opener entries
  answered : ∀ entry ∈ turns opener entries, ∃ response, t.stages entry.1 = .answered response
  once : ((turns opener entries).map Prod.fst).Nodup

theorem Queued.step {entries : List (Nat × Traffic)} (queued : Queued opener entries t)
    (step : t.Advances project request after) : Queued opener (entries ++ [(request, t)]) after := by
  have visitors (entry : Nat × Operation) : entry ∈ visits opener (entries ++ [(request, t)]) ↔
      entry ∈ visits opener entries ∨ visit? opener (request, t) = some entry := by
    rw [visits, filterMap_concat, List.mem_append, Option.mem_toList, visits]
  have workers (entry : Nat × Operation) : entry ∈ turns opener (entries ++ [(request, t)]) ↔
      entry ∈ turns opener entries ∨ turn? opener (request, t) = some entry := by
    rw [turns_concat, List.mem_append, Option.mem_toList]
  refine ⟨fun entry => ?_, fun entry member => ?_, ?_⟩
  · rw [visitors, workers, queued.visited, step.holding_iff, visit?_eq_some_iff, turn?_eq_some_iff]
    -- only the request that takes the step can come to hold a session or cease to
    by_cases this : entry.1 = request
    · rw [this]
      grind
    · grind
  · rcases (workers entry).mp member with earlier | now
    · obtain ⟨response, told⟩ := queued.answered entry earlier
      exact ⟨response, (step.response?_stays (by rw [told]; rfl)).trans told⟩
    · obtain ⟨this, held⟩ := turn?_eq_some_iff.mp now
      rw [this]
      exact ⟨_, (step.of_holding held).1⟩
  · rw [turns_concat, List.map_append]
    cases now : turn? opener (request, t) with
    | none =>
      rw [Option.toList_none, List.map_nil, List.append_nil]
      exact queued.once
    | some entry =>
      obtain ⟨this, held⟩ := turn?_eq_some_iff.mp now
      refine List.nodup_append.mpr ⟨queued.once, List.pairwise_singleton _ _, ?_⟩
      intro earlier member later last same
      obtain ⟨before, turned, rfl⟩ := List.mem_map.mp member
      obtain ⟨response, told⟩ := queued.answered before turned
      rw [same, List.mem_singleton.mp last, this, held] at told
      cases told

theorem Queued.answers_stay {entries : List (Nat × Traffic)} (queued : Queued opener entries t)
    (step : t.Advances project request after) :
    (turns opener entries).map (fun turn => after.stages turn.1) =
      (turns opener entries).map fun turn => t.stages turn.1 := by
  refine List.map_congr_left fun turn member => ?_
  obtain ⟨response, told⟩ := queued.answered turn member
  exact step.response?_stays (by rw [told]; rfl)

end Signpost.Server.Traffic
