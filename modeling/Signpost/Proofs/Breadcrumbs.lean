import Mathlib.Data.List.Chain
import Signpost.Breadcrumbs

/-! Trails as a map from scopes.

Setting the trail of one scope leaves those of the others alone, so a push and a step back concern
the active scope only. A push makes the location the end of the trail and does so once: a second
push of the same location changes nothing. -/

namespace Signpost.Breadcrumbs

variable {b : Breadcrumbs} {scope other : String} {visited : Trail} {location : Location}

theorem lookup_cons_eq (first : String) (old : Trail) (rest : List (String × Trail)) :
    ((first, old) :: rest).lookup scope =
      if scope = first then some old else rest.lookup scope := by
  by_cases same : scope = first
  · simp [same]
  · have distinct : (scope == first) = false := beq_false_of_ne same
    simp [List.lookup_cons, same, distinct]

theorem lookup_setIn (entries : List (String × Trail)) :
    (setIn entries scope visited).lookup other =
      if other = scope then some visited else entries.lookup other := by
  induction entries with
  | nil => simp only [setIn, lookup_cons_eq]
  | cons entry rest ih =>
    rcases entry with ⟨first, old⟩
    unfold setIn
    by_cases same : first = scope
    · subst first
      by_cases sought : other = scope <;> simp [lookup_cons_eq, sought]
    · by_cases before : scope < first
      · simp only [same, before, ↓reduceIte, lookup_cons_eq]
      · simp only [same, before, ↓reduceIte, lookup_cons_eq, ih]
        by_cases sought : other = first
        · subst first
          simp [same]
        · simp [sought]

theorem mem_setIn {entry : String × Trail} {entries : List (String × Trail)}
    (member : entry ∈ setIn entries scope visited) :
    entry = (scope, visited) ∨ entry ∈ entries := by
  induction entries with
  | nil => simpa [setIn] using member
  | cons first rest ih =>
    unfold setIn at member
    split at member
    · rcases List.mem_cons.mp member with new | old
      · exact .inl new
      · exact .inr (List.mem_cons_of_mem _ old)
    · split at member
      · exact List.mem_cons.mp member
      · rcases List.mem_cons.mp member with here | later
        · exact .inr (here ▸ List.mem_cons_self)
        · exact (ih later).imp_right (List.mem_cons_of_mem _)

@[simp] theorem trail_set_self : (b.set scope visited).trail scope = visited := by
  simp [trail, set, lookup_setIn]

theorem trail_set_of_ne (different : other ≠ scope) :
    (b.set scope visited).trail other = b.trail other := by
  simp [trail, set, lookup_setIn, different]

/-! ## Pushing -/

theorem push_of_tail (here : b.tail? scope = some location) : b.push scope location = (false, b) :=
  if_pos here

theorem push_of_not_tail (away : b.tail? scope ≠ some location) :
    b.push scope location = (true, b.set scope (b.trail scope ++ [location])) :=
  if_neg away

@[simp] theorem tail?_push : (b.push scope location).2.tail? scope = some location := by
  by_cases here : b.tail? scope = some location
  · rw [push_of_tail here]
    exact here
  · rw [push_of_not_tail here, tail?, trail_set_self, List.getLast?_concat]

theorem trail_push_self : (b.push scope location).2.trail scope =
    if b.tail? scope = some location then b.trail scope else b.trail scope ++ [location] := by
  by_cases here : b.tail? scope = some location
  · rw [push_of_tail here, if_pos here]
  · rw [push_of_not_tail here, if_neg here, trail_set_self]

theorem trail_push_of_ne (different : other ≠ scope) :
    (b.push scope location).2.trail other = b.trail other := by
  by_cases here : b.tail? scope = some location
  · rw [push_of_tail here]
  · rw [push_of_not_tail here, trail_set_of_ne different]

@[simp] theorem push_push :
    ((b.push scope location).2.push scope location).2 = (b.push scope location).2 := by
  rw [push_of_tail tail?_push]

/-! ## Stepping back -/

theorem trail_back_self : (b.back scope).2.trail scope = (b.trail scope).dropLast := by
  unfold back
  cases found : b.trails.lookup scope with
  | none => simp [trail, found]
  | some visited => simp [trail, found, set, lookup_setIn]

theorem back_destination : (b.back scope).1 = (b.back scope).2.tail? scope := by
  rw [tail?, trail_back_self]
  unfold back
  cases found : b.trails.lookup scope with
  | none => simp [trail, found]
  | some visited => simp [trail, found]

/-- The trail of a scope is empty unless it is kept. -/
theorem trail_eq_nil_or_mem (b : Breadcrumbs) (scope : String) :
    b.trail scope = [] ∨ (scope, b.trail scope) ∈ b.trails := by
  unfold trail
  cases found : b.trails.lookup scope with
  | none => exact .inl rfl
  | some visited =>
    obtain ⟨before, after, split, _⟩ := List.lookup_eq_some_iff.mp found
    exact .inr (by simp [split])

theorem back_eq (b : Breadcrumbs) (scope : String) :
    (b.back scope).2 = b ∨ (b.back scope).2 = b.set scope (b.trail scope).dropLast := by
  unfold back trail
  cases b.trails.lookup scope with
  | none => exact .inl rfl
  | some visited => exact .inr rfl

/-! ## Trails without repetition -/

/-- No trail visits a location twice in a row. -/
def Apart (b : Breadcrumbs) : Prop := ∀ entry ∈ b.trails, entry.2.IsChain (· ≠ ·)

namespace Apart

theorem trail (apart : b.Apart) (scope : String) : (b.trail scope).IsChain (· ≠ ·) := by
  rcases b.trail_eq_nil_or_mem scope with empty | kept
  · rw [empty]
    exact .nil
  · exact apart _ kept

theorem set (apart : b.Apart) (chain : visited.IsChain (· ≠ ·)) : (b.set scope visited).Apart := by
  intro entry member
  rcases mem_setIn member with new | old
  · rw [new]
    exact chain
  · exact apart entry old

theorem push (apart : b.Apart) : (b.push scope location).2.Apart := by
  by_cases here : b.tail? scope = some location
  · rw [push_of_tail here]
    exact apart
  · rw [push_of_not_tail here]
    refine apart.set (List.isChain_append.mpr ⟨apart.trail scope, .singleton _, ?_⟩)
    intro last isLast first isFirst same
    cases isFirst
    exact here (same ▸ isLast)

theorem back (apart : b.Apart) : (b.back scope).2.Apart := by
  rcases b.back_eq scope with same | shorter
  · rw [same]
    exact apart
  · rw [shorter]
    exact apart.set (apart.trail scope).dropLast

end Apart

/-! ## Trails through places of one kind -/

def Within (b : Breadcrumbs) (kind : Location → Prop) : Prop :=
  ∀ entry ∈ b.trails, ∀ location ∈ entry.2, kind location

namespace Within

variable {kind : Location → Prop}

theorem trail (within : b.Within kind) (scope : String) : ∀ here ∈ b.trail scope, kind here := by
  rcases b.trail_eq_nil_or_mem scope with empty | kept
  · rw [empty]
    nofun
  · exact within _ kept

theorem set (within : b.Within kind) (visits : ∀ here ∈ visited, kind here) :
    (b.set scope visited).Within kind := by
  intro entry member
  rcases mem_setIn member with new | old
  · rw [new]
    exact visits
  · exact within entry old

theorem push (within : b.Within kind) (here : kind location) :
    (b.push scope location).2.Within kind := by
  by_cases tail : b.tail? scope = some location
  · rw [push_of_tail tail]
    exact within
  · rw [push_of_not_tail tail]
    refine within.set fun visit member => ?_
    rcases List.mem_append.mp member with old | new
    · exact within.trail scope visit old
    · rwa [List.mem_singleton.mp new]

theorem back (within : b.Within kind) : (b.back scope).2.Within kind := by
  rcases b.back_eq scope with same | shorter
  · rw [same]
    exact within
  · rw [shorter]
    exact within.set fun visit member => within.trail scope visit (List.dropLast_subset _ member)

/-- A step back leads to a place of an old trail. -/
theorem destination (within : b.Within kind) (found : (b.back scope).1 = some location) :
    kind location := by
  rw [back_destination] at found
  exact within.back.trail scope location (List.mem_of_getLast? found)

end Within

/-! ## Scopes in order -/

/-- The scopes are in order, so none is kept twice. -/
def Ordered (b : Breadcrumbs) : Prop := b.trails.Pairwise fun entry later => entry.1 < later.1

theorem ordered_setIn {entries : List (String × Trail)}
    (ordered : entries.Pairwise fun entry later => entry.1 < later.1) :
    (setIn entries scope visited).Pairwise fun entry later => entry.1 < later.1 := by
  induction entries with
  | nil => exact List.pairwise_singleton _ _
  | cons first rest ih =>
    obtain ⟨name, old⟩ := first
    obtain ⟨least, ordered⟩ := List.pairwise_cons.mp ordered
    unfold setIn
    split
    next same =>
      subst same
      exact List.pairwise_cons.mpr ⟨least, ordered⟩
    next different =>
      split
      next before =>
        refine List.pairwise_cons.mpr
          ⟨fun entry member => ?_, List.pairwise_cons.mpr ⟨least, ordered⟩⟩
        rcases List.mem_cons.mp member with rfl | later
        · exact before
        · exact String.lt_trans before (least entry later)
      next behind =>
        refine List.pairwise_cons.mpr ⟨fun entry member => ?_, ih ordered⟩
        rcases mem_setIn member with rfl | later
        · exact String.not_le.mp fun above =>
            different (String.le_antisymm (String.not_lt.mp behind) above)
        · exact least entry later

theorem setIn_of_greatest {entries : List (String × Trail)}
    (greatest : ∀ entry ∈ entries, entry.1 < scope) :
    setIn entries scope visited = entries ++ [(scope, visited)] := by
  induction entries with
  | nil => rfl
  | cons first rest ih =>
    obtain ⟨name, old⟩ := first
    have before : name < scope := greatest _ List.mem_cons_self
    have different : name ≠ scope := fun same => String.lt_irrefl _ (same ▸ before)
    rw [setIn, if_neg different, if_neg (String.lt_asymm before),
      ih fun entry later => greatest entry (List.mem_cons_of_mem _ later), List.cons_append]

namespace Ordered

theorem set (ordered : b.Ordered) : (b.set scope visited).Ordered := ordered_setIn ordered

theorem push (ordered : b.Ordered) : (b.push scope location).2.Ordered := by
  by_cases here : b.tail? scope = some location
  · rw [push_of_tail here]
    exact ordered
  · rw [push_of_not_tail here]
    exact ordered.set

theorem back (ordered : b.Ordered) : (b.back scope).2.Ordered := by
  rcases b.back_eq scope with same | shorter
  · rw [same]
    exact ordered
  · rw [shorter]
    exact ordered.set

end Ordered

end Signpost.Breadcrumbs
