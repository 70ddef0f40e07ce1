import Mathlib.Data.List.Basic
import Signpost.Key

/-! Taking marks off a key.

Nothing of a key is lost when it is read: the marks around the bare key give the key back. A key is its
own bare key exactly if no mark counts, and then it has none at either end or is too short for one. So
marks that are put on a bare key are the ones that are read, unless the bare key has one of its own at an
end that is left unmarked. -/

namespace Signpost

theorem Leading.ofMark?_eq_none_iff {c : Char} : ofMark? c = none ↔ c ≠ '^' ∧ c ≠ '~' := by
  unfold ofMark?
  by_cases first : c = '^'
  · simp [first]
  · by_cases second : c = '~' <;> simp [first, second]

theorem Leading.mark_of_ofMark? {c : Char} {leading : Leading} (read : ofMark? c = some leading) :
    leading.mark = c := by
  unfold ofMark? at read
  split at read
  next first =>
    cases read
    exact first.symm
  next =>
    split at read
    next second =>
      cases read
      exact second.symm
    next => cases read

@[simp]
theorem Leading.ofMark?_mark (leading : Leading) : ofMark? leading.mark = some leading := by
  cases leading <;> rfl

theorem Trailing.ofMark?_eq_none_iff {c : Char} : ofMark? c = none ↔ c ≠ '*' ∧ c ≠ '!' := by
  unfold ofMark?
  by_cases first : c = '*'
  · simp [first]
  · by_cases second : c = '!' <;> simp [first, second]

theorem Trailing.mark_of_ofMark? {c : Char} {trailing : Trailing} (read : ofMark? c = some trailing) :
    trailing.mark = c := by
  unfold ofMark? at read
  split at read
  next first =>
    cases read
    exact first.symm
  next =>
    split at read
    next second =>
      cases read
      exact second.symm
    next => cases read

@[simp]
theorem Trailing.ofMark?_mark (trailing : Trailing) : ofMark? trailing.mark = some trailing := by
  cases trailing <;> rfl

namespace Key

variable {cs : List Char} {key : String}

/-! ## One mark -/

theorem takeLeading_cons {rest : List Char} (more : rest ≠ []) (c : Char) :
    takeLeading (c :: rest) =
      match Leading.ofMark? c with
      | some leading => (some leading, rest)
      | none => (none, c :: rest) := by
  obtain ⟨next, rest, rfl⟩ := List.exists_cons_of_ne_nil more
  rfl

theorem takeTrailing_concat {before : List Char} (more : before ≠ []) (c : Char) :
    takeTrailing (before ++ [c]) =
      match Trailing.ofMark? c with
      | some trailing => (before, some trailing)
      | none => (before ++ [c], none) := by
  induction before with
  | nil => exact absurd rfl more
  | cons first before ih =>
    cases before with
    | nil => rfl
    | cons next before =>
      obtain ⟨second, rest, split⟩ := List.exists_cons_of_ne_nil
        (show before ++ [c] ≠ [] by simp)
      have step : takeTrailing (first :: next :: second :: rest) =
          (first :: (takeTrailing (next :: second :: rest)).1,
            (takeTrailing (next :: second :: rest)).2) := rfl
      have inside := ih (List.cons_ne_nil next before)
      simp only [List.cons_append, split] at inside ⊢
      rw [step, inside]
      cases Trailing.ofMark? c <;> rfl

theorem takeLeading_append (cs : List Char) :
    ((takeLeading cs).1.map Leading.mark).toList ++ (takeLeading cs).2 = cs := by
  rcases cs with _ | ⟨c, _ | ⟨next, rest⟩⟩
  · rfl
  · rfl
  · rw [takeLeading_cons (List.cons_ne_nil next rest)]
    cases read : Leading.ofMark? c with
    | some leading => simp [Leading.mark_of_ofMark? read]
    | none => rfl

theorem append_takeTrailing (cs : List Char) :
    (takeTrailing cs).1 ++ ((takeTrailing cs).2.map Trailing.mark).toList = cs := by
  rcases List.eq_nil_or_concat' cs with rfl | ⟨before, c, rfl⟩
  · rfl
  · by_cases more : before = []
    · subst more
      rfl
    · rw [takeTrailing_concat more]
      cases read : Trailing.ofMark? c with
      | some trailing => simp [Trailing.mark_of_ofMark? read]
      | none => simp

theorem takeLeading_eq_none_iff : (takeLeading cs).1 = none ↔
    cs.length ≤ 1 ∨ cs.head? ≠ some '^' ∧ cs.head? ≠ some '~' := by
  rcases cs with _ | ⟨c, _ | ⟨next, rest⟩⟩
  · simp [takeLeading]
  · simp [takeLeading]
  · have first : (c :: next :: rest).head? ≠ some '^' ∧ (c :: next :: rest).head? ≠ some '~' ↔
        Leading.ofMark? c = none := by
      simp [Leading.ofMark?_eq_none_iff]
    rw [first, takeLeading_cons (List.cons_ne_nil next rest)]
    cases Leading.ofMark? c <;> simp

theorem takeTrailing_eq_none_iff : (takeTrailing cs).2 = none ↔
    cs.length ≤ 1 ∨ cs.getLast? ≠ some '*' ∧ cs.getLast? ≠ some '!' := by
  rcases List.eq_nil_or_concat' cs with rfl | ⟨before, c, rfl⟩
  · simp [takeTrailing]
  · by_cases more : before = []
    · simp [more, takeTrailing]
    · have last : (before ++ [c]).getLast? ≠ some '*' ∧ (before ++ [c]).getLast? ≠ some '!' ↔
          Trailing.ofMark? c = none := by
        simp [Trailing.ofMark?_eq_none_iff]
      rw [last, takeTrailing_concat more]
      cases Trailing.ofMark? c <;> simp [more]

theorem takeLeading_ne_nil (more : cs ≠ []) : (takeLeading cs).2 ≠ [] := by
  rcases cs with _ | ⟨c, _ | ⟨next, rest⟩⟩
  · exact absurd rfl more
  · exact more
  · rw [takeLeading_cons (List.cons_ne_nil next rest)]
    cases Leading.ofMark? c <;> exact List.cons_ne_nil _ _

theorem takeTrailing_ne_nil (more : cs ≠ []) : (takeTrailing cs).1 ≠ [] := by
  rcases List.eq_nil_or_concat' cs with rfl | ⟨before, c, rfl⟩
  · exact absurd rfl more
  · by_cases shown : before = []
    · subst shown
      exact more
    · rw [takeTrailing_concat shown]
      cases Trailing.ofMark? c
      · exact more
      · exact shown

/-- A leading mark that is put on is taken off again; where none is put on, what is there must have none
that counts. -/
theorem takeLeading_mark_iff {rest : List Char} (more : rest ≠ []) (leading : Option Leading) :
    takeLeading ((leading.map Leading.mark).toList ++ rest) = (leading, rest) ↔
      leading ≠ none ∨ (takeLeading rest).1 = none := by
  cases leading with
  | some mark => simp [takeLeading_cons more]
  | none =>
    have whole := takeLeading_append rest
    constructor
    · intro same
      exact .inr (congrArg Prod.fst same)
    · rintro (given | unled)
      · exact absurd rfl given
      · rw [unled] at whole
        exact Prod.ext unled whole

theorem takeTrailing_mark_iff {before : List Char} (more : before ≠ [])
    (trailing : Option Trailing) :
    takeTrailing (before ++ (trailing.map Trailing.mark).toList) = (before, trailing) ↔
      trailing ≠ none ∨ (takeTrailing before).2 = none := by
  cases trailing with
  | some mark => simp [takeTrailing_concat more]
  | none =>
    have whole := append_takeTrailing before
    rw [Option.map_none, Option.toList_none, List.append_nil]
    constructor
    · intro same
      exact .inr (congrArg Prod.snd same)
    · rintro (given | untrailed)
      · exact absurd rfl given
      · rw [untrailed, Option.map_none, Option.toList_none, List.append_nil] at whole
        exact Prod.ext whole untrailed

/-! ## Both marks -/

/-- The marks around the bare key give the key back. -/
theorem decorateChars_readChars (cs : List Char) :
    (readChars cs).2.decorateChars (readChars cs).1 = cs := by
  have inside := append_takeTrailing (takeLeading cs).2
  have whole := takeLeading_append cs
  simp only [readChars, Decorations.decorateChars]
  rw [List.append_assoc, inside, whole]

/-- The bare key and its marks come back exactly if each end is marked or has no mark that counts. -/
theorem readChars_decorateChars_iff {bare : List Char} (more : bare ≠ []) (d : Decorations) :
    readChars (d.decorateChars bare) = (bare, d) ↔
      (d.leading ≠ none ∨
        (takeLeading (bare ++ (d.trailing.map Trailing.mark).toList)).1 = none) ∧
      (d.trailing ≠ none ∨ (takeTrailing bare).2 = none) := by
  obtain ⟨leading, trailing⟩ := d
  have longer : bare ++ (trailing.map Trailing.mark).toList ≠ [] := by simp [more]
  rw [← takeLeading_mark_iff longer, ← takeTrailing_mark_iff more]
  simp only [readChars, Decorations.decorateChars, List.append_assoc, Prod.mk.injEq,
    Decorations.mk.injEq]
  have whole := takeLeading_append
    ((leading.map Leading.mark).toList ++ (bare ++ (trailing.map Trailing.mark).toList))
  constructor
  · rintro ⟨left, led, trailed⟩
    rw [led] at whole
    have rest := List.append_cancel_left whole
    rw [rest] at left trailed
    exact ⟨Prod.ext led rest, Prod.ext left trailed⟩
  · rintro ⟨led, trailed⟩
    rw [led, trailed]
    exact ⟨rfl, rfl, rfl⟩

/-- No mark counts: the key is too short for one, or has none at either end. -/
def Unmarked (key : String) : Prop :=
  key.toList.length ≤ 1 ∨ (key.toList.head? ≠ some '^' ∧ key.toList.head? ≠ some '~') ∧
    key.toList.getLast? ≠ some '*' ∧ key.toList.getLast? ≠ some '!'

instance : DecidablePred Unmarked := fun key =>
  inferInstanceAs (Decidable (key.toList.length ≤ 1 ∨
    (key.toList.head? ≠ some '^' ∧ key.toList.head? ≠ some '~') ∧
      key.toList.getLast? ≠ some '*' ∧ key.toList.getLast? ≠ some '!'))

theorem readChars_eq_self_iff : (readChars cs).1 = cs ↔ (readChars cs).2 = {} := by
  have whole := decorateChars_readChars cs
  generalize readChars cs = found at whole ⊢
  obtain ⟨bare, leading, trailing⟩ := found
  dsimp only [Decorations.decorateChars] at whole ⊢
  have lengths := congrArg List.length whole
  simp only [List.length_append] at lengths
  constructor
  · rintro rfl
    have none : (leading.map Leading.mark).toList.length = 0 ∧
        (trailing.map Trailing.mark).toList.length = 0 := by omega
    simpa using none
  · intro none
    cases none
    simpa using whole

/-- A key is its own bare key exactly if no mark of it counts. -/
theorem bare_eq_self_iff : bare key = key ↔ Unmarked key := by
  have chars : bare key = key ↔ (readChars key.toList).1 = key.toList := by
    rw [← String.toList_inj]
    simp [bare, read]
  have marks : (readChars key.toList).2 = {} ↔
      (takeLeading key.toList).1 = none ∧ (takeTrailing (takeLeading key.toList).2).2 = none := by
    simp [readChars]
  rw [chars, readChars_eq_self_iff, marks, Unmarked, or_and_left, ← takeLeading_eq_none_iff,
    ← takeTrailing_eq_none_iff]
  apply and_congr_right
  intro unled
  have whole := takeLeading_append key.toList
  rw [unled] at whole
  rw [show (takeLeading key.toList).2 = key.toList from whole]

/-! ## Keys as texts -/

theorem decorate_read (key : String) : (read key).2.decorate (read key).1 = key := by
  rw [Decorations.decorate, ← String.toList_inj]
  simpa [read] using decorateChars_readChars key.toList

/-- Reading a key and putting marks on it are inverse to each other wherever the bare key cannot be
taken for a marked one: each end of it has a mark put on, has none of its own, or is too short for one. -/
theorem read_inverts_decorate :
    (∀ key : String, (read key).2.decorate (read key).1 = key ∧ (key ≠ "" → (read key).1 ≠ "")) ∧
    ∀ (d : Decorations) (bare : String), bare ≠ "" →
      (read (d.decorate bare) = (bare, d) ↔
        (d.leading ≠ none ∨ (bare.toList.head? ≠ some '^' ∧ bare.toList.head? ≠ some '~') ∨
          (d.decorate bare).length = 1) ∧
        (d.trailing ≠ none ∨ (bare.toList.getLast? ≠ some '*' ∧ bare.toList.getLast? ≠ some '!') ∨
          bare.length = 1)) := by
  refine ⟨fun key => ⟨decorate_read key, fun shown => ?_⟩, fun d bare shown => ?_⟩
  · have more : key.toList ≠ [] := by simpa using shown
    have left := takeTrailing_ne_nil (takeLeading_ne_nil more)
    simpa [read, readChars] using left
  · have more : bare.toList ≠ [] := by simpa using shown
    have texts : read (d.decorate bare) = (bare, d) ↔
        readChars (d.decorateChars bare.toList) = (bare.toList, d) := by
      simp [read, Decorations.decorate, Prod.ext_iff, ← String.toList_inj]
    have first : (bare.toList ++ (d.trailing.map Trailing.mark).toList).head? =
        bare.toList.head? := List.head?_append_of_ne_nil _ more
    have single : bare.toList.length ≤ 1 ↔ bare.length = 1 := by
      have positive := List.length_pos_of_ne_nil more
      rw [String.length_toList] at positive ⊢
      omega
    rw [texts, readChars_decorateChars_iff more, takeLeading_eq_none_iff, takeTrailing_eq_none_iff,
      first, single, or_comm (a := bare.length = 1)]
    refine and_congr_left fun _ => ?_
    cases led : d.leading with
    | some leading => simp
    | none =>
      -- Without a leading mark the decorated key is what the leading mark is looked for in.
      have whole : (d.decorate bare).length =
          (bare.toList ++ (d.trailing.map Trailing.mark).toList).length := by
        simp [Decorations.decorate, Decorations.decorateChars, led, String.length_toList]
      have positive : 0 < (bare.toList ++ (d.trailing.map Trailing.mark).toList).length :=
        List.length_pos_of_ne_nil (by simp [more])
      have single : (bare.toList ++ (d.trailing.map Trailing.mark).toList).length ≤ 1 ↔
          (d.decorate bare).length = 1 := by omega
      rw [single, or_comm (a := (d.decorate bare).length = 1)]

/-- A bare key that looks marked comes back where nothing else is left of it, and is misread as soon as
it is marked at its other end. -/
theorem read_inverts_decorate_lone :
    "^" ≠ "" ∧ read (Decorations.decorate {} "^") = ("^", {}) ∧
      read (Decorations.decorate ⟨none, some .required⟩ "^") ≠ ("^", ⟨none, some .required⟩) ∧
      "^*" ≠ "" ∧
      read (Decorations.decorate ⟨some .anchor, some .required⟩ "^*") =
        ("^*", ⟨some .anchor, some .required⟩) := by
  refine ⟨by decide, (read_inverts_decorate.2 {} "^" (by decide)).mpr ?_,
    (read_inverts_decorate.2 ⟨none, some .required⟩ "^" (by decide)).not.mpr ?_, by decide,
    (read_inverts_decorate.2 ⟨some .anchor, some .required⟩ "^*" (by decide)).mpr ?_⟩
  all_goals decide

end Key

end Signpost
