import Mathlib.Data.List.DropRight
import Signpost.Text.Basic

/-! Cutting texts at separators and joining them again.

Nothing is lost, and what stands between two cuts holds no separator. A separator that is not blank
stays where it is when blanks are trimmed around the text. -/

namespace Signpost.Text

variable {separator : Char} {cs before after : List Char}

theorem cutLast_eq_none_iff : cutLast separator cs = none ↔ separator ∉ cs := by
  induction cs with
  | nil => simp [cutLast]
  | cons c rest ih =>
    unfold cutLast
    cases cut : cutLast separator rest with
    | some parts =>
      have present : separator ∈ rest := by
        rw [cut] at ih
        simpa using ih
      simp [present]
    | none =>
      have absent := ih.mp cut
      by_cases same : c = separator
      · simp [same]
      · simp [same, absent, Ne.symm same]

theorem cutLast_append (absent : separator ∉ after) :
    cutLast separator (before ++ separator :: after) = some (before, after) := by
  induction before with
  | nil =>
    have none := cutLast_eq_none_iff.mpr absent
    simp [cutLast, none]
  | cons c before ih => simp [cutLast, ih]

theorem of_cutLast (cut : cutLast separator cs = some (before, after)) :
    cs = before ++ separator :: after ∧ separator ∉ after := by
  induction cs generalizing before with
  | nil => cases cut
  | cons c rest ih =>
    unfold cutLast at cut
    cases later : cutLast separator rest with
    | some parts =>
      rw [later] at cut
      cases cut
      obtain ⟨split, absent⟩ := ih later
      exact ⟨congrArg (c :: ·) split, absent⟩
    | none =>
      rw [later] at cut
      dsimp only at cut
      split at cut
      next same =>
        cases cut
        exact ⟨congrArg (· :: after) same, cutLast_eq_none_iff.mp later⟩
      next => cases cut

theorem trimStart_append (visible : isBlank separator = false) :
    trimStart (before ++ separator :: after) = trimStart before ++ separator :: after := by
  unfold trimStart
  induction before with
  | nil => simp [visible]
  | cons c before ih =>
    cases blank : isBlank c
    · simp [blank]
    · simpa [blank] using ih

theorem trimEnd_append (visible : isBlank separator = false) :
    trimEnd (before ++ separator :: after) = before ++ separator :: trimEnd after := by
  have trimmed : trimStart (after.reverse ++ separator :: before.reverse) = _ :=
    trimStart_append visible
  unfold trimStart at trimmed
  simp [trimEnd, trimmed]

theorem trimEnd_cons (visible : isBlank separator = false) :
    trimEnd (separator :: after) = separator :: trimEnd after := by
  rw [← List.nil_append (separator :: after), trimEnd_append visible, List.nil_append]

theorem trimChars_append (visible : isBlank separator = false) :
    trimChars (before ++ separator :: after) = trimStart before ++ separator :: trimEnd after := by
  rw [trimChars, trimStart_append visible, trimEnd_append visible]

theorem trimStart_subset (cs : List Char) : trimStart cs ⊆ cs := (List.dropWhile_sublist _).subset

theorem trimEnd_subset (cs : List Char) : trimEnd cs ⊆ cs := by
  intro c member
  have kept := (List.dropWhile_sublist _).subset (List.mem_reverse.mp member)
  exact List.mem_reverse.mp kept

theorem trimChars_subset (cs : List Char) : trimChars cs ⊆ cs :=
  List.Subset.trans (trimEnd_subset _) (trimStart_subset cs)

theorem trimEnd_trimEnd (cs : List Char) : trimEnd (trimEnd cs) = trimEnd cs := by
  simp only [trimEnd, List.reverse_reverse, List.dropWhile_idempotent]

theorem trimChars_of_visible (visible : ∀ c ∈ cs, isBlank c = false) : trimChars cs = cs := by
  have untouched {cs : List Char} (visible : ∀ c ∈ cs, isBlank c = false) :
      cs.dropWhile isBlank = cs :=
    List.dropWhile_eq_self_iff.mpr fun shown => by
      simpa using visible cs[0] (List.getElem_mem shown)
  have reversed : ∀ c ∈ cs.reverse, isBlank c = false := fun c member =>
    visible c (List.mem_reverse.mp member)
  rw [trimChars, trimStart, untouched visible, trimEnd, untouched reversed, List.reverse_reverse]

theorem isBlank_of_isDigit {c : Char} (digit : c.isDigit = true) : isBlank c = false := by
  have each : ∀ n < 10, isBlank (Char.ofNat (48 + n)) = false := by decide
  simp only [Char.isDigit, Bool.and_eq_true, decide_eq_true_eq, ge_iff_le,
    UInt32.le_iff_toNat_le] at digit
  have ends : '0'.val.toNat = 48 ∧ '9'.val.toNat = 57 ∧ c.toNat = c.val.toNat := by
    exact ⟨rfl, rfl, rfl⟩
  have digit' := each (c.toNat - 48) (by omega)
  have same : 48 + (c.toNat - 48) = c.toNat := by omega
  rwa [same, Char.ofNat_toNat] at digit'

theorem trimStart_eq_nil_iff : trimStart cs = [] ↔ ∀ c ∈ cs, isBlank c = true :=
  List.dropWhile_eq_nil_iff

theorem trimEnd_eq_nil_iff : trimEnd cs = [] ↔ ∀ c ∈ cs, isBlank c = true := by
  simp [trimEnd]

theorem trimStart_eq_cons {c : Char} {rest : List Char} (shown : trimStart cs = c :: rest) :
    isBlank c = false ∧ ∃ blanks, trimStart blanks = [] ∧ cs = blanks ++ c :: rest := by
  refine ⟨?_, cs.takeWhile isBlank, ?_, ?_⟩
  · have first := List.head?_dropWhile_not isBlank cs
    rw [show cs.dropWhile isBlank = c :: rest from shown] at first
    exact first
  · exact trimStart_eq_nil_iff.mpr fun _ => List.mem_takeWhile_imp
  · rw [← shown]
    exact List.takeWhile_append_dropWhile.symm

theorem trimChars_trimStart (cs : List Char) : trimChars (trimStart cs) = trimChars cs := by
  simp only [trimChars, trimStart, List.dropWhile_idempotent]

theorem trimChars_trimEnd (cs : List Char) : trimChars (trimEnd cs) = trimChars cs := by
  cases shown : trimStart cs with
  | nil =>
    have blank := trimStart_eq_nil_iff.mp shown
    rw [trimEnd_eq_nil_iff.mpr blank, trimChars, trimChars, shown]
    rfl
  | cons c rest =>
    obtain ⟨visible, blanks, gone, rfl⟩ := trimStart_eq_cons shown
    have once : trimEnd (c :: rest) = c :: trimEnd rest := trimEnd_cons visible
    have twice : trimEnd (c :: trimEnd rest) = c :: trimEnd rest := by
      rw [trimEnd_cons visible, trimEnd_trimEnd]
    rw [trimEnd_append visible, trimChars, trimStart_append visible, gone, List.nil_append, twice,
      trimChars, shown, once]

theorem trimChars_trimChars (cs : List Char) : trimChars (trimChars cs) = trimChars cs :=
  calc
    trimChars (trimEnd (trimStart cs)) = trimChars (trimStart cs) := trimChars_trimEnd _
    _ = trimChars cs := trimChars_trimStart cs

theorem trimStart_append_of_blank (blank : ∀ c ∈ before, isBlank c = true) (cs : List Char) :
    trimStart (before ++ cs) = trimStart cs := List.dropWhile_append_of_pos blank

theorem trimEnd_append_of_blank (blank : ∀ c ∈ after, isBlank c = true) (cs : List Char) :
    trimEnd (cs ++ after) = trimEnd cs := by
  have blank' : ∀ c ∈ after.reverse, isBlank c = true := fun c member =>
    blank c (List.mem_reverse.mp member)
  rw [trimEnd, List.reverse_append, List.dropWhile_append_of_pos blank', trimEnd]

theorem trimChars_surrounded (blank : ∀ c ∈ before, isBlank c = true)
    (blank' : ∀ c ∈ after, isBlank c = true) (cs : List Char) :
    trimChars (before ++ cs ++ after) = trimChars cs :=
  calc
    trimChars (before ++ cs ++ after) = trimChars (trimEnd (before ++ cs)) := by
      rw [← trimChars_trimEnd, trimEnd_append_of_blank blank']
    _ = trimEnd (trimStart (before ++ cs)) := trimChars_trimEnd _
    _ = trimChars cs := by rw [trimStart_append_of_blank blank, trimChars]

theorem trimChars_eq_nil_iff : trimChars cs = [] ↔ ∀ c ∈ cs, isBlank c = true := by
  rw [← trimStart_eq_nil_iff]
  constructor
  · intro gone
    cases shown : trimStart cs with
    | nil => rfl
    | cons c rest =>
      obtain ⟨visible, -⟩ := trimStart_eq_cons shown
      rw [trimChars, shown, trimEnd_cons visible] at gone
      cases gone
  · intro gone
    rw [trimChars, gone]
    rfl

theorem exists_margins (cs : List Char) : ∃ left right, (∀ c ∈ left, isBlank c = true) ∧
    (∀ c ∈ right, isBlank c = true) ∧ cs = left ++ trimChars cs ++ right := by
  refine ⟨cs.takeWhile isBlank, ((trimStart cs).reverse.takeWhile isBlank).reverse,
    fun _ => List.mem_takeWhile_imp, fun _ member => ?_, ?_⟩
  · exact List.mem_takeWhile_imp (List.mem_reverse.mp member)
  · have ending : trimStart cs =
        trimChars cs ++ ((trimStart cs).reverse.takeWhile isBlank).reverse := by
      rw [trimChars, trimEnd, ← List.reverse_append, List.takeWhile_append_dropWhile,
        List.reverse_reverse]
    rw [List.append_assoc, ← ending, trimStart, List.takeWhile_append_dropWhile]

/-! ## Texts within texts -/

theorem occurs_iff {needle text : List Char} : occurs needle text = true ↔ needle <:+: text := by
  induction text with
  | nil => simp [occurs]
  | cons c rest ih =>
    rw [occurs, Bool.or_eq_true, List.isPrefixOf_iff_prefix, ih, List.infix_cons_iff]

/-! ## Cutting at every separator -/

theorem fields_eq_splitOn (text : List Char) : fields separator text = text.splitOn separator := by
  induction text with
  | nil => exact (List.splitOn_nil separator).symm
  | cons c rest ih =>
    obtain ⟨first, others, split⟩ :=
      List.exists_cons_of_ne_nil (List.splitOn_ne_nil separator rest)
    rw [fields, ih, List.splitOn_cons_eq_if_modifyHead, split]
    by_cases same : c = separator
    · simp [same]
    · simp [same]

theorem fields_ne_nil (text : List Char) : fields separator text ≠ [] := by
  rw [fields_eq_splitOn]
  exact List.splitOn_ne_nil separator text

theorem fields_cons_of_ne {c : Char} (different : c ≠ separator) (rest : List Char) :
    ∃ first others, fields separator rest = first :: others ∧
      fields separator (c :: rest) = (c :: first) :: others := by
  obtain ⟨first, others, split⟩ := List.exists_cons_of_ne_nil (fields_ne_nil rest)
  exact ⟨first, others, split, by simp only [fields, if_neg different, split]⟩

theorem fields_of_not_mem {text : List Char} (absent : separator ∉ text) :
    fields separator text = [text] := by
  rw [fields_eq_splitOn, List.splitOn_eq_singleton absent]

theorem fields_append (before after : List Char) :
    fields separator (before ++ separator :: after) =
      fields separator before ++ fields separator after := by
  simp only [fields_eq_splitOn, List.splitOn_append_cons_self]

theorem not_mem_of_mem_fields {text piece : List Char} (member : piece ∈ fields separator text) :
    separator ∉ piece := by
  induction text generalizing piece with
  | nil =>
    obtain rfl := List.mem_singleton.mp member
    exact List.not_mem_nil
  | cons c rest ih =>
    by_cases same : c = separator
    · rw [fields, if_pos same] at member
      rcases List.mem_cons.mp member with rfl | later
      · exact List.not_mem_nil
      · exact ih later
    · obtain ⟨first, others, split, longer⟩ := fields_cons_of_ne same rest
      rw [split] at ih
      rw [longer] at member
      rcases List.mem_cons.mp member with rfl | later
      · have absent := ih List.mem_cons_self
        exact fun here => (List.mem_cons.mp here).elim (Ne.symm same) absent
      · exact ih (List.mem_cons_of_mem _ later)

theorem subset_of_mem_fields {text piece : List Char} (member : piece ∈ fields separator text) :
    piece ⊆ text := by
  induction text generalizing piece with
  | nil =>
    obtain rfl := List.mem_singleton.mp member
    exact List.nil_subset _
  | cons c rest ih =>
    by_cases same : c = separator
    · rw [fields, if_pos same] at member
      rcases List.mem_cons.mp member with rfl | later
      · exact List.nil_subset _
      · exact List.subset_cons_of_subset c (ih later)
    · obtain ⟨first, others, split, longer⟩ := fields_cons_of_ne same rest
      rw [split] at ih
      rw [longer] at member
      rcases List.mem_cons.mp member with rfl | later
      · exact List.cons_subset_cons c (ih List.mem_cons_self)
      · exact List.subset_cons_of_subset c (ih (List.mem_cons_of_mem _ later))

/-! ## Joining -/

theorem toList_join (separator first : String) (others : List String) :
    (join separator (first :: others)).toList =
      first.toList ++ others.flatMap (fun text => separator.toList ++ text.toList) := by
  induction others generalizing first with
  | nil => simp [join]
  | cons next others ih => simp [join, ih]

theorem toList_join_eq_intercalate (separator : String) (texts : List String) :
    (join separator texts).toList = separator.toList.intercalate (texts.map String.toList) := by
  fun_induction join separator texts with
  | case1 => rfl
  | case2 text => simp
  | case3 text others several ih =>
    have more : others.map String.toList ≠ [] := by simpa using several
    rw [List.map_cons, List.intercalate_cons_of_ne_nil more, ← ih]
    simp

theorem fields_join {pieces : List (List Char)} (several : pieces ≠ [])
    (each : ∀ piece ∈ pieces, separator ∉ piece) :
    fields separator (join (String.singleton separator) (pieces.map String.ofList)).toList =
      pieces := by
  have chars : (pieces.map String.ofList).map String.toList = pieces := by simp
  rw [fields_eq_splitOn, toList_join_eq_intercalate, chars, String.toList_singleton]
  exact List.splitOn_intercalate separator each several

end Signpost.Text
