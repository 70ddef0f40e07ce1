import Signpost.Proofs.Number.Reading
import Signpost.Proofs.Value.Indented

/-! Values that read back.

A value is lost in its text in three ways only: a record names a field twice, lists and records nest
too deep, or a number is not read from its own text. Every other value is what its indented form is
read as. -/

namespace Signpost

theorem Fields.foldl_put {before fields : Fields}
    (once : (Fields.names (before ++ fields)).Nodup) :
    fields.foldl (fun fields (name, value) => fields.put name value) before = before ++ fields := by
  have put_new {name : String} (value : Value) {fields : Fields} (new : name ∉ Fields.names fields) :
      fields.put name value = fields ++ [(name, value)] := by
    induction fields with
    | nil => rfl
    | cons field fields ih =>
      obtain ⟨here, later⟩ := List.ne_and_not_mem_of_not_mem_cons new
      rw [Fields.put, if_neg (Ne.symm here), ih later, List.cons_append]
  induction fields generalizing before with
  | nil => exact (List.append_nil before).symm
  | cons field fields ih =>
    obtain ⟨name, value⟩ := field
    have new : name ∉ Fields.names before := by
      simp only [Fields.names, List.map_append, List.map_cons, List.nodup_append,
        List.mem_cons] at once
      exact fun there => once.2.2 name there name (.inl rfl) rfl
    have step := put_new value new
    rw [List.foldl_cons]
    dsimp only
    rw [step, ih (by rwa [← List.append_cons]), ← List.append_cons]

theorem Fields.ofList_eq {fields : Fields} (once : (Fields.names fields).Nodup) :
    Fields.ofList fields = fields :=
    Fields.foldl_put (show (Fields.names ([] ++ fields)).Nodup from once)

namespace Value

/-- The value reads back where lists and records may enclose it to this depth. -/
inductive Legible : (depth : Nat) → Value → Prop
  | null {depth : Nat} : Legible depth .null
  | bool {depth : Nat} (value : Bool) : Legible depth (.bool value)
  | num {depth : Nat} {number : Number} (legible : number.Legible) : Legible depth (.num number)
  | str {depth : Nat} (text : String) : Legible depth (.str text)
  | arr {depth : Nat} {items : List Value} (each : ∀ item ∈ items, Legible depth item) :
      Legible (depth + 1) (.arr items)
  | obj {depth : Nat} {fields : Fields} (once : (Fields.names fields).Nodup)
      (each : ∀ field ∈ fields, Legible depth field.2) : Legible (depth + 1) (.obj fields)

theorem legible_nat {depth n : Nat} (fits : n < Nat.pow 2 64) : Legible depth (.nat n) := by
  refine .num (Number.legible_int ?_ ?_)
  · exact Int.le_trans (by decide) (Int.natCast_nonneg n)
  · have bound : Nat.pow 2 64 = 18446744073709551616 := by decide
    unfold Number.greatest
    omega

/-! ## Fields read back once -/

theorem mergedItems_eq (items : List Value) : mergedItems items = items.map merged := by
  induction items with
  | nil => rfl
  | cons item items ih => rw [mergedItems, ih, List.map_cons]

theorem mergedFields_eq (fields : Fields) :
    mergedFields fields = fields.map fun field => (field.1, merged field.2) := by
  induction fields with
  | nil => rfl
  | cons field fields ih => rw [mergedFields, ih, List.map_cons]

theorem Legible.merged {depth : Nat} {value : Value} (legible : Legible depth value) :
    merged value = value := by
  induction legible with
  | null => rfl
  | bool => rfl
  | num => rfl
  | str => rfl
  | arr each ih =>
    rw [Value.merged, mergedItems_eq, List.map_congr_left ih, List.map_id']
  | obj once each ih =>
    have same (field : String × Value) (member : field ∈ _) : (field.1, Value.merged field.2) = field :=
      Prod.ext rfl (ih field member)
    rw [Value.merged, mergedFields_eq, List.map_congr_left same, List.map_id', Fields.ofList_eq once]

/-! ## Texts of single values -/

theorem stops_of_ends {rest : List Char} (ends : Ends rest) : Number.Stops rest := by
  cases rest with
  | nil => exact trivial
  | cons c rest =>
    have each : ∀ c ∈ [' ', '\n', '\t', '\r', ',', ']', '\x7d'],
        c.isDigit = false ∧ c ≠ '.' ∧ c ≠ 'e' ∧ c ≠ 'E' := by simp
    refine each c ?_
    simpa [Ends, isSpace, or_assoc] using ends

theorem takes_bool (depth level : Nat) (value : Bool) :
    Takes (valueWithin? depth) (.bool value) (itemChars level (.bool value)) where
  opens := by
    cases value
    · exact ⟨'f', "alse".toList, by simp [itemChars, indentedAt], by decide, by decide⟩
    · exact ⟨'t', "rue".toList, by simp [itemChars, indentedAt], by decide, by decide⟩
  reads spaces rest _ := by
    unfold valueWithin?
    rw [skipSpace_append spaces]
    cases value
    · simp [itemChars, indentedAt, skipSpace_cons (show isSpace 'f' = false by decide)]
    · simp [itemChars, indentedAt, skipSpace_cons (show isSpace 't' = false by decide)]

theorem head_of_read? {text rest : List Char} {number : Number}
    (read : Number.read? text = some (number, rest)) :
    ∃ c more, text = c :: more ∧ (c = '-' ∨ c.isDigit = true) := by
  unfold Number.read? at read
  split at read
  next rest => exact ⟨'-', rest, rfl, .inl rfl⟩
  next =>
    unfold Number.magnitude? at read
    split at read
    next => cases read
    next => exact ⟨'0', _, rfl, .inr rfl⟩
    next =>
      split at read
      next digit => exact ⟨_, _, rfl, .inr digit⟩
      next => cases read

theorem head_of_legible {number : Number} (legible : number.Legible) :
    ∃ c more, number.text.toList = c :: more ∧ (c = '-' ∨ c.isDigit = true) := by
  obtain ⟨c, more, split, first⟩ := head_of_read? (legible [] trivial)
  exact ⟨c, more, by simpa using split, first⟩

/-- The first character of a number is none that begins or ends anything else. -/
theorem ne_of_first {c other : Char} (first : c = '-' ∨ c.isDigit = true) (sign : other ≠ '-')
    (digit : other.isDigit = false) : c ≠ other := by
  rintro rfl
  rcases first with same | same
  · exact sign same
  · rw [digit] at same
    cases same

theorem isSpace_of_first {c : Char} (first : c = '-' ∨ c.isDigit = true) : isSpace c = false := by
  simp only [isSpace, Bool.or_eq_false_iff, beq_eq_false_iff_ne]
  exact ⟨⟨⟨ne_of_first first (by decide) (by decide), ne_of_first first (by decide) (by decide)⟩,
    ne_of_first first (by decide) (by decide)⟩, ne_of_first first (by decide) (by decide)⟩

theorem valueWithin?_num {number : Number} (legible : number.Legible) (depth : Nat)
    {blanks : List Char} (spaces : Spaces blanks) {rest : List Char} (stops : Number.Stops rest) :
    valueWithin? depth (blanks ++ (number.text.toList ++ rest)) = some (.num number, rest) := by
  obtain ⟨c, more, split, first⟩ := head_of_legible legible
  have read := legible rest stops
  unfold valueWithin?
  rw [skipSpace_append spaces]
  rw [split, List.cons_append] at read ⊢
  rw [skipSpace_cons (isSpace_of_first first)]
  split
  case h_7 => rw [read, Option.map_some]
  all_goals
    next same =>
      exact absurd (List.cons.inj same).1 (ne_of_first first (by decide) (by decide))

theorem takes_num (depth level : Nat) {number : Number} (legible : number.Legible) :
    Takes (valueWithin? depth) (.num number) (itemChars level (.num number)) where
  opens := by
    obtain ⟨c, more, split, first⟩ := head_of_legible legible
    exact ⟨c, more, split, isSpace_of_first first, ne_of_first first (by decide) (by decide)⟩
  reads spaces _ ends := valueWithin?_num legible depth spaces (stops_of_ends ends)

theorem read?_num {number : Number} (legible : number.Legible) :
    read? number.text = some (.num number) := by
  have read := @valueWithin?_num _ legible nesting [] nofun [] trivial
  rw [List.nil_append, List.append_nil] at read
  rw [read?, readWritten?, read]
  rfl

theorem takes_legible {depth : Nat} {value : Value} (legible : Legible depth value) (level : Nat) :
    Takes (valueWithin? depth) value (itemChars level value) := by
  induction legible generalizing level with
  | null => exact takes_null _ level
  | bool value => exact takes_bool _ level value
  | num legible => exact takes_num _ level legible
  | str text => exact takes_str _ level text
  | arr _ ih => exact takes_arr fun item member => ih item member (level + 1)
  | obj _ _ ih => exact takes_obj fun field member => ih field member (level + 1)

theorem read?_indented {value : Value} (legible : Legible nesting value) :
    read? (value.indented ++ "\n") = some value := by
  have read := (takes_legible legible 0).reads (nofun : Spaces []) (show Ends ['\n'] from .inl rfl)
  have whole : (value.indented ++ "\n").toList = [] ++ (itemChars 0 value ++ ['\n']) := by
    simp [indented, itemChars]
  rw [read?, readWritten?, whole, read]
  exact congrArg some legible.merged

end Value

end Signpost
