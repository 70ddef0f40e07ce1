import Signpost.Location
import Signpost.Proofs.Text.Split

/-! Locations read back from their written form.

The block is cut off at the last point of the last segment. So a location whose path ends in a slash
is lost: its last segment is empty, and the point then belongs to the path. -/

namespace Signpost.Location

variable {directory name block : List Char} {location : Location}

theorem exists_directory (path : List Char) :
    ∃ directory name, path = directory ++ name ∧ '/' ∉ name ∧
      (directory = [] ∨ ∃ parent, directory = parent ++ ['/']) := by
  cases cut : Text.cutLast '/' path with
  | none => exact ⟨[], path, rfl, Text.cutLast_eq_none_iff.mp cut, .inl rfl⟩
  | some parts =>
    obtain ⟨parent, name⟩ := parts
    obtain ⟨split, absent⟩ := Text.of_cutLast cut
    exact ⟨parent ++ ['/'], name, by rw [split]; simp, absent, .inr ⟨parent, rfl⟩⟩

theorem splitName_append (ends : directory = [] ∨ ∃ parent, directory = parent ++ ['/'])
    (absent : '/' ∉ name) : splitName (directory ++ name) = (directory, name) := by
  unfold splitName
  rcases ends with rfl | ⟨parent, rfl⟩
  · rw [List.nil_append, Text.cutLast_eq_none_iff.mpr absent]
  · rw [List.append_assoc, List.singleton_append, Text.cutLast_append absent]

/-- The path and the block can be told apart by the point between them. -/
structure Separable (path block : List Char) : Prop where
  shown : path ≠ []
  ends : path.getLast? ≠ some '/'
  plain : '.' ∉ block
  within : '/' ∉ block

theorem Separable.of_append (ends : directory = [] ∨ ∃ parent, directory = parent ++ ['/'])
    (separable : Separable (directory ++ name) block) : name ≠ [] := by
  rintro rfl
  rw [List.append_nil] at separable
  rcases ends with rfl | ⟨parent, rfl⟩
  · exact separable.shown rfl
  · exact separable.ends List.getLast?_concat

/-- The block is cut off exactly where a path and a block have been joined that can be told apart. -/
theorem splitBlock_eq_some_iff {body path : List Char} :
    splitBlock body = (path, some block) ↔ body = path ++ '.' :: block ∧ Separable path block := by
  constructor
  · intro cut
    obtain ⟨directory, name, split, segment, ends⟩ := exists_directory body
    subst split
    unfold splitBlock at cut
    rw [splitName_append ends segment] at cut
    dsimp only at cut
    split at cut
    next c before last found =>
      cases cut
      obtain ⟨joined, plain⟩ := Text.of_cutLast found
      subst joined
      refine ⟨by simp, by simp, ?_, plain, fun slash => segment (by simp [slash])⟩
      rw [List.getLast?_append_of_ne_nil _ (List.cons_ne_nil c before)]
      exact fun slash => segment (List.mem_append_left _ (List.mem_of_getLast? slash))
    next => cases cut
  · rintro ⟨rfl, separable⟩
    obtain ⟨directory, name, rfl, segment, ends⟩ := exists_directory path
    obtain ⟨c, before, rfl⟩ := List.exists_cons_of_ne_nil (separable.of_append ends)
    have last : '/' ∉ c :: before ++ '.' :: block := fun slash =>
      (List.mem_append.mp slash).elim segment fun later =>
        separable.within ((List.mem_cons.mp later).resolve_left (by decide))
    unfold splitBlock
    rw [List.append_assoc, splitName_append ends last]
    dsimp only
    rw [Text.cutLast_append separable.plain]

theorem eq_of_splitBlock {body path : List Char} (whole : splitBlock body = (path, none)) :
    path = body := by
  unfold splitBlock at whole
  dsimp only at whole
  split at whole
  · cases whole
  · exact (congrArg Prod.fst whole).symm

/-- The path names something, and the block is one that a document can have. -/
structure Named (location : Location) : Prop where
  path : location.path ≠ ""
  block : location.block ≠ ""
  within : '/' ∉ location.block.toList
  plain : '.' ∉ location.block.toList

/-- The path does not end in a slash, and the block has no blanks. -/
structure Legible (location : Location) : Prop where
  path : location.path.toList.getLast? ≠ some '/'
  block : ∀ c ∈ location.block.toList, Text.isBlank c = false

instance (location : Location) : Decidable location.Legible :=
  decidable_of_iff (location.path.toList.getLast? ≠ some '/' ∧
    location.block.toList.all (!Text.isBlank ·) = true)
    ⟨fun both => ⟨both.1, by simpa using both.2⟩,
      fun legible => ⟨legible.path, by simpa using legible.block⟩⟩

theorem validBlock_iff :
    validBlock block = true ↔ block ≠ [] ∧ ∀ c ∈ block, Text.isBlank c = false ∧ c ≠ '/' := by
  simp [validBlock]

theorem readable_iff :
    Separable location.path.toList location.block.toList ∧
        validBlock location.block.toList = true ↔
      location.Named ∧ location.Legible := by
  rw [validBlock_iff]
  constructor
  · rintro ⟨separable, shown, each⟩
    have named : location.Named :=
      ⟨by simpa using separable.shown, by simpa using shown, separable.within, separable.plain⟩
    exact ⟨named, separable.ends, fun c member => (each c member).1⟩
  · rintro ⟨named, legible⟩
    have inside (c : Char) (member : c ∈ location.block.toList) : c ≠ '/' :=
      fun same => named.within (same ▸ member)
    refine ⟨⟨by simpa using named.path, legible.path, named.plain, named.within⟩,
      by simpa using named.block, fun c member => ⟨legible.block c member, inside c member⟩⟩

theorem read_iff {written : String} :
    read written = .ok location ↔
      splitBlock written.toList = (location.path.toList, some location.block.toList) ∧
        validBlock location.block.toList = true := by
  unfold read
  cases cut : splitBlock written.toList with
  | mk path rest =>
    cases rest with
    | none => simp
    | some block =>
      have shown : path.isEmpty = false := by
        simpa using (splitBlock_eq_some_iff.mp cut).2.shown
      simp only [shown, Bool.false_eq_true, ↓reduceIte]
      split
      next valid =>
        constructor
        · rintro ⟨⟩
          simpa using valid
        · rintro ⟨same, -⟩
          simp only [Prod.mk.injEq, Option.some.injEq] at same
          simp [same]
      next invalid =>
        refine iff_of_false nofun ?_
        rintro ⟨same, valid⟩
        simp only [Prod.mk.injEq, Option.some.injEq] at same
        exact invalid (same.2 ▸ valid)

theorem toList_text (location : Location) :
    location.text.toList = location.path.toList ++ '.' :: location.block.toList := by
  simp [text]

/-- The written form tells locations with a named block apart. -/
theorem eq_of_text {other : Location} (same : other.text = location.text)
    (plain : '.' ∉ other.block.toList) (plain' : '.' ∉ location.block.toList) :
    other = location := by
  have cut := congrArg (fun written : String => Text.cutLast '.' written.toList) same
  simp only [toList_text, Text.cutLast_append plain, Text.cutLast_append plain', Option.some.injEq,
    Prod.mk.injEq, String.toList_inj] at cut
  obtain ⟨path, block⟩ := cut
  cases location
  cases other
  exact congrArg₂ Location.mk path block

/-- A text is read as a location if and only if it is its written form, the path and the block name
something, and the location is legible. -/
theorem read_eq_ok_iff_legible {written : String} :
    read written = .ok location ↔
      written = location.text ∧ location.Named ∧ location.Legible := by
  rw [read_iff, splitBlock_eq_some_iff, and_assoc, readable_iff, ← toList_text, String.toList_inj]

/-- A location reads back if it is legible, and not at all otherwise. -/
theorem read_text (named : location.Named) :
    (location.Legible → read location.text = .ok location) ∧
      (¬location.Legible → ∃ error, read location.text = .error error) := by
  constructor
  · intro legible
    obtain ⟨separable, valid⟩ := readable_iff.mpr ⟨named, legible⟩
    exact read_iff.mpr ⟨splitBlock_eq_some_iff.mpr ⟨toList_text location, separable⟩, valid⟩
  · intro illegible
    cases ended : read location.text with
    | error error => exact ⟨error, rfl⟩
    | ok other =>
      obtain ⟨cut, valid⟩ := read_iff.mp ended
      obtain ⟨joined, separable⟩ := splitBlock_eq_some_iff.mp cut
      rw [← toList_text, String.toList_inj] at joined
      obtain rfl := eq_of_text joined.symm separable.plain named.plain
      exact absurd (readable_iff.mp ⟨separable, valid⟩).2 illegible

end Signpost.Location
