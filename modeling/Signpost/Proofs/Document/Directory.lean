import Signpost.Document.Directory
import Signpost.Proofs.Library
import Signpost.Proofs.Location

/-! Documents that are loaded from files have named blocks.

The shape that a document is checked for leaves no name out: every block can be written behind the
point of a location, and the path of a document is not empty. -/

namespace Signpost.Document

variable {tree : FileTree} {directory path block : String} {document : Document}

theorem names_of_blocksOf {fields : Fields} {blocks : List (String × Block)}
    (read : blocksOf fields = .ok blocks) : blocks.map (·.1) = Fields.names fields := by
  induction fields generalizing blocks with
  | nil =>
    cases read
    rfl
  | cons field fields ih =>
    obtain ⟨name, value⟩ := field
    cases value with
    | obj entries =>
      unfold blocksOf at read
      cases rest : blocksOf fields with
      | error => rw [rest] at read; cases read
      | ok others =>
        rw [rest] at read
        cases read
        exact congrArg (name :: ·) (ih rest)
    | _ => cases read

theorem validName_of_hasBlock {value : Value} (shaped : hasShape value = true)
    (read : ofValue path value = .ok document) (present : document.hasBlock block = true) :
    validName block = true := by
  obtain ⟨entries, named⟩ := Option.isSome_iff_exists.mp present
  have member : block ∈ document.blocks.map (·.1) := List.mem_map_of_mem (mem_of_block? named)
  cases value with
  | obj fields =>
    simp only [ofValue] at read
    cases found : blocksOf fields with
    | error => rw [found] at read; cases read
    | ok blocks =>
      rw [found] at read
      cases read
      rw [names_of_blocksOf found] at member
      obtain ⟨field, written, rfl⟩ := List.mem_map.mp member
      simp only [hasShape, Bool.and_eq_true, List.all_eq_true] at shaped
      exact (shaped.2 field written).1
  | _ => cases read

structure Filed (path : String) (document : Document) : Prop where
  path_eq : document.path = path
  segments : (segments? path).isSome = true
  names : ∀ block, document.hasBlock block = true → validName block = true

theorem filed_of_load (loaded : load tree directory path = .ok document) : Filed path document := by
  unfold load at loaded
  cases found : file? tree directory path with
  | none => rw [found] at loaded; cases loaded
  | some source =>
    obtain ⟨format, file⟩ := source
    rw [found] at loaded
    obtain ⟨segments, named, _⟩ := Option.bind_eq_some_iff.mp found
    dsimp only at loaded
    split at loaded
    next => cases loaded
    next value readable =>
      have shaped : hasShape value = true := by
        unfold readFile at readable
        split at readable
        next => cases readable
        next =>
          split at readable
          next => cases readable
          next =>
            split at readable
            next shaped =>
              cases readable
              exact shaped
            next => cases readable
      exact ⟨ofValue_path loaded, Option.isSome_of_eq_some named,
        fun block => validName_of_hasBlock shaped loaded⟩

theorem Filed.named (filed : Filed path document) (present : document.hasBlock block = true) :
    Location.Named ⟨path, block⟩ := by
  have valid := filed.names block present
  simp only [validName, Bool.and_eq_true, Bool.not_eq_true', List.all_eq_true, bne_iff_ne] at valid
  obtain ⟨written, each⟩ := valid
  exact {
    path := by
      rintro rfl
      exact absurd filed.segments (by decide)
    block := by simpa using written
    within := fun slash => (each _ slash).1.2 rfl
    plain := fun point => (each _ point).1.1 rfl }

end Signpost.Document
