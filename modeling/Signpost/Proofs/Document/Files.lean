import Signpost.Proofs.Confinement
import Signpost.Proofs.Files.Directory

/-! The files of documents.

A document is looked for under the stem of its last segment, so under its full name exactly if no point
stands behind the first character of that name. Two documents are read from one file exactly if they
stand in the same directory and their names have the same stem. -/

namespace Signpost.Document

open Signpost.Path (IsPlain stem)
open Signpost.FileTree (Through)

variable {tree : FileTree} {directory path file last name name' : String} {front front' : List String}
  {format format' : Format}

/-! ## Candidates -/

def Format.fileName (format : Format) (name : String) : String := name ++ "." ++ format.extension

def candidate (directory : String) (front : List String) (name : String) (format : Format) : String :=
  Path.join (front.foldl Path.join directory) (format.fileName name)

theorem Format.isPlain_fileName (whole : '/' ∉ name.toList) (format : Format) :
    IsPlain (format.fileName name) := by
  have ending : '/' ∉ ("." ++ format.extension).toList ∧ 2 < ("." ++ format.extension).length := by
    cases format <;> decide
  rw [fileName, String.append_assoc]
  exact Path.isPlain_append whole ending.1 ending.2

theorem Format.fileName_inj :
    format.fileName name = format'.fileName name' ↔ name = name' ∧ format = format' := by
  constructor
  · intro same
    have sizes : ("." ++ format.extension).toList.length =
        ("." ++ format'.extension).toList.length := by
      cases format <;> cases format' <;> simp [extension]
    simp only [fileName, String.append_assoc] at same
    have chars : name.toList ++ ("." ++ format.extension).toList =
        name'.toList ++ ("." ++ format'.extension).toList := by
      rw [← String.toList_append, ← String.toList_append, same]
    obtain ⟨front, ending⟩ := List.append_inj' chars sizes
    refine ⟨String.toList_inj.mp front, ?_⟩
    cases format <;> cases format' <;> first | rfl | exact absurd ending (by decide)
  · rintro ⟨rfl, rfl⟩
    rfl

theorem through_candidate (plain : ∀ segment ∈ front, IsPlain segment) (whole : '/' ∉ name.toList)
    (directory : String) (format : Format) :
    Through directory (front ++ [format.fileName name]) (candidate directory front name format) := by
  have fileName := format.isPlain_fileName whole
  obtain ⟨steps, absolute⟩ := Path.steps_foldl_join plain directory
  exact {
    absolute := by
      rw [candidate, Path.isAbsolute_join (Path.isAbsolute_of_not_mem fileName.whole), absolute]
    leads := by rw [candidate, Path.steps_join_name fileName, steps, List.append_assoc]
    named := by
      intro segment member
      rcases List.mem_append.mp member with before | ends
      · exact (plain segment before).toIsName
      · exact List.mem_singleton.mp ends ▸ fileName.toIsName }

theorem whole_stem (plain : IsPlain last) : '/' ∉ (stem last).toList := fun slash =>
  plain.whole ((Path.stem_prefix_self last).subset slash)

/-- What is considered for a document; only the step upwards is left of some names. -/
theorem fileOf_eq (plain : IsPlain last) (directory : String) (front : List String)
    (format : Format) : fileOf directory (front ++ [last]) format =
      if stem last = "." then Path.join (front.foldl Path.join directory) ".."
      else candidate directory front (stem last) format := by
  rw [fileOf_concat, Path.withExtension_eq plain.here]
  split
  next => rfl
  next => rfl

theorem getLast?_candidate (whole : '/' ∉ name.toList) (directory : String) (front : List String)
    (format : Format) : (Path.parts (candidate directory front name format)).getLast? =
      some (format.fileName name) := by
  have fileName := format.isPlain_fileName whole
  rw [candidate, Path.getLast?_parts_join (Path.isAbsolute_of_not_mem fileName.whole),
    Path.parts_of_not_mem fileName.whole, List.getLast?_singleton]

/-- The full name is considered exactly if no point stands behind its first character. -/
theorem fileOf_eq_candidate_iff (plain : IsPlain last) (directory : String) (front : List String) :
    (∀ format, fileOf directory (front ++ [last]) format = candidate directory front last format) ↔
      '.' ∉ last.toList.tail := by
  rw [← Path.stem_eq_self_iff]
  constructor
  · intro considered
    have full := getLast?_candidate plain.whole directory front .json
    rw [← considered, fileOf_eq plain] at full
    split at full
    next =>
      have relative : Path.isAbsolute ".." = false := Path.isAbsolute_of_not_mem (by decide)
      rw [Path.getLast?_parts_join relative] at full
      exact absurd (Option.some.inj full).symm (Format.json.isPlain_fileName plain.whole).above
    next =>
      rw [getLast?_candidate (whole_stem plain)] at full
      exact (Format.fileName_inj.mp (Option.some.inj full)).1
  · intro whole format
    rw [fileOf_eq plain, whole, if_neg plain.here]

/-! ## The file that is read -/

/-- The first of the files that is there; JSON comes before TOML. -/
structure Chosen (tree : FileTree) (files : Format → String) (format : Format) (file : String) :
    Prop where
  file_eq : files format = file
  there : tree.isFile file = true
  first : format = .toml → tree.isFile (files .json) = false

theorem file?_eq {segments : List String} (named : segments? path = some segments) :
    file? tree directory path =
      if tree.isFile (fileOf directory segments .json) then
        some (.json, fileOf directory segments .json)
      else if tree.isFile (fileOf directory segments .toml) then
        some (.toml, fileOf directory segments .toml)
      else none := by
  rw [file?, named, Option.bind_some]
  simp only [List.map_cons, List.map_nil, List.find?_cons, List.find?_nil]
  cases tree.isFile (fileOf directory segments .json) with
  | true => rfl
  | false =>
    cases tree.isFile (fileOf directory segments .toml) with
    | true => rfl
    | false => rfl

theorem file?_eq_some_iff {segments : List String} (named : segments? path = some segments) :
    file? tree directory path = some (format, file) ↔
      Chosen tree (fileOf directory segments) format file := by
  rw [file?_eq named]
  constructor
  · intro found
    split at found
    next json =>
      cases found
      exact ⟨rfl, json, nofun⟩
    next json =>
      split at found
      next toml =>
        cases found
        exact ⟨rfl, toml, fun _ => Bool.eq_false_iff.mpr json⟩
      next => cases found
  · rintro ⟨rfl, there, first⟩
    cases format with
    | json => rw [if_pos there]
    | toml => rw [if_neg (Bool.eq_false_iff.mp (first rfl)), if_pos there]

/-- A document is read from a file of the stem; no file is a step upwards. -/
theorem file?_eq_some_iff_stem (named : segments? path = some (front ++ [last])) :
    file? tree directory path = some (format, file) ↔
      stem last ≠ "." ∧ Chosen tree (candidate directory front (stem last)) format file := by
  have plain : IsPlain last := (isPlain_of_segments? named).2 last (by simp)
  rw [file?_eq_some_iff named]
  by_cases up : stem last = "."
  · constructor
    · rintro ⟨rfl, there, -⟩
      rw [fileOf_eq plain, if_pos up, FileTree.isFile_join_up] at there
      cases there
    · rintro ⟨down, -⟩
      exact absurd up down
  · have files : fileOf directory (front ++ [last]) = candidate directory front (stem last) := by
      funext format
      rw [fileOf_eq plain, if_neg up]
    rw [files]
    exact (and_iff_right up).symm

theorem through_stem (named : segments? path = some (front ++ [last])) (directory : String)
    (format : Format) : Through directory (front ++ [format.fileName (stem last)])
      (candidate directory front (stem last) format) := by
  obtain ⟨-, plain⟩ := isPlain_of_segments? named
  have before : ∀ segment ∈ front, IsPlain segment := fun segment member =>
    plain segment (List.mem_append_left _ member)
  exact through_candidate before (whole_stem (plain last (by simp))) directory format

/-- Two documents are read from files at one place exactly if they share directory and stem. -/
theorem locate?_file_iff {last' path' file' : String} (absolute : Path.isAbsolute tree.mount = true)
    (named : segments? path = some (front ++ [last]))
    (named' : segments? path' = some (front' ++ [last']))
    (found : file? tree directory path = some (format, file))
    (found' : file? tree directory path' = some (format', file')) :
    tree.locate? file = tree.locate? file' ↔ front = front' ∧ stem last = stem last' := by
  constructor
  · intro same
    obtain ⟨-, rfl, there, -⟩ := (file?_eq_some_iff_stem named).mp found
    obtain ⟨-, rfl, -, -⟩ := (file?_eq_some_iff_stem named').mp found'
    obtain ⟨parts, place, below, followed, free⟩ := FileTree.place_of_isFile there
    have located : tree.locate? (candidate directory front (stem last) format) = some place := by
      rw [FileTree.locate?, below, Option.bind_some, followed]
    have names := Through.eq_of_locate? absolute (through_stem named directory format)
      (through_stem named' directory format') located (same ▸ located) free
    obtain ⟨fronts, ends⟩ := List.append_inj' names rfl
    exact ⟨fronts, (Format.fileName_inj.mp (List.head_eq_of_cons_eq ends)).1⟩
  · rintro ⟨rfl, stems⟩
    have chosen := (file?_eq_some_iff_stem named).mp found
    rw [stems] at chosen
    have again := (file?_eq_some_iff_stem named').mpr chosen
    rw [found'] at again
    cases again
    rfl

/-- A document is looked for under the stem of its last segment, JSON before TOML. So its full name is
considered exactly if that has no point behind its first character, and two documents are read from one
file exactly if they share the directory and the stem. -/
theorem file_by_stem (directory : String) (named : segments? path = some (front ++ [last])) :
    ((∀ format, fileOf directory (front ++ [last]) format = candidate directory front last format) ↔
      '.' ∉ last.toList.tail) ∧
    (∀ tree format file, file? tree directory path = some (format, file) ↔
      stem last ≠ "." ∧ Chosen tree (candidate directory front (stem last)) format file) ∧
    ∀ tree path' front' last' format file format' file',
      Path.isAbsolute tree.mount = true → segments? path' = some (front' ++ [last']) →
      file? tree directory path = some (format, file) →
      file? tree directory path' = some (format', file') →
      (tree.locate? file = tree.locate? file' ↔ front = front' ∧ stem last = stem last') := by
  have plain : IsPlain last := (isPlain_of_segments? named).2 last (by simp)
  refine ⟨fileOf_eq_candidate_iff plain directory front, ?_, ?_⟩
  · intro tree format file
    exact file?_eq_some_iff_stem named
  · intro tree path' front' last' format file format' file' absolute named' found found'
    exact locate?_file_iff absolute named named' found found'

/-- A directory of a file whose name holds no point, one whose name does, and one further down. -/
def versions : FileTree where
  mount := "/docs"
  nodes := [(["v1.json"], .file (Text.encode "\x7b\"main\": \x7b\x7d\x7d")),
    (["v2.1.json"], .file (Text.encode "\x7b\"main\": \x7b\x7d\x7d")), (["app"], .directory),
    (["app", "v1.toml"], .file (Text.encode "[main]"))]

theorem file_by_stem_versions :
    segments? "/v1.2" = some ["v1.2"] ∧ segments? "/app/v1" = some ["app", "v1"] ∧
      Path.isAbsolute versions.mount = true ∧
      file? versions "/docs" "/v1.2" = some (.json, "/docs/v1.json") ∧
      file? versions "/docs" "/app/v1" = some (.toml, "/docs/app/v1.toml") ∧
      versions.locate? "/docs/v1.json" ≠ versions.locate? "/docs/app/v1.toml" ∧
      ¬∀ format, fileOf "/docs" ["v1.2"] format = candidate "/docs" [] "v1.2" format := by
  have named : segments? "/v1.2" = some ([] ++ ["v1.2"]) := by decide
  have named' : segments? "/app/v1" = some (["app"] ++ ["v1"]) := by decide
  have absolute : Path.isAbsolute versions.mount = true := by decide +kernel
  obtain ⟨full, reads, shares⟩ := file_by_stem "/docs" named
  have found : file? versions "/docs" "/v1.2" = some (.json, "/docs/v1.json") := by
    apply (reads ..).mpr
    exact ⟨by decide, by decide +kernel, by decide +kernel, nofun⟩
  have found' : file? versions "/docs" "/app/v1" = some (.toml, "/docs/app/v1.toml") := by
    decide +kernel
  have apart := (shares _ _ _ _ _ _ _ _ absolute named' found found').not.mpr (by decide)
  exact ⟨named, named', absolute, found, found', apart, full.not.mpr (by decide)⟩

/-- Two documents are read from one file, and a file of a full name is not found. -/
theorem versions_mistaken :
    segments? "/v1.2" = some ["v1.2"] ∧ segments? "/v1.3" = some ["v1.3"] ∧
      file? versions "/docs" "/v1.2" = some (.json, "/docs/v1.json") ∧
      file? versions "/docs" "/v1.3" = some (.json, "/docs/v1.json") ∧
      versions.isFile (candidate "/docs" [] "v2.1" .json) = true ∧
      load versions "/docs" "/v2.1" = .error (.notFound "/v2.1") := by
  have missing : file? versions "/docs" "/v2.1" = none := by decide +kernel
  refine ⟨by decide, by decide, by decide +kernel, by decide +kernel, by decide +kernel, ?_⟩
  rw [load, missing]

end Signpost.Document
