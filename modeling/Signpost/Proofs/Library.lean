import Signpost.Host

/-! Libraries: the documents that there are to load.

A library answers the same for a path whenever it is asked. A location that it holds can be entered:
its document can be had, and the document has the block. -/

namespace Signpost

namespace Document

variable {document : Document}

theorem ofValue_path {path : String} {value : Value} (read : ofValue path value = .ok document) :
    document.path = path := by
  unfold ofValue at read
  split at read
  · split at read <;> cases read
    rfl
  · cases read

theorem hasBlock_of_defaultBlock {preferred block : String}
    (entrance : document.defaultBlock? preferred = some block) : document.hasBlock block = true := by
  unfold defaultBlock? at entrance
  split at entrance
  next preferable =>
    cases entrance
    exact preferable
  next =>
    unfold blockNames at entrance
    unfold hasBlock block?
    rcases document with ⟨path, _ | ⟨⟨name, entries⟩, rest⟩⟩
    · cases entrance
    · cases entrance
      simp

theorem hasBlock_of_blocks {other : Document} (same : document.blocks = other.blocks)
    (block : String) : document.hasBlock block = other.hasBlock block := by
  unfold hasBlock block?
  rw [same]

theorem blocks_of_defaultBlock {preferred : String}
    (none : document.defaultBlock? preferred = none) : document.blocks = [] := by
  unfold defaultBlock? at none
  split at none
  next => cases none
  next => exact List.map_eq_nil_iff.mp (List.head?_eq_none_iff.mp none)

theorem of_entry?_eq_some {entries : Block} {key written : String} {command : Value}
    (found : entry? entries key = some (written, command)) :
    (written, command) ∈ entries ∧ Key.bare written = Key.bare key := by
  unfold entry? at found
  split at found
  next looked =>
    cases found
    obtain ⟨before, after, split, _⟩ := List.lookup_eq_some_iff.mp looked
    exact ⟨by simp [split], rfl⟩
  next =>
    refine ⟨List.mem_of_find?_eq_some found, ?_⟩
    simpa using List.find?_some found

theorem mem_of_lookupKey? {block key written : String} {command : Value}
    (found : document.lookupKey? block key = some (written, command)) :
    ∃ entries, document.block? block = some entries ∧ (written, command) ∈ entries := by
  obtain ⟨entries, named, found⟩ := Option.bind_eq_some_iff.mp found
  exact ⟨entries, named, (of_entry?_eq_some found).1⟩

theorem mem_of_block? {block : String} {entries : Block}
    (named : document.block? block = some entries) : (block, entries) ∈ document.blocks := by
  obtain ⟨before, after, split, _⟩ := List.lookup_eq_some_iff.mp named
  simp [split]

end Document

abbrev Library := String → Except LoadError Document

namespace Library

/-- Each document is read from a value for the path that it is found at. -/
def Proper (library : Library) : Prop :=
  ∀ path document, library path = .ok document → ∃ value, Document.ofValue path value = .ok document

/-- The location names a document of the library and a block of this document. -/
def Holds (library : Library) (location : Location) : Prop :=
  ∃ document, library location.path = .ok document ∧ document.hasBlock location.block = true

theorem Proper.path_eq {library : Library} (proper : library.Proper) {path : String}
    {document : Document} (found : library path = .ok document) : document.path = path := by
  obtain ⟨value, read⟩ := proper path document found
  exact Document.ofValue_path read

theorem Proper.holds {library : Library} (proper : library.Proper) {path block : String}
    {document : Document} (found : library path = .ok document)
    (present : document.hasBlock block = true) : library.Holds ⟨document.path, block⟩ :=
  ⟨document, (congrArg library (proper.path_eq found)).trans found, present⟩

end Library

namespace Host

variable {World : Type} (host : Host World) (library : Library)

/-- The host loads the documents of the library, whatever has happened in its world. -/
def Serves : Prop := ∀ path world, (host.load path world).1 = library path

def withLibrary : Host World := { host with load := fun path => return library path }

theorem withLibrary_serves : (host.withLibrary library).Serves library := fun _ _ => rfl

end Host

end Signpost
