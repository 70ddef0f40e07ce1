import Signpost.Proofs.Document.Directory
import Signpost.Proofs.Link.Resolution
import Signpost.Proofs.Navigator.Coherence
import Signpost.Proofs.Navigator.Invariant
import Signpost.Proofs.Session.File

/-! What is saved of a session is there again when it is loaded.

A session holds locations of documents that have been loaded, under the paths that were asked for. A
link asks for a path through segments, but a client may open a document under a path that ends in a
slash. The directory passes over such a slash, the written location does not: it cannot be read, and
the whole session is lost with it. -/

namespace Signpost

variable {World : Type}

namespace Host

/-- Documents are loaded from files, and the times of the clock can be read when they have been
written. -/
structure Filed (host : Host World) : Prop where
  documents : ∀ {path world document}, (host.load path world).1 = .ok document →
    ∃ tree directory, Document.load tree directory path = .ok document
  clock : ∀ world, (host.now world).Readable

/-- No block of a document has a blank in its name, of whatever script. -/
def PlainNames (host : Host World) : Prop :=
  ∀ {path world document block}, (host.load path world).1 = .ok document →
    document.hasBlock block = true → ∀ c ∈ block.toList, Text.isBlank c = false

end Host

namespace Session

variable {n : Navigator World} {s : Session}

theorem checkpoint_ordered (ordered : s.breadcrumbs.Ordered) :
    s.checkpoint.2.breadcrumbs.Ordered := by
  cases located : s.location? with
  | none =>
    rw [checkpoint_of_nowhere located]
    exact ordered
  | some here =>
    rw [checkpoint_of_location located]
    exact ordered.push

theorem stepBack_ordered (ordered : s.breadcrumbs.Ordered) (time : Timestamp) :
    (s.stepBack time).2.breadcrumbs.Ordered := by
  cases back : (s.breadcrumbs.back s.scope).1 with
  | none =>
    rw [stepBack_of_none back]
    exact ordered.back
  | some location =>
    rw [stepBack_of_some back]
    exact ordered.back

/-- The trails stay in order whatever the locations are. -/
theorem ordered_maintained : n.Maintains fun s => s.breadcrumbs.Ordered where
  pending _ ordered := ordered
  checkpoint := checkpoint_ordered
  stepBack _ ordered := stepBack_ordered ordered _
  link _ _ ordered _ _ := ordered.push
  jump _ _ ordered _ _ _ := ordered.push

theorem ordered_opened (path : String) : n.Opens (fun s => s.breadcrumbs.Ordered) path := by
  intro s document block asked now ordered _ _
  exact ordered.push

end Session

/-- Paths that are opened do not end in a slash. -/
def Call.Tidy : Call → Prop
  | start path => path.toList.getLast? ≠ some '/'
  | _ => True

namespace Host.Filed

variable {n : Navigator World} (filed : n.host.Filed)

include filed

theorem loaded {path : String} {world : World} {document : Document}
    (answer : (n.host.load path world).1 = .ok document) : document.Filed path := by
  obtain ⟨tree, directory, read⟩ := filed.documents answer
  exact Document.filed_of_load read

/-- Whatever path is opened, every location can be told from text behind a point. -/
theorem confines_named : n.Confines Location.Named Timestamp.Readable where
  clock := filed.clock
  link loaded present := (filed.loaded loaded).named present
  jump _ loaded present := (filed.loaded loaded).named present

theorem entered_named {path block : String} {world : World} {document : Document}
    (loaded : (n.host.load path world).1 = .ok document)
    (present : document.hasBlock block = true) : Location.Named ⟨document.path, block⟩ := by
  have known := filed.loaded loaded
  rw [known.path_eq]
  exact known.named present

/-- The root is no document, so links lead to paths without a slash at the end. -/
theorem confines_legible (plain : n.host.PlainNames) :
    n.Confines Location.Legible Timestamp.Readable where
  clock := filed.clock
  link {target current _ _ _} loaded present := by
    have below : target.resolve current ≠ "/" := by
      intro root
      have known := filed.loaded loaded
      rw [root] at known
      exact absurd known.segments (by decide)
    exact ⟨Reference.getLast?_resolve current target below, plain loaded present⟩
  jump here loaded present := ⟨here.path, plain loaded present⟩

end Host.Filed

variable {s : Session}

theorem reached_ordered {permitted : {World : Type} → Navigator World → Call → Prop}
    (reached : Reached permitted s) : s.breadcrumbs.Ordered := by
  induction reached with
  | new mode identity => exact .nil
  | call n course call _ _ ih =>
    exact Session.ordered_maintained.perform (fun path _ => Session.ordered_opened path) ih

theorem reached_storable (reached : Reached (fun n _ => n.host.Filed) s) : s.Storable := by
  have through : s.Through Location.Named Timestamp.Readable := by
    induction reached with
    | new mode identity => exact Session.through_new mode identity
    | call n course call _ filed ih =>
      have confines := filed.confines_named
      exact confines.maintains.perform (fun _ _ => confines.opens filed.entered_named) ih
  exact {
    trails := through.trails
    ordered := reached_ordered reached
    history := fun entry member =>
      ⟨(through.history entry member).1, (through.history entry member).2⟩
    bounded := (reached_coherent reached).bounded }

theorem reached_legible
    (reached : Reached (fun n call => n.host.Filed ∧ n.host.PlainNames ∧ call.Tidy) s) :
    s.Legible := by
  have through : s.Through Location.Legible Timestamp.Readable := by
    induction reached with
    | new mode identity => exact Session.through_new mode identity
    | call n course call _ permitted ih =>
      obtain ⟨filed, plain, tidy⟩ := permitted
      have confines := filed.confines_legible plain
      refine confines.maintains.perform (fun path same => confines.opens ?_) ih
      subst same
      intro document block world loaded present
      rw [(filed.loaded loaded).path_eq]
      exact ⟨tidy, plain loaded present⟩
  exact ⟨through.trails, fun entry member => (through.history entry member).1⟩

/-- Whatever has been called, a saved session is loaded as it was if every location in its trails and
its history is legible, and not at all otherwise. All of them are legible where no path that was
opened ends in a slash. -/
theorem reached_reloads (reached : Reached (fun n _ => n.host.Filed) s)
    {tree after : FileTree} {path : String} (saved : s.save tree path = (none, after)) (mode : Mode) :
    (s.Legible → Session.load after path mode =
      .ok (some { s with pending := none, mode := mode, identity := {} })) ∧
    (¬s.Legible → Session.load after path mode = .error (.malformed path)) ∧
    (Reached (fun n call => n.host.Filed ∧ n.host.PlainNames ∧ call.Tidy) s → s.Legible) := by
  obtain ⟨restored, lost⟩ := Session.load_save (reached_storable reached) saved mode
  exact ⟨restored, lost, reached_legible⟩

namespace Navigator.Sample

def shelf : FileTree where
  mount := "/home"
  nodes := [(["docs"], .directory),
    (["docs", "app.json"], .file (Text.encode
      "\x7b\"main\": \x7b\"leave\": \"link(.end)\"\x7d, \"end\": \x7b\x7d\x7d"))]

def shelved : Library := fun path =>
  if path ∈ ["/app", "/app/"] then Document.load shelf "docs" path else .error (.notFound path)

def librarian : Navigator Script := { navigator with host := Script.host.withLibrary shelved }

theorem of_shelved {path : String} {document : Document} (answer : shelved path = .ok document) :
    path ∈ ["/app", "/app/"] ∧ Document.load shelf "docs" path = .ok document := by
  unfold shelved at answer
  split at answer
  next listed => exact ⟨listed, answer⟩
  next => cases answer

theorem librarian_filed : librarian.host.Filed where
  documents answer := ⟨shelf, "docs", (of_shelved answer).2⟩
  clock _ := (by decide +kernel : Timestamp.read? Timestamp.epoch.text = some Timestamp.epoch)

theorem librarian_plainNames : librarian.host.PlainNames := by
  intro path world document block answer present
  obtain ⟨listed, loaded⟩ := of_shelved answer
  have names : ∀ path ∈ ["/app", "/app/"],
      (Document.load shelf "docs" path).toOption.map Document.blockNames = some ["main", "end"] := by
    decide +kernel
  have both := names path listed
  rw [loaded] at both
  obtain ⟨entries, named⟩ := Option.isSome_iff_exists.mp present
  have member : block ∈ document.blockNames := List.mem_map_of_mem (Document.mem_of_block? named)
  rw [Option.some.inj both] at member
  have unbroken : ∀ name ∈ ["main", "end"], name.toList.all (!Text.isBlank ·) := by decide
  simpa using unbroken block member

/-- The document is opened, left through a link and entered again. -/
def roundTrip : Course Script :=
  librarian.performAll [.start "/app", .dispatchKey "leave", .goBack] arrival

theorem reached_reloads_roundTrip :
    roundTrip.session.history.length = 3 ∧
      Session.load (roundTrip.session.save shelf "s.json").2 "s.json" .nonBlocking =
        .ok (some
          { roundTrip.session with pending := none, mode := .nonBlocking, identity := {} }) := by
  have tidy : Reached (fun n call => n.host.Filed ∧ n.host.PlainNames ∧ call.Tidy)
      roundTrip.session := by
    have fresh : Reached (fun n call => n.host.Filed ∧ n.host.PlainNames ∧ call.Tidy)
      arrival.session := .new .blocking {}
    refine fresh.run librarian fun call member => ⟨librarian_filed, librarian_plainNames, ?_⟩
    simp only [List.mem_cons, List.not_mem_nil, or_false] at member
    rcases member with rfl | rfl | rfl
    · exact (by decide : "/app".toList.getLast? ≠ some '/')
    · trivial
    · trivial
  have reached : Reached (fun n _ => n.host.Filed) roundTrip.session := by
    have fresh : Reached (fun n _ => n.host.Filed) arrival.session := .new .blocking {}
    exact fresh.run librarian fun _ _ => librarian_filed
  have saved : (roundTrip.session.save shelf "s.json").1 = none := by decide +kernel
  obtain ⟨restored, _, legible⟩ := reached_reloads reached (Prod.ext saved rfl) .nonBlocking
  exact ⟨by decide +kernel, restored (legible tidy)⟩

def slashed : Course Script := librarian.performAll [.start "/app/"] arrival

/-- Saving goes through, and the file is lost. -/
theorem slashed_not_reloaded :
    Reached (fun n _ => n.host.Filed ∧ n.host.PlainNames) slashed.session ∧
      (slashed.session.save shelf "s.json").1 = none ∧
      Session.load (slashed.session.save shelf "s.json").2 "s.json" .blocking =
        .error (.malformed "s.json") := by
  have reached : Reached (fun n _ => n.host.Filed ∧ n.host.PlainNames) slashed.session := by
    have fresh : Reached (fun n _ => n.host.Filed ∧ n.host.PlainNames) arrival.session :=
      .new .blocking {}
    exact fresh.run librarian fun _ _ => ⟨librarian_filed, librarian_plainNames⟩
  have storable : slashed.session.Storable := by
    have fresh : Reached (fun n _ => n.host.Filed) arrival.session := .new .blocking {}
    exact reached_storable (fresh.run librarian fun _ _ => librarian_filed)
  have saved : (slashed.session.save shelf "s.json").1 = none := by decide +kernel
  have opened : slashed.session.history.entries = [⟨⟨"/app/", "main"⟩, "start", .epoch⟩] := by
    decide +kernel
  have lost : ¬slashed.session.Legible := by
    intro legible
    have ends := (legible.history _ (opened ▸ List.mem_singleton_self _)).path
    exact ends (by decide)
  exact ⟨reached, saved, (Session.load_save storable (Prod.ext saved rfl) .blocking).2 lost⟩

end Navigator.Sample

end Signpost
