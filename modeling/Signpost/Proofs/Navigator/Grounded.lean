import Signpost.Proofs.Library
import Signpost.Proofs.Navigator.Coherence
import Signpost.Proofs.Navigator.Invariant

/-! A session that a library supports never points at nothing.

A location comes into a session when a document is opened, a link is followed or a menu leads to
another block, and each time the library is asked first. Anchors and steps back only repeat locations
that the session has already. So as long as the documents stay what they are, the current block can
always be had. -/

namespace Signpost

namespace Session

variable {library : Library} {s : Session}

/-- Trails, history and place name blocks of documents that the library has. -/
structure Grounded (library : Library) (s : Session) : Prop where
  trails : s.breadcrumbs.Within library.Holds
  history : ∀ entry ∈ s.history.entries, library.Holds entry.location
  place : ∀ here, s.location? = some here → library.Holds here

theorem grounded_new (mode : Mode) (identity : Identity) :
    Grounded library { Session.new mode with identity := identity } where
  trails := nofun
  history := nofun
  place := nofun

theorem grounded_iff_through : s.Grounded library ↔ s.Through library.Holds fun _ => True where
  mp grounded := ⟨grounded.trails, fun entry member => ⟨grounded.history entry member, trivial⟩,
    grounded.place⟩
  mpr through := ⟨through.trails, fun entry member => (through.history entry member).1,
    through.place⟩

end Session

namespace Navigator

open Act Session

variable {World : Type} (n : Navigator World) {library : Library} {course after : Course World}

/-! ## What is loaded -/

theorem load_ok (serves : n.host.Serves library) {path : String} {document : Document}
    (loaded : n.load path course = (.ok document, after)) : library path = .ok document := by
  obtain ⟨answer, mid, asked, rest⟩ := of_bind_ok loaded
  have answered : answer = library path := by
    cases asked
    exact serves path course.world
  rw [← answered]
  rcases answer with (_ | _) | document
  · cases rest
  · cases rest
  · cases rest
    rfl

theorem load_of_library (serves : n.host.Serves library) {path : String} {document : Document}
    (found : library path = .ok document) (course : Course World) :
    ∃ after, n.load path course = (.ok document, after) := by
  have answered : (Act.ask (n.host.load path) (fun _ => Event.loaded path) course).1 =
      .ok (.ok document) := by
    rw [← found, ← serves path course.world]
    rfl
  exact ⟨_, bind_ok (run_ok answered)⟩

theorem currentBlock_ok (serves : n.host.Serves library)
    (grounded : course.session.Grounded library) (located : course.session.location?.isSome = true) :
    ∃ entries after, n.currentBlock course = (.ok entries, after) := by
  obtain ⟨here, place⟩ := Option.isSome_iff_exists.mp located
  obtain ⟨document, had, present⟩ := grounded.place here place
  obtain ⟨entries, found⟩ := Option.isSome_iff_exists.mp present
  obtain ⟨loaded, load⟩ := n.load_of_library serves had course
  have opened : n.currentDocument course = (.ok (document, here.block), loaded) := by
    rw [n.currentDocument_of_location place, bind_ok load]
    rfl
  refine ⟨entries, loaded, ?_⟩
  unfold currentBlock
  rw [bind_ok opened]
  simp only [found]
  rfl

/-! ## Calls -/

/-- Whoever leads to a location has loaded its document. -/
theorem serves_confines (serves : n.host.Serves library) :
    n.Confines library.Holds fun _ => True where
  clock _ := trivial
  link loaded present := ⟨_, (serves _ _).symm.trans loaded, present⟩
  jump _ loaded present := ⟨_, (serves _ _).symm.trans loaded, present⟩

theorem perform_grounded (proper : library.Proper) (serves : n.host.Serves library) (call : Call)
    (course : Course World) (grounded : course.session.Grounded library) :
    (n.perform call course).2.session.Grounded library := by
  have confines := n.serves_confines serves
  have entered {path block : String} {world : World} {document : Document}
      (loaded : (n.host.load path world).1 = .ok document)
      (present : document.hasBlock block = true) : library.Holds ⟨document.path, block⟩ :=
    proper.holds ((serves path world).symm.trans loaded) present
  have through := grounded_iff_through.mp grounded
  exact grounded_iff_through.mpr
    (confines.maintains.perform (fun path _ => confines.opens entered) through)

end Navigator

/-- As long as documents are loaded from one library, whatever calls are made: every location that
the session remembers is one of the library, and the current block can be had. -/
theorem reached_grounded {library : Library} (proper : library.Proper) {s : Session}
    (reached : Reached (fun n _ => n.host.Serves library) s) :
    s.Grounded library ∧
      ∀ {World : Type} (n : Navigator World) (course : Course World), n.host.Serves library →
        course.session = s → s.location?.isSome = true →
          ∃ entries after, n.currentBlock course = (.ok entries, after) := by
  have grounded : s.Grounded library := by
    induction reached with
    | new mode identity => exact Session.grounded_new mode identity
    | call n course call _ serves ih => exact n.perform_grounded proper serves call course ih
  refine ⟨grounded, fun n course serves same located => ?_⟩
  subst same
  exact n.currentBlock_ok serves grounded located

namespace Navigator.Sample

def library : Library := fun path =>
  if path = document.path then .ok document else .error (.notFound path)

theorem library_proper : library.Proper := by
  intro path other found
  unfold library at found
  split at found
  next same =>
    cases found
    exact ⟨.obj (document.blocks.map fun entry => (entry.1, .obj entry.2)), same ▸ rfl⟩
  next => cases found

def reader : Navigator Script := { navigator with host := Script.host.withLibrary library }

def excursion : List Call := [.start "/app", .dispatchKey "trip", .goBack]

theorem reached_grounded_excursion :
    (reader.performAll excursion arrival).session.location? = some ⟨"/app", "main"⟩ ∧
      (reader.performAll excursion arrival).session.Grounded library ∧
      ∃ entries after, reader.currentBlock (reader.performAll excursion arrival) =
        (.ok entries, after) := by
  have serves : reader.host.Serves library := Script.host.withLibrary_serves library
  have fresh : Reached (fun n _ => n.host.Serves library) arrival.session := .new .blocking {}
  have reached : Reached (fun n _ => n.host.Serves library)
      (reader.performAll excursion arrival).session :=
    fresh.run reader fun _ _ => serves
  have located : (reader.performAll excursion arrival).session.location? =
      some ⟨"/app", "main"⟩ := by decide +kernel
  have somewhere : (reader.performAll excursion arrival).session.location?.isSome = true :=
    Option.isSome_of_eq_some located
  obtain ⟨grounded, readable⟩ := reached_grounded library_proper reached
  exact ⟨located, grounded, readable reader _ serves rfl somewhere⟩

end Navigator.Sample

end Signpost
