import Signpost.Proofs.Navigator.Call
import Signpost.Proofs.Navigator.Charter
import Signpost.Proofs.Navigator.Following
import Signpost.Proofs.Navigator.Refusal
import Signpost.Proofs.Session.Through

/-! Invariants of sessions.

What calls do to a session are moves, anchors, steps back and changes of pending input. A location comes
in when a document is opened, a link is followed or a menu leads to another block, and each time the
document has been loaded and has the block. So whatever these few changes keep is kept by every call. -/

namespace Signpost

variable {World : Type}

/-- Acts may do anything as long as enough is known of the session afterwards. -/
def Charter.anything (World : Type) : Charter World where
  passes _ _ := True
  halts _ _ _ := True

namespace Navigator

open Act

variable {n : Navigator World} {invariant : Session → Prop}

/-- Each change that a navigation makes to a session keeps the invariant. -/
structure Maintains (n : Navigator World) (invariant : Session → Prop) : Prop where
  pending : ∀ {s} pending, invariant s → invariant { s with pending := pending }
  checkpoint : ∀ {s}, invariant s → invariant s.checkpoint.2
  stepBack : ∀ {s} now, invariant s → invariant (s.stepBack (n.host.now now)).2
  link : ∀ {s target current document block asked} context now, invariant s →
    (n.host.load (Reference.resolve current target) asked).1 = .ok document →
      document.hasBlock block = true →
        invariant (s.relocate ⟨target.resolve current, block⟩ context (n.host.now now))
  jump : ∀ {s s' here document block asked} now, invariant s → invariant s' →
    s.location? = some here → (n.host.load here.path asked).1 = .ok document →
      document.hasBlock block = true →
        invariant (s'.relocate ⟨here.path, block⟩ "jump" (n.host.now now))

def Opens (n : Navigator World) (invariant : Session → Prop) (path : String) : Prop :=
  ∀ {s document block asked} now, invariant s → (n.host.load path asked).1 = .ok document →
    document.hasBlock block = true →
      invariant ((s.clearPending.enterScope document.path).relocate ⟨document.path, block⟩ "start"
        (n.host.now now))

theorem load_answers {path : String} {document : Document} {course after : Course World}
    (loaded : n.load path course = (.ok document, after)) :
    (n.host.load path course.world).1 = .ok document := by
  rw [n.load_run] at loaded
  cases answer : (n.host.load path course.world).1 with
  | error => rw [answer] at loaded; cases loaded
  | ok => rw [answer] at loaded; cases loaded; rfl

theorem start_maintains {path : String} (opens : n.Opens invariant path) {course : Course World}
    (here : invariant course.session) : invariant (n.start path course).2.session := by
  rcases started : n.start path course with ⟨halt | location, after⟩
  · rw [n.start_undone path started]
    exact here
  · obtain ⟨document, loaded, block, load, entrance, rfl, same⟩ := n.start_ok started
    change invariant after.session
    rw [same]
    exact opens _ here (load_answers load) (Document.hasBlock_of_defaultBlock entrance)

namespace Maintains

variable (maintains : n.Maintains invariant)

include maintains

theorem fair : (Charter.anything World).Fair n
    { session := invariant
      document := fun path document => ∃ world, (n.host.load path world).1 = .ok document } where
  refl _ := trivial
  trans _ _ := trivial
  after _ _ := trivial
  foreseen _ _ := trivial
  restored _ := trivial
  kept _ := trivial
  asked _ _ _ _ := trivial
  changed _ := trivial
  loads _ course _ loaded := ⟨course.world, load_answers (run_ok loaded)⟩
  cleared here := maintains.pending none here
  anchored := maintains.checkpoint
  pended here _ := maintains.pending _ here
  followLink written := by
    intro course here
    have still (permission : Option String) :
        invariant (n.checking permission course).session := by
      rwa [checking_session]
    rcases ran : n.followLink written course with ⟨result, after⟩
    cases n.of_followLink ran with
    | unreadable => exact ⟨here, trivial⟩
    | denied => exact ⟨still _, trivial⟩
    | unloaded => exact ⟨still _, trivial⟩
    | closed => exact ⟨still _, trivial⟩
    | arrived read granted resolved answer entered =>
      subst resolved
      have present := hasBlock_of_entrance entered
      exact ⟨maintains.link _ _ (still _) answer present, trivial, trivial⟩
  jump known located := fun ⟨_, loaded⟩ present _ here =>
    ⟨maintains.jump _ known here located loaded present, trivial, trivial⟩

theorem perform {call : Call} (opens : ∀ path, call = .start path → n.Opens invariant path)
    {course : Course World} (here : invariant course.session) :
    invariant (n.perform call course).2.session := by
  have law := maintains.fair.law
  cases call with
  | start path =>
    rw [perform_start]
    exact start_maintains (opens path rfl) here
  | dispatch key value => exact (law.dispatch key value trivial course here).1
  | dispatchKey key => exact (law.dispatchKey key course here).1
  | launch command => exact (law.launch (fun _ _ _ _ => trivial) course here).1
  | resume line => exact (law.resume line course here).1
  | goBack => exact maintains.stepBack _ (maintains.pending none here)

end Maintains

/-! ## Locations of one kind -/

section Kinds

variable {kind : Location → Prop} {moment : Timestamp → Prop}

/-- Links and jumps lead to locations of this kind, at moments of this kind. -/
structure Confines (n : Navigator World) (kind : Location → Prop) (moment : Timestamp → Prop) :
    Prop where
  clock : ∀ world, moment (n.host.now world)
  link : ∀ {target current document block world},
    (n.host.load (Reference.resolve current target) world).1 = .ok document →
      document.hasBlock block = true → kind ⟨target.resolve current, block⟩
  jump : ∀ {here document block world}, kind here →
    (n.host.load here.path world).1 = .ok document → document.hasBlock block = true →
      kind ⟨here.path, block⟩

theorem Confines.maintains (confines : n.Confines kind moment) :
    n.Maintains (Session.Through kind moment) where
  pending _ through := through.pending _
  checkpoint through := through.checkpoint
  stepBack _ through := through.stepBack (confines.clock _)
  link _ _ through loaded present :=
    through.relocate (confines.link loaded present) (confines.clock _) _
  jump _ known through located loaded present :=
    through.relocate (confines.jump (known.place _ located) loaded present) (confines.clock _) _

theorem Confines.opens (confines : n.Confines kind moment) {path : String}
    (entered : ∀ {document block world}, (n.host.load path world).1 = .ok document →
      document.hasBlock block = true → kind ⟨document.path, block⟩) :
    n.Opens (Session.Through kind moment) path := fun _ through loaded present =>
  ((through.pending none).enterScope _).relocate (entered loaded present) (confines.clock _) _

end Kinds

end Navigator

end Signpost
