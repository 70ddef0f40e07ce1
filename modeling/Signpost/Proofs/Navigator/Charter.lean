import Signpost.Proofs.Navigator.Law

/-! Charters of navigation.

A charter says what an act may have left behind when it goes through, and what when it halts. Where a
charter is fair it is enough to look at the single requests, at the moves and at the changes of
pending input: launches, dispatches and answers then honour it as a whole. -/

namespace Signpost

/-- What an act may make of a course when it goes through, and when it halts. -/
structure Charter (World : Type) where
  passes : Course World → Course World → Prop
  halts : Course World → Halt → Course World → Prop

/-- The requests that neither ask for a permission nor report on a walk. -/
def Event.isExchange : Event → Bool
  | loaded _ | talked _ | invoked .. => true
  | checked .. | stepped _ => false

/-- The halts for which nothing but a document has to be asked for. -/
inductive Premises.Foreseen (known : Premises) : Halt → Prop where
  | exhausted : Foreseen known .exhausted
  | noDocument : Foreseen known (.refused .noDocument)
  | unloaded (error : LoadError) : Foreseen known (.refused error.refusal)
  | blockNotFound (path block : String) : Foreseen known (.refused (.blockNotFound path block))
  | keyNotFound (block key : String) : Foreseen known (.refused (.keyNotFound block key))
  | misread (key : String) {error : CommandError} : known.Misread error →
      Foreseen known (.refused (.configuration key error.message))

namespace Charter

variable {World α β : Type}

/-- An act that ended like this was within the charter, and its result is of this kind. -/
def Covers (charter : Charter World) (kind : α → Prop) (course : Course World) :
    Except Halt α → Course World → Prop
  | .ok a, after => kind a ∧ charter.passes course after
  | .error halt, after => charter.halts course halt after

end Charter

/-- From wherever enough is known, the act stays within the charter, and as much is known
afterwards. -/
def Act.Honours {World α : Type} (known : Premises) (charter : Charter World) (kind : α → Prop)
    (act : Act World α) : Prop :=
  ∀ course, known.session course.session → known.session (act course).2.session ∧
    charter.Covers kind course (act course).1 (act course).2

/-- What a charter needs so that acts may be put together under it, and what it has to say of their
parts. -/
structure Charter.Fair {World : Type} (n : Navigator World) (known : Premises)
    (charter : Charter World) : Prop where
  refl : ∀ course, charter.passes course course
  trans : ∀ {course mid after}, charter.passes course mid → charter.passes mid after →
    charter.passes course after
  after : ∀ {course mid halt after}, charter.passes course mid → charter.halts mid halt after →
    charter.halts course halt after
  foreseen : ∀ {halt} course, known.Foreseen halt → charter.halts course halt course
  /-- Undoing the changes of a session does not break the charter. -/
  restored : ∀ {course halt after}, charter.halts course halt after →
    charter.halts course halt { after with session := course.session }
  kept : ∀ {course halt after pending}, charter.halts course halt after →
    charter.halts course halt { after with session := after.session.setPending pending }
  asked : ∀ event course world, event.isExchange = true →
    charter.passes course { course with world := world, log := event :: course.log }
  changed : ∀ {course s}, course.session.Lingers s → charter.passes course { course with session := s }
  loads : ∀ path, (n.load path).Yields (known.document path)
  cleared : ∀ {s}, known.session s → known.session s.clearPending
  anchored : ∀ {s}, known.session s → known.session s.checkpoint.2
  pended : ∀ {s pending}, known.session s → known.Waits pending →
    known.session (s.setPending pending)
  followLink : ∀ written, (n.followLink written).Honours known charter fun _ => True
  jump : ∀ {s location document block}, known.session s → s.location? = some location →
    known.document location.path document → document.hasBlock block = true →
      (n.relocate ⟨location.path, block⟩ "jump").Honours known charter fun _ => True

namespace Act.Honours

variable {World α β : Type} {n : Navigator World} {known : Premises} {charter : Charter World}
  {act : Act World α} {next : α → Act World β} {kind : α → Prop} {other : β → Prop}

theorem of_ok (honours : act.Honours known charter kind) {course after : Course World} {a : α}
    (ran : act course = (.ok a, after)) (here : known.session course.session) :
    known.session after.session ∧ kind a ∧ charter.passes course after := by
  have covered := honours course here
  rwa [ran] at covered

theorem of_error (honours : act.Honours known charter kind) {course after : Course World}
    {halt : Halt} (halted : act course = (.error halt, after))
    (here : known.session course.session) :
    known.session after.session ∧ charter.halts course halt after := by
  have covered := honours course here
  rwa [halted] at covered

theorem yielding {other : α → Prop} (honours : act.Honours known charter kind)
    (yields : act.Yields other) : act.Honours known charter other := by
  intro course here
  rcases ran : act course with ⟨halt | a, after⟩
  · exact honours.of_error ran here
  · obtain ⟨there, _, passed⟩ := honours.of_ok ran here
    exact ⟨there, yields.of_run ran, passed⟩

theorem session {next : Session → Act World β}
    (rest : ∀ s, known.session s → (next s).Honours known charter other) :
    (Act.session >>= next).Honours known charter other :=
  fun course here => rest course.session here course here

variable (fair : charter.Fair n known)

include fair

theorem pure {a : α} (here : kind a) : (pure a : Act World α).Honours known charter kind :=
  fun course there => ⟨there, here, fair.refl course⟩

theorem bind (first : act.Honours known charter kind)
    (rest : ∀ a, kind a → (next a).Honours known charter other) :
    (act >>= next).Honours known charter other := by
  intro course here
  rcases ran : act course with ⟨halt | a, mid⟩
  · rw [bind_error ran]
    exact first.of_error ran here
  · rw [bind_ok ran]
    obtain ⟨there, found, passed⟩ := first.of_ok ran here
    obtain ⟨after, covered⟩ := rest a found mid there
    rcases ended : next a mid with ⟨halt | b, last⟩
    · rw [ended] at after covered
      exact ⟨after, fair.after passed covered⟩
    · rw [ended] at after covered
      exact ⟨after, covered.1, fair.trans passed covered.2⟩

theorem foreseen {halt : Halt} (halts : ∀ course, act course = (.error halt, course))
    (expected : known.Foreseen halt) : act.Honours known charter kind := by
  intro course there
  rw [halts course]
  exact ⟨there, fair.foreseen course expected⟩

theorem refuse {error : DispatchError} (expected : known.Foreseen (.refused error)) :
    (Act.refuse error : Act World α).Honours known charter kind :=
  foreseen fair (fun _ => rfl) expected

theorem ask (request : StateM World α) {event : α → Event} (exchange : ∀ a, (event a).isExchange) :
    (Act.ask request event).Honours known charter fun _ => True :=
  fun course there => ⟨there, trivial, fair.asked _ course _ (exchange _)⟩

theorem modifySession {change : Session → Session}
    (lingers : ∀ s, Session.Lingers s (change s))
    (kept : ∀ s, known.session s → known.session (change s)) :
    (Act.modifySession change : Act World Unit).Honours known charter fun _ => True :=
  fun _ there => ⟨kept _ there, trivial, fair.changed (lingers _)⟩

theorem restoring (honours : act.Honours known charter kind) :
    (Act.restoring act).Honours known charter kind := by
  intro course here
  rcases ran : act course with ⟨halt | a, after⟩
  · rw [error_restoring ran]
    exact ⟨here, fair.restored (honours.of_error ran here).2⟩
  · rw [ok_restoring ran]
    exact honours.of_ok ran here

theorem keepingPending {act : Act World Outcome} {kind : Outcome → Prop} {pending : Pending}
    (waits : known.Waits pending) (honours : act.Honours known charter kind) :
    (Navigator.keepingPending pending act).Honours known charter kind := by
  intro course here
  unfold Navigator.keepingPending
  rcases ran : act course with ⟨halt | outcome, after⟩
  · obtain ⟨there, halted⟩ := honours.of_error ran here
    exact ⟨fair.pended there waits, fair.kept halted⟩
  · exact honours.of_ok ran here

end Act.Honours

namespace Charter.Fair

open Act

variable {World : Type} {n : Navigator World} {known : Premises} {charter : Charter World}
  (fair : charter.Fair n known)

include fair

theorem load (path : String) : (n.load path).Honours known charter (known.document path) := by
  have honours : (n.load path).Honours known charter fun _ => True := by
    intro course here
    have passed := fair.asked (.loaded path) course (n.host.load path course.world).2 rfl
    rw [n.load_run]
    refine ⟨here, ?_⟩
    cases (n.host.load path course.world).1 with
    | error error => exact fair.after passed (fair.foreseen _ (.unloaded error))
    | ok document => exact ⟨trivial, passed⟩
  exact honours.yielding (fair.loads path)

/-- Looking at the current document asks for nothing but this document, also if it cannot be had. -/
theorem attempt : (Act.attempt n.currentDocument).Honours known charter fun _ => True := by
  intro course here
  cases located : course.session.location? with
  | none =>
    simp only [Act.attempt, n.currentDocument_of_nowhere located]
    exact ⟨here, trivial, fair.refl course⟩
  | some location =>
    have passed := fair.asked (.loaded location.path) course
      (n.host.load location.path course.world).2 rfl
    have loaded := n.load_run location.path course
    have found := n.currentDocument_of_location located
    cases answer : (n.host.load location.path course.world).1 with
    | error error =>
      rw [answer] at loaded
      rw [bind_error loaded] at found
      simp only [Act.attempt, found]
      exact ⟨here, trivial, passed⟩
    | ok document =>
      rw [answer] at loaded
      rw [bind_ok loaded] at found
      simp only [Act.attempt, found]
      exact ⟨here, trivial, passed⟩

theorem law : Law n known fun _ act => act.Honours known charter fun _ => True where
  pure _ := .pure fair trivial
  exhaust := .foreseen fair (fun _ => rfl) .exhausted
  bind first yields rest := .bind fair (first.yielding yields) rest
  session := .session
  attempt := fair.attempt
  restoring := .restoring fair
  keepingPending := .keepingPending fair
  noDocument := .refuse fair .noDocument
  keyNotFound block key := .refuse fair (.keyNotFound block key)
  misread key _ misread := .refuse fair (.misread key misread)
  load path := .yielding (fair.load path) fun _ _ _ => trivial
  loads := fair.loads
  request _ :=
    .session fun _ _ => .bind fair (.ask fair _ fun _ => rfl) fun _ _ => .pure fair trivial
  render _ := .ask fair _ fun _ => rfl
  display _ := .ask fair _ fun _ => rfl
  prompt _ := .ask fair _ fun _ => rfl
  followLink := fair.followLink
  jump := fair.jump
  clear := .modifySession fair (fun s => Session.lingers_waiting.pending s none) fun _ => fair.cleared
  anchor := .modifySession fair Session.lingers_checkpoint fun _ => fair.anchored
  pend waits := .modifySession fair (fun s => Session.lingers_waiting.pending s _) fun _ here =>
    fair.pended here waits

end Charter.Fair

end Signpost
