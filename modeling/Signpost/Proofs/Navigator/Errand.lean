import Signpost.Navigator.Walk
import Signpost.Proofs.Navigator.Call
import Signpost.Proofs.Navigator.Charter
import Signpost.Proofs.Navigator.Refusal

/-! Errands: calls of a client, and walks from block to block.

A walk dispatches the keys of one block after the other, steps back where a block is done, and goes
on after most refusals. A charter under which refusals may be passed over holds of whole walks, and
so of every errand. -/

namespace Signpost

inductive Errand where
  | call (call : Call)
  | walk (path : Option String) (limit : Nat)

/-- Enough is known of what a client hands over to be launched. Everything else is found in a document
or is pending. -/
def Premises.Admits (known : Premises) : Errand → Prop
  | .call (.dispatch key value) => known.entry key value
  | .call (.launch command) => known.Fits command
  | .call (.start _) | .call (.dispatchKey _) | .call (.resume _) | .call .goBack | .walk .. => True

theorem Premises.nothing_admits (errand : Errand) : nothing.Admits errand := by
  rcases errand with (_ | _ | _ | _ | _ | _) | _ <;>
    first | trivial | exact fun _ _ _ _ => trivial

namespace Navigator

variable {World : Type} (n : Navigator World)

/-- Runs an errand. A walk that a refused act has ended is refused itself. -/
def pursue : Errand → Act World Unit
  | .call call => n.perform call >>= fun _ => pure ()
  | .walk path limit => n.walk path limit >>= fun ended =>
      match ended with
      | .ok _ => pure ()
      | .error error =>
          match error.cause? with
          | some cause => Act.refuse cause
          | none => pure ()

def pursueAll : List Errand → Course World → Course World
  | [], course => course
  | errand :: errands, course => pursueAll errands (n.pursue errand course).2

end Navigator

namespace Charter

variable {World : Type}

/-- Some act that is refused with this error is within the charter. -/
def Tolerates (charter : Charter World) (error : DispatchError) : Prop :=
  ∃ course after, charter.halts course (.refused error) after

def Blames (charter : Charter World) (error : Navigator.WalkError) : Prop :=
  ∀ cause, error.cause? = some cause → charter.Tolerates cause

end Charter

/-- What a charter needs besides to hold of every call. -/
structure Charter.Full {World : Type} (n : Navigator World) (known : Premises)
    (charter : Charter World) : Prop extends charter.Fair n known where
  opened : ∀ {course : Course World} path block, known.session course.session →
    known.session ((course.session.clearPending.enterScope path).relocate ⟨path, block⟩ "start"
      (n.host.now course.world)) ∧
    charter.passes course { course with
      session := (course.session.clearPending.enterScope path).relocate ⟨path, block⟩ "start"
        (n.host.now course.world) }
  back : n.goBack.Honours known charter fun _ => True

/-- What a charter needs besides to hold of walks. -/
structure Charter.Roams {World : Type} (n : Navigator World) (known : Premises)
    (charter : Charter World) : Prop extends charter.Full n known where
  /-- Something else may follow where an act has halted. -/
  absorbed : ∀ {course halt after}, charter.halts course halt after → charter.passes course after
  /-- A walk may also end with a refusal. -/
  blamed : ∀ {course error after}, charter.passes course after → charter.Tolerates error →
    charter.halts course (.refused error) after
  noted : ∀ {step} course, (∀ error, step.result = .error error → charter.Tolerates error) →
    charter.passes course { course with log := .stepped step :: course.log }

namespace Charter.Full

open Act

variable {World : Type} {n : Navigator World} {known : Premises} {charter : Charter World}
  (full : charter.Full n known)

include full

theorem start (path : String) : (n.start path).Honours known charter fun _ => True := by
  refine .bind full.toFair (full.load path) fun document _ => ?_
  split
  next => exact .refuse full.toFair (.blockNotFound _ _)
  next block _ =>
    intro course here
    obtain ⟨there, passed⟩ := full.opened document.path block here
    exact ⟨there, trivial, passed⟩

theorem perform {call : Call} (admitted : known.Admits (.call call)) :
    (n.perform call).Honours known charter fun _ => True := by
  have law := full.law
  cases call with
  | start path => exact .bind full.toFair (full.start path) fun _ _ => law.pure _
  | dispatch key value => exact law.dispatch key value admitted
  | dispatchKey key => exact law.dispatchKey key
  | launch command => exact law.launch admitted
  | resume line => exact law.resume line
  | goBack => exact full.back

end Charter.Full

namespace Charter.Roams

open Act Navigator

variable {World α : Type} {n : Navigator World} {known : Premises} {charter : Charter World}
  (roams : charter.Roams n known)

include roams

theorem attempt {act : Act World α} {kind : α → Prop} (honours : act.Honours known charter kind) :
    (Act.attempt act).Honours known charter fun result =>
      (∀ a, result = .ok a → kind a) ∧ ∀ error, result = .error error → charter.Tolerates error := by
  intro course here
  unfold Act.attempt
  rcases ran : act course with ⟨(error | _) | a, after⟩
  · obtain ⟨there, halted⟩ := honours.of_error ran here
    refine ⟨there, ⟨nofun, fun other same => ?_⟩, roams.absorbed halted⟩
    cases same
    exact ⟨course, after, halted⟩
  · exact honours.of_error ran here
  · obtain ⟨there, found, passed⟩ := honours.of_ok ran here
    refine ⟨there, ⟨fun other same => ?_, nofun⟩, passed⟩
    cases same
    exact found

theorem currentBlock : n.currentBlock.Honours known charter fun entries =>
    ∀ entry ∈ entries, known.entry entry.1 entry.2 := by
  have law := roams.law
  refine .bind roams.toFair (law.currentDocument.yielding law.currentDocument_yields) ?_
  rintro ⟨document, block⟩ ⟨path, loaded⟩
  dsimp only
  split
  next entries named =>
    exact .pure roams.toFair fun entry member => known.entry_of_block loaded named member
  next => exact .refuse roams.toFair (.blockNotFound _ _)

theorem walkBlock (limit : Nat) (location : Location) (steps : Nat) {entries : Block}
    (each : ∀ entry ∈ entries, known.entry entry.1 entry.2) :
    (n.walkBlock limit location steps entries).Honours known charter fun turn =>
      ∀ error, turn = .failed error → charter.Blames error := by
  induction entries generalizing steps with
  | nil => exact .pure roams.toFair nofun
  | cons entry rest ih =>
    obtain ⟨key, command⟩ := entry
    have law := roams.law
    have go (steps : Nat) := ih steps fun entry member => each entry (List.mem_cons_of_mem _ member)
    unfold Navigator.walkBlock
    split
    · exact .pure roams.toFair nofun
    · have dispatched := law.dispatch key command (each _ List.mem_cons_self)
      refine .bind roams.toFair (roams.attempt dispatched) fun result ⟨_, tolerated⟩ => ?_
      have noted : (Act.note (.stepped ⟨key, location, result⟩) : Act World Unit).Honours known
          charter fun _ => True :=
        fun course here => ⟨here, trivial, roams.noted course tolerated⟩
      refine .bind roams.toFair noted fun _ _ => ?_
      cases result with
      | error error =>
        dsimp only
        split
        · exact .bind roams.toFair (law.display _) fun _ _ => go _
        · refine .pure roams.toFair fun other same cause blamed => ?_
          cases same
          cases blamed
          exact tolerated error rfl
      | ok outcome =>
        cases outcome with
        | empty | pending => exact go _
        | done | failed => exact .bind roams.toFair (law.display _) fun _ _ => go _
        | relocated | back | abort => exact .pure roams.toFair nofun

theorem walkFrom (limit visits steps : Nat) :
    (n.walkFrom limit visits steps).Honours known charter fun ended =>
      ∀ error, ended = .error error → charter.Blames error := by
  have fair := roams.toFair
  -- the induction is on the visits: a block without keys is left without a step
  induction visits generalizing steps with
  | zero => exact .foreseen fair (fun _ => rfl) .exhausted
  | succ visits ih =>
    refine .session fun s _ => ?_
    split
    next =>
      refine .pure fair fun error same => ?_
      cases same
      nofun
    next location _ =>
      refine .bind fair (roams.attempt roams.currentBlock) fun found ⟨each, tolerated⟩ => ?_
      cases found with
      | error error =>
        refine .pure fair fun other same cause blamed => ?_
        cases same
        cases blamed
        exact tolerated error rfl
      | ok entries =>
        have walked := roams.walkBlock limit location steps (each entries rfl)
        refine .bind fair walked fun turn known => ?_
        cases turn with
        | enter steps => exact ih steps
        | leave steps =>
          refine .bind fair roams.back fun outcome _ => ?_
          split
          · exact ih steps
          · exact .pure fair nofun
        | stop => exact .pure fair nofun
        | failed error =>
          refine .pure fair fun other same => ?_
          cases same
          exact known error rfl

theorem walk (path : Option String) (limit : Nat) :
    (n.walk path limit).Honours known charter fun ended =>
      ∀ error, ended = .error error → charter.Blames error := by
  cases path with
  | none => exact roams.walkFrom limit _ 0
  | some path =>
    refine .bind roams.toFair (roams.attempt (roams.start path)) fun started ⟨_, tolerated⟩ => ?_
    cases started with
    | error error =>
      refine .pure roams.toFair fun other same cause blamed => ?_
      cases same
      cases blamed
      exact tolerated error rfl
    | ok => exact roams.walkFrom limit _ 0

theorem pursue {errand : Errand} (admitted : known.Admits errand) :
    (n.pursue errand).Honours known charter fun _ => True := by
  have law := roams.law
  cases errand with
  | call call => exact .bind roams.toFair (roams.perform admitted) fun _ _ => law.pure _
  | walk path limit =>
    refine .bind roams.toFair (roams.walk path limit) fun ended known => ?_
    cases ended with
    | ok => exact law.pure _
    | error error =>
      dsimp only
      split
      next cause blamed =>
        have tolerated := known error rfl cause blamed
        exact fun course here => ⟨here, roams.blamed (roams.refl course) tolerated⟩
      next => exact law.pure _

theorem after_pursue {errand : Errand} (admitted : known.Admits errand) {course : Course World}
    (here : known.session course.session) :
    known.session (n.pursue errand course).2.session ∧
      charter.passes course (n.pursue errand course).2 := by
  have honours := roams.pursue admitted
  rcases ran : n.pursue errand course with ⟨halt | _, after⟩
  · exact (honours.of_error ran here).imp_right roams.absorbed
  · exact (honours.of_ok ran here).imp_right And.right

theorem after_pursueAll {errands : List Errand} (admitted : ∀ errand ∈ errands, known.Admits errand)
    {course : Course World} (here : known.session course.session) :
    known.session (n.pursueAll errands course).session ∧
      charter.passes course (n.pursueAll errands course) := by
  induction errands generalizing course with
  | nil => exact ⟨here, roams.refl course⟩
  | cons errand errands ih =>
    obtain ⟨there, passed⟩ := roams.after_pursue (admitted errand List.mem_cons_self) here
    obtain ⟨last, onwards⟩ :=
      ih (fun other later => admitted other (List.mem_cons_of_mem errand later)) there
    exact ⟨last, roams.trans passed onwards⟩

end Charter.Roams

end Signpost
