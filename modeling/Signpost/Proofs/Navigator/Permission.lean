import Signpost.Collaborators
import Signpost.Proofs.Authorizer
import Signpost.Proofs.History
import Signpost.Proofs.Link
import Signpost.Proofs.Navigator.Errand
import Signpost.Proofs.Navigator.Following
import Signpost.Proofs.Navigator.Resumption

/-! Links are followed only where their permission is granted.

A link is reached as a command, as an element of a sequence, as the target of a menu item or when a
pending retry is launched again, and everywhere it asks for its permission first. A denied permission
ends the whole call at once. Conversely a move that is recorded as a link goes back to a permission
that has been granted to the very same identity, just before the document was loaded. -/

namespace Signpost

def Course.signedIn {World : Type} (identity : Identity) (course : Course World) : Course World :=
  { course with session := { course.session with identity := identity } }

namespace Navigator

open Act

variable {World : Type} (n : Navigator World) {written predicate : String} {link : Link}
  {course : Course World}

/-! ## Where a link is reached -/

/-- The identity of the session lacks the permission. -/
def Denies (predicate : String) (course : Course World) : Prop :=
  (n.host.check predicate course.session.identity course.world).1 = false

/-- The act is refused for want of the permission. Nothing has happened but the question for it. -/
def denial {α : Type} (link : Link) (predicate : String) (reached : Course World) :
    Except Halt α × Course World :=
  (.error (.refused (.permissionDenied (link.resolve (reached.session.path.getD "/")) predicate)),
    n.checking (some predicate) reached)

/-- Wherever the link is reached without the permission, it is refused. -/
structure Gates (written : String) (link : Link) (predicate : String) : Prop where
  follow : ∀ {course}, n.Denies predicate course →
    n.followLink written course = n.denial link predicate course
  command : ∀ {nested key followUp course}, n.Denies predicate course →
    n.launchWith nested key followUp (.link written) course = n.denial link predicate course
  element : ∀ {nested key index value course}, Command.classify value = .ok (.link written) →
    n.Denies predicate course →
    n.launchElement nested key index value course = n.denial link predicate course
  /-- A target that is neither a key nor a block is launched after a look into the document. -/
  target : ∀ {nested item location document course}, item.back = false →
    Command.classify (.str item.target) = .ok (.link written) →
    course.session.location? = some location →
    (n.host.load location.path course.world).1 = .ok document →
    document.lookupKey? location.block item.target = none → document.hasBlock item.target = false →
    n.Denies predicate (n.loading location.path course) →
    n.launchItem nested item course = n.denial link predicate (n.loading location.path course)
  targetNowhere : ∀ {nested item course}, item.back = false →
    Command.classify (.str item.target) = .ok (.link written) → course.session.location? = none →
    n.Denies predicate course →
    n.launchItem nested item course = n.denial link predicate course
  retry : ∀ {line pending course}, course.session.pending = some (.retry pending) →
    pending.command = .link written → n.Denies predicate course →
    n.resume line course = n.denial link predicate course

theorem launchSimple_link_denied (read : Link.read written = .ok link)
    (asks : link.permission = some predicate) (denies : n.Denies predicate course) :
    n.launchSimple (.link written) course = n.denial link predicate course :=
  bind_error (followLink_denied read asks denies)

theorem launchItem_link {nested : String → Value → Act World Outcome} {item : Menu.Item}
    (inside : item.back = false) (command : Command.classify (.str item.target) = .ok (.link written))
    {location : Location} {document : Document} (located : course.session.location? = some location)
    (answer : (n.host.load location.path course.world).1 = .ok document)
    (noKey : document.lookupKey? location.block item.target = none)
    (noBlock : document.hasBlock item.target = false) :
    n.launchItem nested item course =
      n.launchSimple (.link written) (n.loading location.path course) := by
  have loaded := n.load_run location.path course
  rw [answer] at loaded
  unfold launchItem
  simp only [inside, command, Bool.false_eq_true, ↓reduceIte]
  rw [bind_ok session_run, located]
  refine (bind_ok loaded).trans ?_
  simp only [noKey, noBlock, Bool.false_eq_true, ↓reduceIte]
  rfl

theorem launchItem_link_of_nowhere {nested : String → Value → Act World Outcome} {item : Menu.Item}
    (inside : item.back = false) (command : Command.classify (.str item.target) = .ok (.link written))
    (nowhere : course.session.location? = none) :
    n.launchItem nested item course = n.launchSimple (.link written) course := by
  unfold launchItem
  simp only [inside, command, Bool.false_eq_true, ↓reduceIte]
  rw [bind_ok session_run, nowhere]

theorem resume_of_retry_error {pending : PendingRetry} {line : String}
    (waits : course.session.pending = some (.retry pending)) {halt : Halt} {mid : Course World}
    (launched : n.launchWith n.dispatch pending.key pending.followUp pending.command course.unasked =
      (.error halt, mid)) :
    n.resume line course = (.error halt, { mid with session := course.session }) := by
  have restored : Act.restoring
      (n.launchWith n.dispatch pending.key pending.followUp pending.command) course.unasked =
        (.error halt, { mid with session := course.unasked.session }) := by
    unfold Act.restoring
    rw [launched]
  have same : course.session.clearPending.setPending (.retry pending) = course.session := by
    rw [Session.setPending, ← waits]
    rfl
  rw [resume_eq, waits]
  refine (bind_error (keepingPending_error restored)).trans ?_
  unfold Course.pend Course.unasked
  rw [same]

theorem gates (read : Link.read written = .ok link) (asks : Link.AsksFor written predicate) :
    n.Gates written link predicate := by
  have asks := (Link.permission_iff_asksFor read predicate).mpr asks
  have launched {course : Course World} (denies : n.Denies predicate course) :=
    n.launchSimple_link_denied read asks denies
  exact {
    follow := followLink_denied read asks
    command := launched
    element := fun {nested key index value course} command denies => by
      have leaf : ∀ items, value ≠ .arr items := by
        rintro (_ | _) rfl <;> cases command
      rw [n.launchElement_of_ok leaf command]
      exact launched denies
    target := fun inside command located answer noKey noBlock denies =>
      (n.launchItem_link inside command located answer noKey noBlock).trans (launched denies)
    targetNowhere := fun inside command nowhere denies =>
      (n.launchItem_link_of_nowhere inside command nowhere).trans (launched denies)
    retry := fun {line pending course} waits command denies => by
      have launched : n.launchWith n.dispatch pending.key pending.followUp pending.command
          course.unasked = n.denial link predicate course.unasked := by
        rw [command]
        exact launched denies
      exact n.resume_of_retry_error waits launched }

end Navigator

/-! ## A denied permission is the last word -/

namespace Course

variable {World : Type} {course mid after : Course World} {halt : Halt}

/-- Meanwhile no permission has been denied. -/
def Unbarred (course after : Course World) : Prop :=
  ∃ new, after.log = new ++ course.log ∧ ∀ predicate, .checked predicate false ∉ new

/-- The halt is a refusal for want of a permission. That it was denied is the last event, and no
other was denied before. -/
def Barred (course : Course World) (halt : Halt) (after : Course World) : Prop :=
  ∃ target predicate mid, course.Unbarred mid ∧
    halt = .refused (.permissionDenied target predicate) ∧
    after.log = .checked predicate false :: mid.log

theorem Unbarred.of_log (same : after.log = course.log) : course.Unbarred after :=
  ⟨[], same, nofun⟩

theorem Unbarred.of_event {event : Event} (logged : after.log = event :: course.log)
    (granted : ∀ predicate, event ≠ .checked predicate false) : course.Unbarred after :=
  ⟨[event], logged, fun predicate member => granted predicate (List.mem_singleton.mp member).symm⟩

theorem Unbarred.trans (first : course.Unbarred mid) (second : mid.Unbarred after) :
    course.Unbarred after := by
  obtain ⟨earlier, began, clear⟩ := first
  obtain ⟨later, ended, clear'⟩ := second
  refine ⟨later ++ earlier, by rw [ended, began, List.append_assoc], fun predicate member => ?_⟩
  rcases List.mem_append.mp member with late | early
  · exact clear' predicate late
  · exact clear predicate early

theorem Unbarred.barred (first : course.Unbarred mid) (barred : mid.Barred halt after) :
    course.Barred halt after := by
  obtain ⟨target, predicate, last, second, refused, logged⟩ := barred
  exact ⟨target, predicate, last, first.trans second, refused, logged⟩

end Course

/-- Acts that end with the first permission that is denied, and with the refusal of it. -/
def Charter.heeding (World : Type) : Charter World where
  passes := Course.Unbarred
  halts course halt after := course.Barred halt after ∨
    course.Unbarred after ∧ ∀ target predicate, halt ≠ .refused (.permissionDenied target predicate)

theorem LoadError.refusal_ne_permissionDenied (error : LoadError) {target predicate : String} :
    error.refusal ≠ .permissionDenied target predicate := by
  cases error <;> nofun

theorem Premises.Foreseen.ne_permissionDenied {known : Premises} {halt : Halt}
    {target predicate : String} (expected : known.Foreseen halt) :
    halt ≠ .refused (.permissionDenied target predicate) := by
  cases expected with
  | unloaded error => exact fun same => error.refusal_ne_permissionDenied (Halt.refused.inj same)
  | _ => nofun

namespace Navigator

open Act

variable {World : Type} (n : Navigator World)

theorem checking_unbarred {permission : Option String} {course : Course World}
    (granted : ∀ predicate, permission = some predicate →
      (n.host.check predicate course.session.identity course.world).1 = true) :
    course.Unbarred (n.checking permission course) := by
  cases permission with
  | none => exact .of_log rfl
  | some predicate =>
    have granted := granted predicate rfl
    refine .of_event rfl fun other same => ?_
    rw [granted] at same
    cases same

theorem followLink_heeds (written : String) :
    (n.followLink written).Honours .nothing (Charter.heeding World) fun _ => True := by
  intro course _
  refine ⟨trivial, ?_⟩
  have loaded {path : String} {permission : Option String}
      (granted : ∀ predicate, permission = some predicate →
        (n.host.check predicate course.session.identity course.world).1 = true) :
      course.Unbarred (n.loading path (n.checking permission course)) :=
    (n.checking_unbarred granted).trans (.of_event rfl nofun)
  rcases ran : n.followLink written course with ⟨result, after⟩
  cases n.of_followLink ran with
  | unreadable => exact .inr ⟨.of_log rfl, nofun⟩
  | @denied link predicate _ asked denied =>
    refine .inl ⟨_, predicate, course, .of_log rfl, rfl, ?_⟩
    rw [asked, ← denied]
    rfl
  | @unloaded _ _ error _ granted =>
    refine .inr ⟨loaded granted, fun target predicate same => ?_⟩
    exact error.refusal_ne_permissionDenied (Halt.refused.inj same)
  | closed _ granted => exact .inr ⟨loaded granted, nofun⟩
  | arrived _ granted => exact ⟨trivial, loaded granted⟩

theorem heeding_full : (Charter.heeding World).Full n .nothing where
  refl course := .of_log rfl
  trans := .trans
  after passed halted := halted.imp passed.barred fun ⟨cleared, other⟩ => ⟨passed.trans cleared, other⟩
  foreseen course expected := .inr ⟨.of_log rfl, fun _ _ => expected.ne_permissionDenied⟩
  restored halted := halted
  kept halted := halted
  asked event course world exchange := .of_event rfl fun predicate same => by
    subst same
    cases exchange
  changed _ := .of_log rfl
  loads path course document loaded := trivial
  cleared _ := trivial
  anchored _ := trivial
  pended _ _ := trivial
  followLink := n.followLink_heeds
  jump _ _ _ _ course _ := ⟨trivial, trivial, .of_log rfl⟩
  opened path block _ := ⟨trivial, .of_log rfl⟩
  back course _ := ⟨trivial, trivial, .of_log rfl⟩

theorem perform_heeds {call : Call} {course after : Course World} {result : Except Halt Outcome}
    (ran : n.perform call course = (result, after)) {new : List Event} {predicate : String}
    (logged : after.log = new ++ course.log) (denied : .checked predicate false ∈ new) :
    ∃ target before, result = .error (.refused (.permissionDenied target predicate)) ∧
      new = .checked predicate false :: before ∧ ∀ other, .checked other false ∉ before := by
  have honours := n.heeding_full.perform (Premises.nothing_admits (.call call))
  have granted (unbarred : course.Unbarred after) : False := by
    obtain ⟨others, grown, clear⟩ := unbarred
    rw [logged] at grown
    exact clear predicate (List.append_cancel_right grown ▸ denied)
  rcases result with halt | outcome
  · rcases (honours.of_error ran trivial).2 with barred | ⟨unbarred, _⟩
    · obtain ⟨target, last, mid, ⟨before, earlier, clear⟩, rfl, ended⟩ := barred
      rw [logged, earlier, ← List.cons_append] at ended
      obtain rfl := List.append_cancel_right ended
      rcases List.mem_cons.mp denied with now | long
      · cases now
        exact ⟨target, before, rfl, rfl, clear⟩
      · exact absurd long (clear predicate)
    · exact (granted unbarred).elim
  · exact (granted (honours.of_ok ran trivial).2.2).elim

end Navigator

/-! ## Where a recorded link comes from -/

theorem Link.context_injective {written other : String}
    (same : "link " ++ written = "link " ++ other) : written = other := by
  simpa using same

theorem Link.ne_context {context : String} (other : context.toList.head? ≠ some 'l')
    (written : String) : context ≠ "link " ++ written := by
  rintro rfl
  simp at other

namespace Navigator

variable {World : Type} (n : Navigator World)

/-- If the entry is recorded as a link that asks for a permission, it comes from a link that has been
followed meanwhile: the permission was asked for and granted to the identity of the session, then the
document was loaded, and then the move was recorded. -/
def Vouches (course after : Course World) (entry : HistoryEntry) : Prop :=
  ∀ written predicate, entry.context = "link " ++ written → Link.AsksFor written predicate →
    ∃ mid moved path, course.log <:+ mid.log ∧ mid.session.identity = course.session.identity ∧
      (n.host.check predicate course.session.identity mid.world).1 = true ∧
      n.followLink written mid = (.ok entry.location, moved) ∧
      moved.log = .loaded path :: .checked predicate true :: mid.log ∧
      moved.session.history.last? = some entry ∧ moved.log <:+ after.log

/-- The identity is the same, and the moves that have been recorded meanwhile are vouched for. -/
structure Accounted (course after : Course World) : Prop where
  log : course.log <:+ after.log
  identity : after.session.identity = course.session.identity
  history : ∀ entry ∈ after.session.history.entries,
    entry ∈ course.session.history.entries ∨ n.Vouches course after entry

variable {n} {course mid after : Course World}

theorem Vouches.widen {first last : Course World} {entry : HistoryEntry}
    (vouches : n.Vouches course after entry) (before : first.log <:+ course.log)
    (same : course.session.identity = first.session.identity) (later : after.log <:+ last.log) :
    n.Vouches first last entry := by
  intro written predicate context asks
  obtain ⟨mid, moved, path, began, identity, granted, followed, logged, newest, ended⟩ :=
    vouches written predicate context asks
  exact ⟨mid, moved, path, before.trans began, identity.trans same, same ▸ granted, followed, logged,
    newest, ended.trans later⟩

namespace Accounted

theorem of_log (log : course.log <:+ after.log)
    (identity : after.session.identity = course.session.identity)
    (history : after.session.history = course.session.history) : n.Accounted course after :=
  ⟨log, identity, fun _ member => .inl (history ▸ member)⟩

theorem trans (first : n.Accounted course mid) (second : n.Accounted mid after) :
    n.Accounted course after where
  log := first.log.trans second.log
  identity := second.identity.trans first.identity
  history entry member := by
    rcases second.history entry member with earlier | vouched
    · exact (first.history entry earlier).imp_right fun vouched =>
        vouched.widen (List.suffix_refl _) rfl second.log
    · exact .inr (vouched.widen first.log first.identity (List.suffix_refl _))

/-- A move that is not recorded as a link needs nobody to vouch for it. -/
theorem of_move {location : Location} {context : String} {time : Timestamp}
    (other : ∀ written, context ≠ "link " ++ written) (log : course.log <:+ after.log)
    (identity : after.session.identity = course.session.identity)
    (history : after.session.history = course.session.history.record ⟨location, context, time⟩) :
    n.Accounted course after where
  log := log
  identity := identity
  history entry member := by
    rw [history] at member
    refine (History.mem_record member).imp_right ?_
    rintro rfl written predicate same
    exact absurd same (other written)

end Accounted

end Navigator

/-- Acts whose recorded moves are vouched for, wherever they end. -/
def Charter.accounted {World : Type} (n : Navigator World) : Charter World where
  passes := n.Accounted
  halts course _ after := n.Accounted course after

namespace Navigator

open Act

variable {World : Type} (n : Navigator World)

theorem checking_suffix (permission : Option String) (course : Course World) :
    course.log <:+ (n.checking permission course).log := by
  cases permission with
  | none => exact List.suffix_refl _
  | some => exact List.suffix_cons _ _

theorem followLink_accounted (written : String) :
    (n.followLink written).Honours .nothing (Charter.accounted n) fun _ => True := by
  intro course _
  refine ⟨trivial, ?_⟩
  have loaded (path : String) (permission : Option String) :
      course.log <:+ (n.loading path (n.checking permission course)).log :=
    (n.checking_suffix permission course).trans (List.suffix_cons _ _)
  rcases ran : n.followLink written course with ⟨result, after⟩
  cases n.of_followLink ran with
  | unreadable => exact .of_log (List.suffix_refl _) rfl rfl
  | denied =>
    exact .of_log (n.checking_suffix _ _) (by rw [checking_session]) (by rw [checking_session])
  | unloaded | closed =>
    refine .of_log (loaded _ _) ?_ ?_
    · exact congrArg Session.identity (checking_session _)
    · exact congrArg Session.history (checking_session _)
  | @arrived link path block document read granted =>
    have still : (n.loading path (n.checking link.permission course)).session = course.session :=
      checking_session link.permission
    refine ⟨trivial, loaded _ _, ?_, fun entry member => ?_⟩
    · unfold arriving
      rw [still]
      rfl
    · unfold arriving at member
      rw [still] at member
      -- an entry that was not there before is the one of this move
      refine (History.mem_record member).imp_right ?_
      rintro rfl other predicate context asks
      obtain rfl := Link.context_injective context
      have asked := (Link.permission_iff_asksFor read predicate).mpr asks
      have granted := granted predicate asked
      refine ⟨course, _, path, List.suffix_refl _, rfl, granted, ran, ?_, ?_, List.suffix_refl _⟩
      · change .loaded path :: (n.checking link.permission course).log = _
        rw [asked, ← granted]
        rfl
      · unfold arriving
        rw [still]
        exact History.last?_record _ _

theorem accounted_roams : (Charter.accounted n).Roams n .nothing where
  refl course := .of_log (List.suffix_refl _) rfl rfl
  trans := .trans
  after := .trans
  foreseen course _ := .of_log (List.suffix_refl _) rfl rfl
  restored halted := .of_log halted.log rfl rfl
  kept halted := halted.trans (.of_log (List.suffix_refl _) rfl rfl)
  asked event course world _ := .of_log (List.suffix_cons _ _) rfl rfl
  changed lingers :=
    .of_log (List.suffix_refl _) lingers.sameFrame.identity lingers.remains.history
  loads path course document loaded := trivial
  cleared _ := trivial
  anchored _ := trivial
  pended _ _ := trivial
  followLink := n.followLink_accounted
  jump _ _ _ _ course _ :=
    ⟨trivial, trivial, .of_move (Link.ne_context (by decide)) (List.suffix_refl _) rfl rfl⟩
  opened path block _ :=
    ⟨trivial, .of_move (Link.ne_context (by decide)) (List.suffix_refl _) rfl rfl⟩
  back course _ := by
    refine ⟨trivial, trivial, ?_⟩
    unfold goBack
    cases back : (course.session.clearPending.breadcrumbs.back
        course.session.clearPending.scope).1 with
    | none =>
      rw [Session.stepBack_of_none back]
      exact .of_log (List.suffix_refl _) rfl rfl
    | some location =>
      rw [Session.stepBack_of_some back]
      exact .of_move (Link.ne_context (by decide)) (List.suffix_refl _) rfl rfl
  absorbed halted := halted
  blamed passed _ := passed
  noted course _ := .of_log (List.suffix_cons _ _) rfl rfl

/-- Whatever errands are run: each recorded move was there before, or is vouched for by the errand in
which it was recorded. -/
theorem history_vouched (errands : List Errand) {course : Course World} {entry : HistoryEntry}
    (member : entry ∈ (n.pursueAll errands course).session.history.entries) :
    entry ∈ course.session.history.entries ∨
      ∃ before errand later, errands = before ++ errand :: later ∧
        n.Vouches (n.pursueAll before course) (n.pursue errand (n.pursueAll before course)).2
          entry := by
  induction errands generalizing course with
  | nil => exact .inl member
  | cons errand errands ih =>
    have accounted : n.Accounted course (n.pursue errand course).2 :=
      (n.accounted_roams.after_pursue (Premises.nothing_admits errand) trivial).2
    rcases ih member with recorded | ⟨before, other, later, rfl, vouched⟩
    · refine (accounted.history entry recorded).imp_right fun vouched => ?_
      exact ⟨[], errand, errands, rfl, vouched⟩
    · exact .inr ⟨errand :: before, other, later, rfl, vouched⟩

/-! ## Permissions by role -/

theorem followLink_of_within {host : Host World} (byRole : n.host = host.withRoles)
    {written : String} {course after : Course World} {location : Location} {richer : Identity}
    (within : course.session.identity.Within richer)
    (followed : n.followLink written course = (.ok location, after)) :
    n.followLink written (course.signedIn richer) = (.ok location, after.signedIn richer) := by
  have check (predicate : String) (identity : Identity) (world : World) :
      n.host.check predicate identity world = (Authorizer.grants predicate identity, world) := by
    rw [byRole]
    rfl
  cases n.of_followLink followed with
  | @arrived link path block document read granted resolved answer entered =>
    have kept (predicate : String) (asked : link.permission = some predicate) :
        Authorizer.grants predicate richer = true := by
      have granted := granted predicate asked
      rw [check] at granted
      exact within.grants granted
    have checked : n.checking link.permission (course.signedIn richer) =
        (n.checking link.permission course).signedIn richer := by
      unfold checking
      split
      next => rfl
      next predicate asked =>
        have before := granted predicate asked
        rw [check] at before
        simp only [check, Course.signedIn, before, kept predicate asked]
    have arrived : n.followLink written (course.signedIn richer) = _ :=
      followLink_arrived read (fun predicate asked => by rw [check]; exact kept predicate asked)
        resolved (by rw [checked]; exact answer) entered
    rw [arrived, checked]
    rfl

/-! ## The account of permissions -/

/-- A link that asks for a permission is refused wherever it is reached without it. In any call a
denied permission is the last event and the reason of the refusal. In any run each recorded link is
vouched for by the errand in which it was recorded. And what is followed by role is also followed
with more roles or with a name. -/
theorem links_gated :
    (∀ written link predicate, Link.read written = .ok link → Link.AsksFor written predicate →
      n.Gates written link predicate) ∧
    (∀ call course after result new predicate, n.perform call course = (result, after) →
      after.log = new ++ course.log → .checked predicate false ∈ new →
        ∃ target before, result = .error (.refused (.permissionDenied target predicate)) ∧
          new = .checked predicate false :: before ∧ ∀ other, .checked other false ∉ before) ∧
    (∀ errands course entry, course.session.history.entries = [] →
      entry ∈ (n.pursueAll errands course).session.history.entries →
        ∃ before errand later, errands = before ++ errand :: later ∧
          n.Vouches (n.pursueAll before course) (n.pursue errand (n.pursueAll before course)).2
            entry) ∧
    (∀ (host : Host World) written course after location richer, n.host = host.withRoles →
      course.session.identity.Within richer → n.followLink written course = (.ok location, after) →
        n.followLink written (course.signedIn richer) = (.ok location, after.signedIn richer)) := by
  refine ⟨fun _ _ _ => n.gates, fun _ _ _ _ _ _ ran => n.perform_heeds ran, ?_,
    fun _ _ _ _ _ _ byRole => n.followLink_of_within byRole⟩
  intro errands course entry fresh member
  refine (n.history_vouched errands member).resolve_left ?_
  rw [fresh]
  exact List.not_mem_nil

namespace Sample

def denied? : Event → Option String
  | .checked predicate false => some predicate
  | _ => none

theorem of_denied? {event : Event} {predicate : String} (denied : denied? event = some predicate) :
    event = .checked predicate false := by
  unfold denied? at denied
  split at denied
  next =>
    cases denied
    rfl
  next => cases denied

def gate : Document where
  path := "/app"
  blocks := [("main", [("enter", .str "link(.end?admin)")]), ("end", [])]

def keeper : Navigator Script := ⟨{}, Script.host.withRoles, ⟨3, 3, 3⟩⟩

def caller (roles : List String) : Course Script where
  session := { Session.new .blocking with
    path := some "/app", block := some "main", scope := "/app", identity := { roles := roles } }
  world := { documents := [("/app", .ok gate)] }

def gateLink : Link := ⟨.sameDocument, some "end", some "admin"⟩

def passage : HistoryEntry := ⟨⟨"/app", "end"⟩, "link .end?admin", .epoch⟩

theorem links_gated_enter :
    keeper.followLink ".end?admin" (caller []) = keeper.denial gateLink "admin" (caller []) ∧
    (∃ target, (keeper.perform (.dispatchKey "enter") (caller [])).1 =
      .error (.refused (.permissionDenied target "admin"))) ∧
    (∃ before errand later, [Errand.call (.dispatchKey "enter")] = before ++ errand :: later ∧
      keeper.Vouches (keeper.pursueAll before (caller ["admin"]))
        (keeper.pursue errand (keeper.pursueAll before (caller ["admin"]))).2 passage) ∧
    ∃ after, keeper.followLink ".end?admin" ((caller ["admin"]).signedIn ⟨"ann", ["admin", "staff"]⟩) =
      (.ok ⟨"/app", "end"⟩, after) := by
  obtain ⟨gated, heeded, vouched, monotone⟩ := keeper.links_gated
  have read : Link.read ".end?admin" = .ok gateLink := by decide +kernel
  have asks : Link.AsksFor ".end?admin" "admin" :=
    ⟨".end".toList, "admin".toList, by decide, by decide, by decide⟩
  have denies : keeper.Denies "admin" (caller []) := by
    unfold Denies
    decide +kernel
  refine ⟨(gated _ _ _ read asks).follow denies, ?_, ?_, ?_⟩
  · have denied : (keeper.perform (.dispatchKey "enter") (caller [])).2.log.head?.bind denied? =
        some "admin" := by
      decide +kernel
    obtain ⟨event, first, barred⟩ := Option.bind_eq_some_iff.mp denied
    have logged := List.mem_of_mem_head? first
    rw [of_denied? barred] at logged
    obtain ⟨target, _, refused, _⟩ :=
      heeded (.dispatchKey "enter") (caller []) _ _ _ "admin" rfl (List.append_nil _).symm logged
    exact ⟨target, refused⟩
  · have recorded : passage ∈ (keeper.pursueAll [.call (.dispatchKey "enter")]
        (caller ["admin"])).session.history.entries := by
      decide +kernel
    exact vouched _ _ _ rfl recorded
  · have within : (caller ["admin"]).session.identity.Within ⟨"ann", ["admin", "staff"]⟩ :=
      ⟨by decide, by decide⟩
    have followed : (keeper.followLink ".end?admin" (caller ["admin"])).1 = .ok ⟨"/app", "end"⟩ := by
      decide +kernel
    exact ⟨_, monotone Script.host _ _ _ _ _ rfl within (run_ok followed)⟩

end Sample

end Navigator

end Signpost
