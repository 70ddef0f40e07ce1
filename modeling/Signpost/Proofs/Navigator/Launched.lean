import Signpost.Proofs.Document.Launches
import Signpost.Proofs.Navigator.Checked
import Signpost.Proofs.Navigator.Conforming

/-! Bad links and instructions come from the block where the session is.

Whatever is launched before the session moves stands in the current block, also where it has been
left pending: what is pending is dropped with every move. So an answer that tells of a bad link or of
a bad instruction is due to a command of this block, and if the check has nothing to say about the
documents, to the target of a menu, which the check does not look at. -/

namespace Signpost

namespace Library

variable {library : Library} {s s' : Session} {command : Command} {result : Except Halt Outcome}

def At (library : Library) (s : Session) (kind : Document → String → Prop) : Prop :=
  ∃ location document, s.location? = some location ∧ library location.path = .ok document ∧
    kind document location.block

def Launches (library : Library) (s : Session) (command : Command) : Prop :=
  library.At s fun document block => document.Launches block command

def Aims (library : Library) (s : Session) (command : Command) : Prop :=
  library.At s fun document block => document.Aims block command

/-- A menu of the block has the item, or it is the way back. -/
def Offers (library : Library) (s : Session) (item : Menu.Item) : Prop :=
  item.back = true ∨ library.At s fun document block =>
    ∃ spec, document.Launches block (.menu spec) ∧ item ∈ Menu.itemsOf spec.items

def Alike (library : Library) (path other : String) : Prop :=
  ∃ document document', library path = .ok document ∧ library other = .ok document' ∧
    document.blocks = document'.blocks

/-- No menu that is launched takes its items from a function. -/
def Static (library : Library) : Prop :=
  ∀ path document, library path = .ok document →
    ∀ block spec, document.Launches block (.menu spec) → ¬spec.Dynamic

def Expects (library : Library) (s : Session) : Pending → Prop
  | .menu pending => ∀ item ∈ pending.view.model.items, library.Offers s item
  | .retry pending => library.Launches s pending.command

/-- The answer tells of a bad link or instruction only if one may be launched where the session is. -/
structure Blames (library : Library) (s : Session) (result : Except Halt Outcome) : Prop where
  unreadable : ∀ error, result = .error (.refused (.invalidLink error)) →
    ∃ written, library.Launches s (.link written) ∧ Link.read written = .error error
  malformed : ∀ outcome, result = .ok outcome → outcome.Malformed →
    ∃ text flaw, outcome = .malformed text flaw ∧ library.Launches s (.malformed text flaw)
  closed : ∀ path block, result = .error (.refused (.blockNotFound path block)) →
    ∃ written link document, library.Launches s (.link written) ∧ Link.read written = .ok link ∧
      path = link.resolve (s.path.getD "/") ∧ library path = .ok document ∧
        (link.block = some block ∧ document.hasBlock block = false ∨ document.blocks = [])

theorem At.lingers {kind : Document → String → Prop} (here : library.At s kind)
    (lingers : s.Lingers s') : library.At s' kind := by
  obtain ⟨location, document, located, rest⟩ := here
  exact ⟨location, document, lingers.location?.trans located, rest⟩

theorem Expects.lingers {pending : Pending} (expects : library.Expects s pending)
    (lingers : s.Lingers s') : library.Expects s' pending := by
  cases pending with
  | menu pending => exact fun item member => (expects item member).imp_right (·.lingers lingers)
  | retry pending =>
    have launched : library.Launches s pending.command := expects
    exact At.lingers launched lingers

theorem blames_of_halt {halt : Halt} (blameless : halt.blamesLink = false) :
    library.Blames s (.error halt) where
  unreadable _ same := by
    cases same
    cases blameless
  malformed := nofun
  closed _ _ same := by
    cases same
    cases blameless

theorem blames_of_outcome {outcome : Outcome} (sound : ¬outcome.Malformed) :
    library.Blames s (.ok outcome) where
  unreadable := nofun
  malformed _ same told := by
    cases same
    exact absurd told sound
  closed := nofun

end Library

namespace Navigator

open Act Session

variable {World : Type} (n : Navigator World)

theorem menuSource_written {spec : MenuSpec} (written : ¬spec.Dynamic) :
    n.menuSource spec.items = (pure (.ofValue spec.items) : Act World Menu.Source) := by
  unfold menuSource
  split
  next text name args text' called => exact absurd ⟨text, name, args, text', called⟩ written
  next => rfl

theorem entrance_error {document : Document} {named : Option String} {block : String}
    (missing : n.entrance document named = .error block) :
    named = some block ∧ document.hasBlock block = false ∨ document.blocks = [] := by
  unfold entrance at missing
  split at missing
  next =>
    split at missing
    next => cases missing
    next absent =>
      cases missing
      exact .inl ⟨rfl, by simpa using absent⟩
  next =>
    split at missing
    next => cases missing
    next none => exact .inr (Document.blocks_of_defaultBlock none)

end Navigator

namespace Conduct

open Act Session

variable {World : Type} {n : Navigator World} {library : Library} {s : Session}
  {course after : Course World} {result : Except Halt Outcome}

def launching (World : Type) (library : Library) (s : Session) : Conduct World where
  mode := s.mode
  here := s.Lingers
  document path document := library path = .ok document
  fits := library.Launches s
  offers := library.Offers s
  passes := Course.Settles
  bears := library.Blames s

theorem waits_iff {pending : Pending} :
    (launching World library s).Waits pending ↔ library.Expects s pending := by
  cases pending <;> rfl

theorem Ends.borne {conduct : Conduct World} (ends : conduct.Ends course result after) :
    conduct.bears result := by
  cases ends <;> assumption

theorem launching_suits (static : library.Static) (serves : n.host.Serves library) (s : Session) :
    (launching World library s).Suits n where
  moded lingers := lingers.sameFrame.mode
  stays := Lingers.trans
  loads path course document loaded := n.load_ok serves (run_ok loaded)
  entry lingers located loaded looked read := by
    have here : s.location? = _ := lingers.location?.symm.trans located
    exact ⟨_, _, here, loaded, .entry looked read⟩
  element := fun ⟨location, document, located, loaded, whole⟩ member read =>
    ⟨location, document, located, loaded, .element whole member read⟩
  option := by
    rintro spec source items item course mid fits asked given member
    obtain ⟨location, document, located, loaded, menu⟩ := fits
    -- no menu is dynamic here, so its items are the written ones
    rw [n.menuSource_written (static _ _ loaded _ _ menu)] at asked
    cases asked
    rw [Menu.Source.items_ofValue] at given
    cases given
    exact .inr ⟨location, document, located, loaded, spec, menu, member⟩
  back := .inl rfl
  target := by
    intro s' item command lingers offered forth unnamed read
    rcases offered with back | ⟨location, document, located, loaded, spec, menu, member⟩
    · cases back.symm.trans forth
    · have there : s'.location? = some location := lingers.location?.trans located
      obtain ⟨document', loaded', looked, absent⟩ := unnamed location there
      cases loaded.symm.trans loaded'
      exact ⟨location, document, located, loaded, .target menu member ⟨looked, absent⟩ read⟩
  refl _ := .inr rfl
  trans := .trans
  asked _ _ _ _ := .inr rfl
  changed settles := settles
  restored _ := .inr rfl
  halts _ := Library.blames_of_halt
  reports _ _ := Library.blames_of_outcome
  prompts _ _ := Library.blames_of_outcome nofun
  malformed {text flaw} fits := by
    refine ⟨nofun, fun _ same _ => ?_, nofun⟩
    cases same
    exact ⟨text, flaw, rfl, fits⟩
  unreadable {written error} fits read := by
    refine ⟨fun _ same => ?_, nofun, nofun⟩
    cases same
    exact ⟨written, fits, read⟩
  closed {s' written link path document block} lingers fits read resolved loaded missing := by
    refine ⟨nofun, nofun, fun _ _ same => ?_⟩
    cases same
    rw [lingers.remains.path] at resolved
    exact ⟨written, link, document, fits, read, resolved, loaded, n.entrance_error missing⟩

end Conduct

/-- What is pending belongs to the current block, and only a client can have left it. -/
def Session.Rooted (library : Library) (s : Session) : Prop :=
  ∀ pending, s.pending = some pending → s.mode = .nonBlocking ∧ library.Expects s pending

theorem Session.Rooted.of_idle {library : Library} {s : Session} (idle : s.pending = none) :
    s.Rooted library := by
  intro pending waits
  rw [idle] at waits
  cases waits

/-- A move leaves nothing pending, and else the block is still the same. -/
theorem Conduct.rooted_of_ends {World : Type} {library : Library} {s : Session}
    {start after : Course World} {result : Except Halt Outcome} (idle : start.session.pending = none)
    (leads : s.Leads Session.Lingers result after.session)
    (ends : (launching World library s).Ends start result after) : after.session.Rooted library := by
  cases ends with
  | through _ settles => exact .of_idle (settles.elim id fun same => same.trans idle)
  | @waiting mid pending _ _ mode suspends waits =>
    -- a refusal, a failure and a question leave something pending, and none of them is a move
    have lingers : s.Lingers (mid.pend pending).session := by
      rcases result with halt | outcome
      · exact leads
      · cases outcome <;> first | exact leads | exact suspends.elim
    intro other same
    cases same
    exact ⟨lingers.sameFrame.mode.trans mode, (waits_iff.mp waits).lingers lingers⟩

namespace Library.Checked

variable {library : Library} {s : Session} {written : String}

theorem blocks_ne_nil (checked : library.Checked) {path : String} {document : Document}
    (found : library path = .ok document) : document.blocks ≠ [] := by
  intro empty
  have sound := checked path document found
  unfold Check.problems at sound
  rw [empty] at sound
  cases sound

/-- Of what is launched in documents without problems, the targets of menus apart, nothing is bad. -/
theorem aims_of_launches (checked : library.Checked) {command : Command}
    (launches : library.Launches s command) :
    library.Aims s command ∨ library.At s fun document _ => Check.messagesOf document command = [] := by
  obtain ⟨location, document, located, loaded, launches⟩ := launches
  rcases Check.messagesOf_of_launches (checked _ _ loaded) launches with aims | clear
  · exact .inl ⟨location, document, located, loaded, aims⟩
  · exact .inr ⟨location, document, located, loaded, clear⟩

theorem aims_of_malformed (checked : library.Checked) {text : String} {flaw : Flaw}
    (launches : library.Launches s (.malformed text flaw)) :
    library.Aims s (.malformed text flaw) := by
  rcases checked.aims_of_launches launches with aims | ⟨_, _, _, _, clear⟩
  · exact aims
  · cases clear

theorem aims_of_unreadable (checked : library.Checked) {error : LinkError}
    (launches : library.Launches s (.link written)) (unreadable : Link.read written = .error error) :
    library.Aims s (.link written) := by
  rcases checked.aims_of_launches launches with aims | ⟨_, _, _, _, clear⟩
  · exact aims
  · obtain ⟨link, read, _⟩ := Check.of_linkMessages clear
    cases unreadable.symm.trans read

theorem aims_of_closed (checked : library.Checked) {link : Link} {path block : String}
    {document : Document} (launches : library.Launches s (.link written))
    (read : Link.read written = .ok link) (within : link.target = .sameDocument)
    (named : link.block = some block) (loaded : library path = .ok document)
    (absent : document.hasBlock block = false) (alike : library.Alike (s.path.getD "/") path) :
    library.Aims s (.link written) := by
  rcases checked.aims_of_launches launches with aims | ⟨location, found, located, loaded', clear⟩
  · exact aims
  · obtain ⟨link', read', present⟩ := Check.of_linkMessages clear
    cases read.symm.trans read'
    obtain ⟨here, there, current, resolved, same⟩ := alike
    rw [Session.path_of_location located] at current
    cases loaded'.symm.trans current
    cases loaded.symm.trans resolved
    have present := present within block named
    rw [Document.hasBlock_of_blocks same, absent] at present
    cases present

end Library.Checked

namespace Navigator

open Act Conduct Session

variable {World : Type} (n : Navigator World) {library : Library} {course after : Course World}
  {result : Except Halt Outcome} {call : Call}

theorem start_blames (checked : library.Checked) (serves : n.host.Serves library) {path : String}
    {s : Session} (ran : n.perform (.start path) course = (result, after)) :
    library.Blames s result := by
  rcases started : n.start path course with ⟨halt | location, mid⟩
  · cases (bind_error started).symm.trans ran
    rcases n.start_error started with ⟨error, rfl⟩ | ⟨document, _, loaded, closed⟩
    · exact Library.blames_of_halt error.refusal_blamesLink
    · have found := n.load_ok serves loaded
      exact absurd (Document.blocks_of_defaultBlock closed) (checked.blocks_ne_nil found)
  · cases (bind_ok started).symm.trans ran
    exact Library.blames_of_outcome nofun

theorem resume_launches (static : library.Static) (serves : n.host.Serves library)
    (rooted : course.session.Rooted library) {line : String}
    (ran : n.resume line course = (result, after)) :
    course.session.Leads Lingers result after.session ∧
      (launching World library course.session).Ends course.unasked result after := by
  refine (launching_suits static serves course.session).resume (lingers_dwelling.refl _) ?_ ran
  intro pending waits
  obtain ⟨mode, expects⟩ := rooted pending waits
  exact ⟨mode, waits_iff.mpr expects⟩

/-- Whatever is answered, what is pending belongs to the current block again. -/
theorem perform_rooted (static : library.Static) (serves : n.host.Serves library)
    (browses : (Errand.call call).browses = true) (rooted : course.session.Rooted library) :
    (n.perform call course).2.session.Rooted library := by
  have suits := launching_suits static serves course.session
  have here : course.session.Lingers course.session := lingers_dwelling.refl _
  cases call with
  | dispatch | launch => cases browses
  | start path =>
    rw [perform_start]
    rcases started : n.start path course with ⟨halt | location, after⟩
    · rw [n.start_undone path started]
      exact rooted
    · obtain ⟨document, loaded, block, _, _, _, same⟩ := n.start_ok started
      refine .of_idle ?_
      change after.session.pending = none
      rw [same]
      rfl
  | dispatchKey key =>
    change (n.dispatchKey key course).2.session.Rooted library
    rcases ran : n.dispatchKey key course with ⟨halt | outcome, after⟩
    · rw [n.dispatchKey_undone key ran]
      exact rooted
    -- what was pending before is dropped as soon as the key is found
    · have leads := (Suits.of_run (suits.dispatchKey key) here ran).1
      obtain ⟨mid, _, ends⟩ := suits.dispatchKey_unasked here ran
      exact rooted_of_ends rfl leads ends
  | resume line =>
    change (n.resume line course).2.session.Rooted library
    rcases ran : n.resume line course with ⟨result, after⟩
    obtain ⟨leads, ends⟩ := n.resume_launches static serves rooted ran
    exact rooted_of_ends rfl leads ends
  | goBack => exact .of_idle (course.session.clearPending.stepBack_frame _).1

theorem perform_blames (checked : library.Checked) (static : library.Static)
    (serves : n.host.Serves library) (browses : (Errand.call call).browses = true)
    (rooted : course.session.Rooted library) (ran : n.perform call course = (result, after)) :
    library.Blames course.session result := by
  have suits := launching_suits static serves course.session
  have here : course.session.Lingers course.session := lingers_dwelling.refl _
  cases call with
  | dispatch | launch => cases browses
  | start path => exact n.start_blames checked serves ran
  | dispatchKey key => exact (Suits.of_run (suits.dispatchKey key) here ran).2.borne
  | resume line => exact (n.resume_launches static serves rooted ran).2.borne
  | goBack =>
    cases ran
    refine Library.blames_of_outcome ?_
    split <;> nofun

end Navigator

theorem reached_rooted {library : Library} (static : library.Static) {s : Session}
    (reached : Reached (fun n call => n.host.Serves library ∧ (Errand.call call).browses = true) s) :
    s.Rooted library := by
  induction reached with
  | new mode identity => exact .of_idle rfl
  | call n course call _ permitted ih => exact n.perform_rooted static permitted.1 permitted.2 ih

namespace Navigator

variable {World : Type} (n : Navigator World) {library : Library} {course after : Course World}
  {result : Except Halt Outcome} {call : Call}

/-- Over documents without problems, an answer that tells of a bad link or of a bad instruction is
due to the target of a menu. A missing block may also be named by a link to another document, or by a
link within a document that has other blocks under the path as links resolve it. -/
theorem checked_flaws_aimed (checked : library.Checked) (static : library.Static)
    (serves : n.host.Serves library)
    (reached : Reached (fun n call => n.host.Serves library ∧ (Errand.call call).browses = true)
      course.session)
    (browses : (Errand.call call).browses = true) (ran : n.perform call course = (result, after)) :
    (∀ error, result = .error (.refused (.invalidLink error)) →
      ∃ written, library.Aims course.session (.link written) ∧ Link.read written = .error error) ∧
    (∀ outcome, result = .ok outcome → outcome.Malformed →
      ∃ text flaw, outcome = .malformed text flaw ∧
        library.Aims course.session (.malformed text flaw)) ∧
    ∀ path block, result = .error (.refused (.blockNotFound path block)) →
      ∃ written link, library.Launches course.session (.link written) ∧
        Link.read written = .ok link ∧ link.block = some block ∧
          path = link.resolve (course.session.path.getD "/") ∧
            (link.target = .sameDocument → library.Alike (course.session.path.getD "/") path →
              library.Aims course.session (.link written)) := by
  have blames := n.perform_blames checked static serves browses (reached_rooted static reached) ran
  refine ⟨fun error same => ?_, fun outcome same told => ?_, fun path block same => ?_⟩
  · obtain ⟨written, launches, read⟩ := blames.unreadable error same
    exact ⟨written, checked.aims_of_unreadable launches read, read⟩
  · obtain ⟨text, flaw, same, launches⟩ := blames.malformed outcome same told
    exact ⟨text, flaw, same, checked.aims_of_malformed launches⟩
  · obtain ⟨written, link, document, launches, read, resolved, loaded, missing⟩ :=
      blames.closed path block same
    obtain ⟨named, absent⟩ := missing.resolve_right (checked.blocks_ne_nil loaded)
    refine ⟨written, link, launches, read, named, resolved, fun within alike => ?_⟩
    exact checked.aims_of_closed launches read within named loaded absent alike

namespace Sample

/-- A menu of one item, which is a link to a block that the document does not have. -/
def pitfall : Document :=
  ⟨"/app", [("main", [("pick", .obj [("menu", .arr [.str "link(.Missing)"])])])]⟩

def pitfallLibrary : Library := fun path =>
  if path = pitfall.path then .ok pitfall else .error (.notFound path)

def wanderer : Navigator Script := { navigator with host := Script.host.withLibrary pitfallLibrary }

def chooser : Course Script :=
  wanderer.performAll [.start "/app", .dispatchKey "pick"]
    { arrival with session := Session.new .nonBlocking }

theorem pitfallLibrary_eq {path : String} {document : Document}
    (found : pitfallLibrary path = .ok document) : path = "/app" ∧ document = pitfall := by
  unfold pitfallLibrary at found
  split at found
  next here =>
    cases found
    exact ⟨here, rfl⟩
  next => cases found

theorem pitfall_checked : pitfallLibrary.Checked := by
  intro path document found
  rw [(pitfallLibrary_eq found).2]
  decide +kernel

theorem pitfall_launches {block : String} {command : Command}
    (launches : pitfall.Launches block command) :
    command = .menu { items := .arr [.str "link(.Missing)"] } ∨ command = .link ".Missing" := by
  induction launches with
  | @entry mode key written value command looked read =>
    obtain ⟨entries, named, member⟩ := Document.mem_of_lookupKey? looked
    cases List.mem_singleton.mp (Document.mem_of_block? named)
    cases List.mem_singleton.mp member
    have unmarked : (FollowUp.ofKey mode "pick").2.autoMenu = false := by
      change (Key.read "pick").2.autoMenu = false
      decide
    rw [commandOf_eq unmarked] at read
    cases read
    exact .inl rfl
  | element _ _ _ ih => rcases ih with same | same <;> cases same
  | target _ member _ read ih =>
    rcases ih with same | same <;> cases same
    cases List.mem_singleton.mp member
    cases read
    exact .inr rfl

theorem pitfall_static : pitfallLibrary.Static := by
  rintro path document found block spec menu ⟨text, name, args, written, _⟩
  rw [(pitfallLibrary_eq found).2] at menu
  rcases pitfall_launches menu with same | same <;> cases same
  cases written

theorem chooser_reached :
    Reached (fun n call => n.host.Serves pitfallLibrary ∧ (Errand.call call).browses = true)
      chooser.session := by
  have fresh : Reached (fun n call => n.host.Serves pitfallLibrary ∧
      (Errand.call call).browses = true) (Session.new .nonBlocking) := .new .nonBlocking {}
  refine fresh.run wanderer (fun call member => ?_)
  refine ⟨Script.host.withLibrary_serves pitfallLibrary, ?_⟩
  have all : ∀ call ∈ [Call.start "/app", .dispatchKey "pick"], (Errand.call call).browses = true := by
    decide
  exact all call member

theorem chooser_refused :
    (wanderer.perform (.resume "1") chooser).1 =
      .error (.refused (.blockNotFound "/app" "Missing")) := by
  decide +kernel

theorem missing_read : Link.read ".Missing" = .ok ⟨.sameDocument, some "Missing", none⟩ := by
  decide +kernel

/-- The item is to blame. -/
theorem checked_flaws_aimed_pitfall :
    ∃ after, wanderer.perform (.resume "1") chooser =
        (.error (.refused (.blockNotFound "/app" "Missing")), after) ∧
      pitfallLibrary.Aims chooser.session (.link ".Missing") := by
  have serves : wanderer.host.Serves pitfallLibrary := Script.host.withLibrary_serves pitfallLibrary
  have refused := Act.run_error chooser_refused
  obtain ⟨_, _, closed⟩ := wanderer.checked_flaws_aimed pitfall_checked pitfall_static serves
    chooser_reached rfl refused
  obtain ⟨written, link, launches, read, _, _, aimed⟩ := closed _ _ rfl
  obtain ⟨_, document, _, loaded, launches⟩ := launches
  rw [(pitfallLibrary_eq loaded).2] at launches
  have here : chooser.session.path.getD "/" = "/app" := by decide +kernel
  have alike : pitfallLibrary.Alike (chooser.session.path.getD "/") "/app" := by
    rw [here]
    exact ⟨pitfall, pitfall, if_pos rfl, if_pos rfl, rfl⟩
  rcases pitfall_launches launches with same | same <;> cases same
  cases missing_read.symm.trans read
  exact ⟨_, refused, aimed rfl alike⟩

/-- The check has nothing to say about a link within the document that leads nowhere. -/
theorem pitfall_unnoticed :
    pitfallLibrary.Checked ∧ pitfallLibrary.Static ∧
      Link.read ".Missing" = .ok ⟨.sameDocument, some "Missing", none⟩ ∧
      ∃ after, wanderer.perform (.resume "1") chooser =
        (.error (.refused (.blockNotFound "/app" "Missing")), after) :=
  ⟨pitfall_checked, pitfall_static, missing_read, _, Act.run_error chooser_refused⟩

end Sample

end Navigator

end Signpost
