import Signpost.Proofs.Navigator.Grounded
import Signpost.Proofs.Navigator.Selecting
import Signpost.Proofs.Scripted

/-! Twin navigations: the same session in both modes, in worlds that are alike.

What is selected from a menu is launched at the end of a loop in one mode and by the last of several
calls in the other. Until then only the user has been talked to, so actions come to the same. -/

namespace Signpost

def Menu.Selection.items : Menu.Selection → List Menu.Item
  | .single item => [item]
  | .multi items => items
  | .narrowed _ => []

/-- The item names a key without marks, of the block at the location, whose command is an action. -/
structure NamesAction (library : Library) (location : Location) (item : Menu.Item)
    (request : Request) : Prop where
  forth : item.back = false
  named : ∃ document written value command, library location.path = .ok document ∧
    document.lookupKey? location.block item.target = some (written, value) ∧
    Key.read written = (written, {}) ∧ Command.classify value = .ok command ∧
    command.request? = some request

/-- All items that a selection launches name actions of the current block. -/
def Menu.Selection.Acts (library : Library) (s : Session) (selection : Menu.Selection) : Prop :=
  ∃ location, s.location? = some location ∧
    ∀ item ∈ selection.items, ∃ request, NamesAction library location item request

/-- Twin courses where nothing is pending. -/
structure Course.Paired {World : Type} (alike : World → World → Prop)
    (course other : Course World) : Prop where
  twin : course.session.Twin other.session
  idle : course.session.pending = none
  alike : alike course.world other.world

namespace Course.Paired

variable {World : Type} {alike : World → World → Prop} {course other : Course World}
  (paired : course.Paired alike other)

include paired

theorem location? : other.session.location? = course.session.location? := by
  rw [paired.twin.2]
  rfl

theorem idle_other : other.session.pending = none := by
  rw [paired.twin.2]
  exact paired.idle

theorem remote : other.session.mode = .nonBlocking := by rw [paired.twin.2]

end Course.Paired

namespace Navigator

open Act Session

variable {World : Type} (n : Navigator World) {course other mid last : Course World}
  {library : Library} {alike : World → World → Prop} {location : Location} {item : Menu.Item}
  {items : List Menu.Item} {request : Request} {selection : Menu.Selection}

theorem unasked_of_idle (idle : course.session.pending = none) : course.unasked = course := by
  have same : course.session.clearPending = course.session := by
    unfold Session.clearPending
    rw [← idle]
  unfold Course.unasked
  rw [same]

theorem load_world (path : String) :
    (n.load path course).2.world = (n.host.load path course.world).2 := by
  have asked : Act.ask (n.host.load path) (fun _ => Event.loaded path) course =
      (.ok (n.host.load path course.world).1,
        (Act.ask (n.host.load path) (fun _ => Event.loaded path) course).2) := rfl
  unfold load
  rw [bind_ok asked]
  rcases (n.host.load path course.world).1 with (_ | _) | document
  · exact rfl
  · exact rfl
  · exact rfl

/-! ## Actions of items -/

theorem launchItem_of_action (serves : n.host.Serves library)
    (names : NamesAction library location item request)
    (located : course.session.location? = some location)
    (idle : course.session.pending = none) (depth : Nat) :
    n.launchItem (n.dispatchWithin (depth + 1)) item course =
      (.ok (.ofReply (n.replyTo request (n.load location.path course).2)),
        n.asked request (n.load location.path course).2) := by
  obtain ⟨document, written, value, command, found, named, plain, classified, action⟩ := names.named
  obtain ⟨loaded, load⟩ := n.load_of_library serves found course
  have still := (n.load_still _).of_run load
  have here : n.namedKey? item course = some (written, value) :=
    (n.namedKey?_of_load names.forth located load).trans named
  have reached : (n.currentDocument course).2 = loaded := by
    rw [n.currentDocument_of_location located, bind_ok load]
    rfl
  have quiet : loaded.unasked = loaded := unasked_of_idle (still ▸ idle)
  rw [n.launchItem_of_key here, reached, load, n.dispatchWithin_plain plain rfl classified]
  refine ok_restoring ?_
  simp only [quiet]
  exact n.launchWith_of_request action _ _

/-! ## Twins stay twins -/

section Alike

variable {n} (agrees : n.host.Alike alike) (paired : course.Paired alike other)

include agrees paired

theorem load_paired (path : String) : (n.load path course).2.Paired alike (n.load path other).2 := by
  have same : (n.load path course).2.session = course.session := n.load_still path course
  have same' : (n.load path other).2.session = other.session := n.load_still path other
  have worlds : alike (n.load path course).2.world (n.load path other).2.world := by
    rw [n.load_world, n.load_world]
    exact agrees.load _ _ _ paired.alike
  refine ⟨?_, same ▸ paired.idle, worlds⟩
  rw [same, same']
  exact paired.twin

theorem asked_paired (request : Request) : n.replyTo request course = n.replyTo request other ∧
    (n.asked request course).Paired alike (n.asked request other) :=
  ⟨agrees.reply request _ _ _ _ paired.alike paired.twin, paired.twin, paired.idle,
    agrees.invoke request _ _ _ _ paired.alike paired.twin⟩

theorem menuSource_paired (items : Value) :
    (n.menuSource items course).2.Paired alike (n.menuSource items other).2 := by
  rcases n.menuSource_cases items with written | ⟨request, _, asked⟩
  · rw [written]
    exact paired
  · rw [asked, bind_ok n.request_run, bind_ok n.request_run]
    exact (asked_paired agrees paired request).2

variable (serves : n.host.Serves library)

include serves

theorem launchItem_paired (names : NamesAction library location item request)
    (located : course.session.location? = some location) (depth depth' : Nat) :
    ∃ outcome after after', n.launchItem (n.dispatchWithin (depth + 1)) item course =
        (.ok outcome, after) ∧
      n.launchItem (n.dispatchWithin (depth' + 1)) item other = (.ok outcome, after') ∧
      after.Paired alike after' ∧ after.session = course.session := by
  have launched := n.launchItem_of_action serves names located paired.idle depth
  have launched' := n.launchItem_of_action serves names (paired.location?.trans located)
    paired.idle_other depth'
  obtain ⟨reply, still⟩ := asked_paired agrees (load_paired agrees paired location.path) request
  rw [← reply] at launched'
  exact ⟨_, _, _, launched, launched', still, n.load_still location.path course⟩

theorem collectAll_paired (located : course.session.location? = some location)
    (names : ∀ item ∈ items, ∃ request, NamesAction library location item request)
    (values : List Value) (depth depth' : Nat) :
    ∃ outcome, (collectAll (n.launchItem (n.dispatchWithin (depth + 1))) values items course).1 =
        .ok outcome ∧
      (collectAll (n.launchItem (n.dispatchWithin (depth' + 1))) values items other).1 =
        .ok outcome := by
  induction items generalizing course other values with
  | nil => exact ⟨collected values, rfl, rfl⟩
  | cons item items ih =>
    obtain ⟨request, named⟩ := names item (List.mem_cons_self ..)
    obtain ⟨outcome, after, after', launched, launched', still, same⟩ :=
      launchItem_paired agrees paired serves named located depth depth'
    unfold collectAll
    rw [bind_ok launched, bind_ok launched']
    cases outcome.interrupts with
    | true => exact ⟨outcome, rfl, rfl⟩
    | false =>
      have rest : ∀ item ∈ items, ∃ request, NamesAction library location item request :=
        fun item there => names item (List.mem_cons_of_mem _ there)
      exact ih still (same ▸ located) rest _

theorem select_paired (acts : selection.Acts library course.session) (depth depth' : Nat) :
    ∃ outcome, (n.select (n.dispatchWithin (depth + 1)) selection course).1 = .ok outcome ∧
      (n.select (n.dispatchWithin (depth' + 1)) selection other).1 = .ok outcome := by
  obtain ⟨location, located, names⟩ := acts
  cases selection with
  | single item =>
    obtain ⟨request, named⟩ := names item (List.mem_singleton_self _)
    obtain ⟨outcome, after, after', launched, launched', _⟩ :=
      launchItem_paired agrees paired serves named located depth depth'
    exact ⟨outcome, congrArg Prod.fst launched, congrArg Prod.fst launched'⟩
  | multi items => exact collectAll_paired agrees paired serves located names [] depth depth'
  | narrowed => exact ⟨_, rfl, rfl⟩

end Alike

/-! ## What a selection comes to -/

section Selection

variable {key : String} {value : Value} {spec : MenuSpec} {input : World → List String}
  {earlier rest : List String} {line : String}

/-- The last answer begins where the loop ends, except for the mode. -/
theorem selects_paired (agrees : n.host.Alike alike) (opens : OpensMenu key value spec)
    (deep : 0 < n.patience.depth) (twin : course.session.Twin other.session)
    (worlds : alike course.world other.world)
    (selects : n.DispatchSelects key value spec course selection mid)
    {prompt : Prompt} {opened : Course World}
    (dispatched : n.dispatch key value other = (.ok (.pending prompt), opened))
    (insists : n.Insists opened earlier last) :
    mid.Paired alike last.unasked ∧ mid.session = course.unasked.session := by
  have remote : other.session.mode = .nonBlocking := by rw [twin.2]
  have unasked : course.unasked.Paired alike other.unasked := by
    refine ⟨⟨twin.1, ?_⟩, rfl, worlds⟩
    change other.session.clearPending = _
    rw [twin.2]
    rfl
  obtain ⟨menu, plain, rfl⟩ := n.of_dispatch_pending opens deep remote dispatched
  obtain ⟨view, before, chosen, asked⟩ := selects.asked n twin.1
  have offered := menuSource_paired agrees unasked spec.items
  have same : (n.menuSource spec.items course.unasked).2.session = course.unasked.session :=
    n.menuSource_still spec.items course.unasked
  generalize (n.menuSource spec.items course.unasked).2 = start at asked offered same
  generalize (n.menuSource spec.items other.unasked).2 = waiting at insists offered
  obtain ⟨world, session⟩ :=
    insists.stays n (waiting.pend_pending (.menu menu)) plain offered.remote
  have resumed : last.unasked.session = waiting.session :=
    session.trans (congrArg Course.session (unasked_of_idle offered.idle_other))
  have ended : mid.session = start.session := asked.session
  have kept := asked.keeps (agrees.talks waiting.world) offered.alike
  have worlds : alike mid.world last.world := by
    rw [world]
    exact kept
  refine ⟨⟨?_, ended ▸ offered.idle, worlds⟩, ended.trans same⟩
  rw [ended, resumed]
  exact offered.twin

/-- The blocking dispatch launches a selection after exactly the lines with which a pending menu
launches the same one, each earlier line leaving it pending. Where the items are actions and the
collaborators answer alike, both come to the same. -/
theorem selection_agrees (selection : Menu.Selection) (opens : OpensMenu key value spec)
    (reads : n.host.Reads input) (deep : 1 < n.patience.depth)
    (enough : earlier.length < n.patience.rounds)
    (twin : course.session.Twin other.session)
    (queued : input course.world = earlier ++ line :: rest)
    (offered : (n.menuSource spec.items course.unasked).1 =
      (n.menuSource spec.items other.unasked).1) :
    ((∃ mid, n.DispatchSelects key value spec course selection mid ∧ input mid.world = rest) ↔
      ∃ prompt opened last, n.dispatch key value other = (.ok (.pending prompt), opened) ∧
        n.Insists opened earlier last ∧ n.ResumeSelects last line selection) ∧
    ∀ {library : Library} {alike : World → World → Prop}, n.host.Serves library →
      n.host.Alike alike → alike course.world other.world →
      selection.Acts library course.session →
      ∀ {mid prompt opened last}, n.DispatchSelects key value spec course selection mid →
        n.dispatch key value other = (.ok (.pending prompt), opened) →
        n.Insists opened earlier last → n.ResumeSelects last line selection →
          ∃ outcome, (n.dispatch key value course).1 = .ok outcome ∧
            (n.resume line last).1 = .ok outcome := by
  have remote : other.session.mode = .nonBlocking := by rw [twin.2]
  have shallow : 0 < n.patience.depth := by omega
  constructor
  · exact n.select_iff opens reads shallow enough twin.1 remote queued offered
  · intro library alike serves agrees worlds acts mid prompt opened last selects dispatched insists
      launches
    obtain ⟨paired, same⟩ :=
      n.selects_paired agrees opens shallow twin worlds selects dispatched insists
    obtain ⟨depth, bound, launched⟩ := selects.launches
    obtain ⟨menu, _, _, resumed⟩ := launches
    obtain ⟨depth, rfl⟩ : ∃ inner, depth = inner + 1 := ⟨depth - 1, by omega⟩
    have here : selection.Acts library mid.session := by
      rw [same]
      exact acts
    -- an answer has one dispatch more to nest than the loop, which runs inside a dispatch
    have full : n.dispatch = n.dispatchWithin (depth + 1 + 1) := by
      unfold dispatch
      rw [bound]
    obtain ⟨outcome, loop, answer⟩ :=
      select_paired agrees paired serves here depth (depth + 1)
    rw [← full] at answer
    refine ⟨outcome, ?_, ?_⟩
    · rw [launched]
      exact (restoring_fst _ course).trans loop
    · rw [resumed]
      exact (keepingPending_fst _ _ _).trans answer

end Selection

namespace Sample

/-- A menu with two items that name actions and one that names a link. -/
def visitValue : Value :=
  .obj [("menu", .arr [.str "north", .str "northeast", .str "south"]), ("multi", .bool true)]

def grounds : Document where
  path := "/grounds"
  blocks := [
    ("main", [
      ("visit", visitValue),
      ("north", .str "call(note)"),
      ("northeast", .str "read(map)"),
      ("south", .str "link(.end)")]),
    ("end", [])]

def atlas : Library := fun path =>
  if path = grounds.path then .ok grounds else .error (.notFound path)

def guide : Navigator Script := ⟨{}, Script.host.withLibrary atlas, ⟨3, 3, 3⟩⟩

def visitSpec : MenuSpec where
  items := .arr [.str "north", .str "northeast", .str "south"]
  multi := true

/-- A user in the main block. The function of the note replies once. -/
def visitor (mode : Mode) (lines : List String) : Course Script where
  session := { Session.new mode with path := some "/grounds", block := some "main" }
  world := { lines := lines, replies := [((.functions, "note"), [.ok (.ok (.str "noted"))])] }

def typing : Course Script := visitor .blocking ["?", "/north", "1,2"]

def sending : Course Script := visitor .nonBlocking []

def bothItems : Menu.Selection :=
  .multi [⟨"north", "north", false⟩, ⟨"northeast", "northeast", false⟩]

theorem visit_opens : OpensMenu "visit" visitValue visitSpec where
  plain := by decide
  classified := rfl

theorem north_acts : NamesAction atlas ⟨"/grounds", "main"⟩ ⟨"north", "north", false⟩
    ⟨.functions, "note", .arr []⟩ where
  forth := rfl
  named := ⟨grounds, "north", .str "call(note)", .call "note" [], rfl, rfl, by decide, rfl, rfl⟩

theorem northeast_acts : NamesAction atlas ⟨"/grounds", "main"⟩ ⟨"northeast", "northeast", false⟩
    ⟨.resources, "read", .str "map"⟩ where
  forth := rfl
  named := ⟨grounds, "northeast", .str "read(map)", .readResource "map", rfl, rfl, by decide,
    rfl, rfl⟩

theorem both_act : bothItems.Acts atlas typing.session := by
  refine ⟨⟨"/grounds", "main"⟩, rfl, fun item chosen => ?_⟩
  rcases List.mem_pair.mp chosen with rfl | rfl
  · exact ⟨_, north_acts⟩
  · exact ⟨_, northeast_acts⟩

def visitModel : Menu.Model where
  items := [⟨"north", "north", false⟩, ⟨"northeast", "northeast", false⟩,
    ⟨"south", "south", false⟩, Menu.backItem]
  title := none
  allowBack := true
  multi := true
  source := .list

/-- The first line is rejected, the second one narrows the menu, and the third one selects. -/
theorem visit_chosen : visitModel.chosen ["?", "/north"] "1,2" = some bothItems := by
  decide +kernel

theorem typing_selects : ∃ mid,
    guide.DispatchSelects "visit" visitValue visitSpec typing bothItems mid ∧
      mid.world.lines = [] := by
  have offered : guide.menuSource visitSpec.items typing.unasked =
      (.ok (.ofValue visitSpec.items), typing.unasked) := rfl
  have built : Menu.build (.ofValue visitSpec.items) (visitSpec.options (.plain .blocking)) =
      .ok visitModel := rfl
  have short : ["?", "/north"].length < guide.patience.rounds := by decide
  have typed : typing.world.lines = ["?", "/north"] ++ "1,2" :: [] := rfl
  exact (guide.dispatchSelects_iff visit_opens (by decide) offered (Script.host_reads atlas) built
    short rfl typed).mpr visit_chosen

theorem selection_agrees_visit : ∃ mid prompt opened last,
    guide.DispatchSelects "visit" visitValue visitSpec typing bothItems mid ∧
      guide.dispatch "visit" visitValue sending = (.ok (.pending prompt), opened) ∧
      guide.Insists opened ["?", "/north"] last ∧ guide.ResumeSelects last "1,2" bothItems ∧
      ∃ outcome, (guide.dispatch "visit" visitValue typing).1 = .ok outcome ∧
        (guide.resume "1,2" last).1 = .ok outcome := by
  have twin : typing.session.Twin sending.session := ⟨rfl, rfl⟩
  have typed : typing.world.lines = ["?", "/north"] ++ "1,2" :: [] := rfl
  have offered : (guide.menuSource visitSpec.items typing.unasked).1 =
      (guide.menuSource visitSpec.items sending.unasked).1 := rfl
  have short : ["?", "/north"].length < guide.patience.rounds := by decide
  obtain ⟨same, alike⟩ := guide.selection_agrees bothItems visit_opens
    (Script.host_reads atlas) (by decide) short twin typed offered
  obtain ⟨mid, selects, left⟩ := typing_selects
  obtain ⟨prompt, opened, last, pending, insists, launches⟩ := same.mp ⟨mid, selects, left⟩
  exact ⟨mid, prompt, opened, last, selects, pending, insists, launches,
    alike (Script.host.withLibrary_serves atlas) (Script.host_alike atlas) rfl both_act selects
      pending insists launches⟩

end Sample

end Navigator

end Signpost
