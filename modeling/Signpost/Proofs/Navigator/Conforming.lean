import Signpost.Proofs.Command
import Signpost.Proofs.Navigator.Conduct

/-! Launches, dispatches and answers conform.

Each of them is taken apart here once, for all conducts that suit the navigator. -/

namespace Signpost

namespace Conduct.Suits

open Act Session Navigator

variable {World : Type} {n : Navigator World} {conduct : Conduct World}
  (suits : conduct.Suits n)

include suits

/-! ## Commands without parts -/

theorem invoke {collaborator : Collaborator}
    (unaddressed : collaborator = .dialogs → conduct.mode = .blocking) (name : String)
    (args : Value) : (n.invoke collaborator name args).Conforms conduct := by
  refine suits.andThen (suits.request unaddressed) fun reply _ => ?_
  rcases reply with reason | (value | message | _)
  · exact suits.failing (Outcome.not_malformed_of_kind nofun)
  · exact suits.value value
  · exact suits.failing (Outcome.not_malformed_of_kind nofun)
  · exact suits.quiet _ nofun rfl nofun

theorem display {next : Unit → Act World Outcome} (blocking : conduct.mode = .blocking)
    (payload : Payload) (conforms : (next ()).Conforms conduct) :
    (n.display payload >>= next).Conforms conduct :=
  suits.andThen ((suits.talk blocking).2.1 payload) fun _ _ => conforms

theorem present (value : Value) : (n.present (.done value)).Conforms conduct :=
  suits.ifBlocking
    (fun blocking => suits.display blocking _ (suits.quiet _ nofun rfl nofun))
    fun _ => suits.quiet _ nofun rfl nofun

theorem currentDocument : n.currentDocument.Prepares conduct fun found =>
    ∃ s location, conduct.here s ∧ s.location? = some location ∧
      conduct.document location.path found.1 ∧ found.2 = location.block := by
  refine suits.prepare suits.session fun s here => ?_
  cases located : s.location? with
  | none => exact suits.halt (fun _ => rfl) rfl
  | some location =>
    exact suits.prepare (suits.load _) fun document loaded =>
      suits.found _ ⟨s, location, here, located, loaded, rfl⟩

theorem plainValue (text : String) : (n.plainValue text).Prepares conduct fun _ => True := by
  refine suits.prepare (suits.attempt suits.currentDocument) fun found _ => ?_
  rcases found with error | ⟨document, block⟩
  · exact suits.found _ trivial
  · dsimp only
    split
    · exact suits.found _ trivial
    · split <;> exact suits.found _ trivial

theorem checking_passes (permission : Option String) (course : Course World) :
    conduct.passes course (n.checking permission course) := by
  cases permission with
  | none => exact suits.refl course
  | some predicate => exact suits.asked (.checked _ _) course _ nofun

theorem loading_passes (path : String) (permission : Option String) (course : Course World) :
    conduct.passes course (n.loading path (n.checking permission course)) :=
  suits.trans (suits.checking_passes permission course) (suits.asked (.loaded path) _ _ nofun)

theorem loaded {path : String} {document : Document} {course : Course World}
    (answer : (n.host.load path course.world).1 = .ok document) : conduct.document path document := by
  refine suits.loads path course document ?_
  rw [n.load_run, answer]
  rfl

theorem link {target : String} (fits : conduct.fits (.link target)) :
    (n.launchSimple (.link target)).Conforms conduct := by
  intro course here
  refine ⟨n.link_travels lingers_dwelling target course, ?_⟩
  rcases ran : n.followLink target course with ⟨halt | location, after⟩
  · have ended : n.launchSimple (.link target) course = (.error halt, after) := bind_error ran
    rw [ended]
    cases n.of_followLink ran with
    | unreadable read => exact .through (suits.unreadable fits read) (suits.refl course)
    | denied => exact .through (suits.halts _ rfl) (suits.checking_passes _ course)
    | unloaded =>
      exact .through (suits.halts _ (LoadError.refusal_blamesLink _)) (suits.loading_passes _ _ course)
    | closed read _ resolved answer missing =>
      have document := suits.loaded answer
      exact .through (suits.closed here fits read resolved document missing)
        (suits.loading_passes _ _ course)
  · have ended : n.launchSimple (.link target) course = (.ok (.relocated location), after) :=
      bind_ok ran
    rw [ended]
    cases n.of_followLink ran with
    | arrived read granted resolved answer entered =>
      refine .through (suits.reports _ rfl nofun) ?_
      refine suits.trans (suits.loading_passes _ _ course) (suits.changed (.inr ?_))
      rfl

theorem launchSimple {command : Command} (fits : conduct.fits command) :
    (n.launchSimple command).Conforms conduct := by
  cases command with
  | empty | menu | sequence => exact suits.quiet _ nofun rfl nofun
  | malformed => exact suits.report _ nofun (suits.malformed fits)
  | call | readResource | workflow | data => exact suits.invoke (by nofun) _ _
  | link target => exact suits.link fits
  | openResource target =>
    refine suits.handOn (suits.invoke (by nofun) _ _) fun outcome => ?_
    cases outcome with
    | done value => exact .inr ⟨rfl, suits.present value⟩
    | _ => exact .inl ⟨.plain .blocking, rfl⟩
  | display value =>
    refine suits.andThen suits.session fun s _ => suits.ifBlocking (fun blocking => ?_) fun _ => ?_
    · exact suits.display blocking _ (suits.quiet _ nofun rfl nofun)
    · exact suits.quiet _ nofun rfl nofun
  | dialog spec =>
    refine suits.ifBlocking (fun blocking => ?_) fun _ => ?_
    · exact suits.invoke (fun _ => blocking) _ _
    · exact suits.quiet _ nofun rfl nofun
  | plain text =>
    refine suits.ifBlocking (fun _ => ?_) fun _ => ?_
    · exact suits.quiet _ nofun rfl nofun
    · exact suits.andThen (suits.plainValue text) fun value _ => suits.value value

/-! ## Composites -/

theorem collected (values : List Value) :
    (pure (Navigator.collected values) : Act World Outcome).Conforms conduct := by
  cases values <;> exact suits.quiet _ nofun rfl nofun

theorem collectAll {α : Type} {launch : α → Act World Outcome} {parts : List α}
    (part : ∀ a ∈ parts, (launch a).Conforms conduct) (values : List Value) :
    (Navigator.collectAll launch values parts).Conforms conduct := by
  induction parts generalizing values with
  | nil => exact suits.collected values
  | cons a parts ih =>
    refine suits.handOn (part a List.mem_cons_self) fun outcome => ?_
    cases goes : outcome.interrupts with
    | true => exact .inl ⟨.plain .blocking, rfl⟩
    | false =>
      exact .inr ⟨rfl, ih (fun b later => part b (List.mem_cons_of_mem a later)) _⟩

section Nested

variable {nested : String → Value → Act World Outcome}
  (inner : ∀ key value,
    (∀ command, commandOf (FollowUp.ofKey conduct.mode key).2 value = .ok command →
      conduct.fits command) → (nested key value).Conforms conduct)

include inner

theorem launchItem {item : Menu.Item} (offered : conduct.offers item) :
    (n.launchItem nested item).Conforms conduct := by
  unfold Navigator.launchItem
  split
  next => exact suits.quiet _ nofun rfl nofun
  next forth =>
    have back : item.back = false := by simpa using forth
    extract_lets asCommand
    have plain {s : Session} (here : conduct.here s)
        (unnamed : ∀ location, s.location? = some location →
          ∃ document, conduct.document location.path document ∧
            document.lookupKey? location.block item.target = none ∧
              document.hasBlock item.target = false) : asCommand.Conforms conduct := by
      unfold asCommand
      split
      next => exact suits.value (.str item.target)
      next command _ read => exact suits.launchSimple (suits.target here offered back unnamed read)
      next misread => exact absurd misread (Command.classify_str_ne_error _ _)
    refine suits.andThen suits.session fun s here => ?_
    cases located : s.location? with
    | none => exact plain here fun location there => by rw [located] at there; cases there
    | some location =>
      refine suits.andThen (suits.load location.path) fun document loaded => ?_
      dsimp only
      cases looked : document.lookupKey? location.block item.target with
      | some entry => exact inner _ _ fun command read => suits.entry here located loaded looked read
      | none =>
        cases present : document.hasBlock item.target with
        | true =>
          intro course _
          refine ⟨⟨course.session, _, _, lingers_dwelling.refl _, rfl⟩, ?_⟩
          refine .through (suits.reports _ rfl nofun) (suits.changed (.inr rfl))
        | false =>
          refine plain here fun other there => ?_
          cases located.symm.trans there
          exact ⟨document, loaded, looked, present⟩

theorem select {selection : Menu.Selection} (offered : selection.All conduct.offers) :
    (n.select nested selection).Conforms conduct := by
  cases selection with
  | single item => exact suits.launchItem inner offered
  | multi items =>
    exact suits.collectAll (fun item member => suits.launchItem inner (offered item member)) []
  | narrowed =>
    have begins : ['s'] <+: "selection is still ambiguous".toList := by decide
    exact suits.failing (Outcome.not_malformed_of_start _ begins (by decide))

omit inner in
theorem interact {select : Menu.Selection → Act World Outcome}
    (selected : ∀ selection, selection.All conduct.offers → (select selection).Conforms conduct)
    (blocking : conduct.mode = .blocking) (rounds : Nat) (view : Menu.View)
    (offered : ∀ item ∈ view.model.items, conduct.offers item) :
    (n.interact select rounds view).Conforms conduct := by
  obtain ⟨render, _, prompt⟩ := suits.talk blocking
  induction rounds generalizing view with
  | zero => exact suits.stop (fun _ => rfl) rfl
  | succ rounds ih =>
    refine suits.andThen (render view) fun _ _ => suits.andThen (prompt _) fun answer _ => ?_
    cases answer with
    | none => exact suits.quiet _ nofun rfl nofun
    | some line =>
      dsimp only
      split
      next model narrowed => exact ih _ (Menu.Model.all_of_resolve offered narrowed)
      next selection _ resolved => exact selected _ (Menu.Model.all_of_resolve offered resolved)
      next => exact suits.display blocking _ (ih view offered)

omit inner in
/-- What a menu is built from is asked for without addressing the user. -/
theorem menuSource (items : Value) :
    (n.menuSource items).Prepares conduct fun source =>
      ∃ course mid, n.menuSource items course = (.ok source, mid) := by
  have prepared : (n.menuSource items).Prepares conduct fun _ => True := by
    rcases n.menuSource_cases items with written | ⟨request, functions, asked⟩
    · rw [written]
      exact suits.found _ trivial
    · rw [asked]
      refine suits.prepare (suits.request fun dialogs => ?_) fun _ _ => suits.found _ trivial
      rw [functions] at dialogs
      cases dialogs
  intro course here
  obtain ⟨stays, passed, _, borne⟩ := prepared course here
  exact ⟨stays, passed, fun source came => ⟨course, _, run_ok came⟩, borne⟩

omit inner in
theorem openMenu {select : Menu.Selection → Act World Outcome}
    (selected : ∀ selection, selection.All conduct.offers → (select selection).Conforms conduct)
    (key : String) (followUp : FollowUp) {spec : MenuSpec} (fits : conduct.fits (.menu spec)) :
    (n.openMenu select key followUp spec).Conforms conduct := by
  unfold Navigator.openMenu
  refine suits.andThen (suits.menuSource spec.items) fun source given => ?_
  obtain ⟨_, _, asked⟩ := given
  split
  next error _ =>
    cases error with
    | source reason => exact suits.failing (Outcome.menu_not_malformed reason).1
    | empty => exact suits.failing (Outcome.menu_not_malformed "").2
  next model built =>
    have offered : ∀ item ∈ model.items, conduct.offers item := by
      obtain ⟨items, given, all⟩ := Menu.Model.of_build built
      intro item member
      rcases all item member with written | rfl
      · exact suits.option fits asked given written
      · exact suits.back
    refine suits.andThen suits.session fun s _ => suits.ifBlocking (fun blocking => ?_) fun mode => ?_
    · exact suits.interact selected blocking _ _ offered
    · intro course _
      refine ⟨lingers_waiting.pending _ _, ?_⟩
      exact repend (.through (suits.prompts _ mode) (suits.refl course)) mode trivial offered

theorem launchAction (key : String) (followUp : FollowUp) {command : Command}
    (fits : conduct.fits command) : (n.launchAction nested key followUp command).Conforms conduct := by
  unfold Navigator.launchAction
  split
  next => exact suits.openMenu (fun _ => suits.select inner) key followUp fits
  next => exact suits.launchSimple fits

omit inner

mutual

theorem launchElement
    (inner : ∀ key value,
      (∀ command, commandOf (FollowUp.ofKey conduct.mode key).2 value = .ok command →
        conduct.fits command) → (nested key value).Conforms conduct)
    (key : String) (index : Nat) (value : Value)
    (fits : ∀ command, Command.classify value = .ok command → conduct.fits command) :
    (n.launchElement nested key index value).Conforms conduct := by
  by_cases composite : ∃ items, value = .arr items
  · obtain ⟨items, rfl⟩ := composite
    unfold Navigator.launchElement
    refine launchElements inner key 0 [] items fun item member command read => ?_
    have sequence : Command.classify (.arr items) = .ok (.sequence items) := by
      cases items with
      | nil => cases member
      | cons => rfl
    exact suits.element (fits _ sequence) member read
  · have leaf := not_exists.mp composite
    cases classified : Command.classify value with
    | error error =>
      rw [n.launchElement_of_error leaf classified]
      exact suits.stop (fun _ => rfl) rfl
    | ok command =>
      rw [n.launchElement_of_ok leaf classified]
      exact suits.andThen suits.session fun s _ => suits.launchAction inner key _ (fits _ classified)

theorem launchElements
    (inner : ∀ key value,
      (∀ command, commandOf (FollowUp.ofKey conduct.mode key).2 value = .ok command →
        conduct.fits command) → (nested key value).Conforms conduct)
    (key : String) (index : Nat) (values elements : List Value)
    (fits : ∀ element ∈ elements, ∀ command, Command.classify element = .ok command →
      conduct.fits command) :
    (n.launchElements nested key index values elements).Conforms conduct := by
  cases elements with
  | nil => exact suits.collected values
  | cons element elements =>
    unfold Navigator.launchElements
    refine suits.handOn (launchElement inner key index element (fits element List.mem_cons_self))
      fun outcome => ?_
    cases goes : outcome.interrupts with
    | true => exact .inl ⟨.plain .blocking, rfl⟩
    | false =>
      refine .inr ⟨rfl, launchElements inner key (index + 1) _ elements fun item later => ?_⟩
      exact fits item (List.mem_cons_of_mem _ later)

end

include inner

theorem launchWith (key : String) (followUp : FollowUp) {command : Command}
    (fits : conduct.fits command) : (n.launchWith nested key followUp command).Conforms conduct := by
  unfold Navigator.launchWith
  split
  next items =>
    exact suits.launchElements inner key 0 [] items fun item member command => suits.element fits member
  next => exact suits.launchAction inner key followUp fits

/-! ## Dispatching -/

omit inner in
/-- A launch that has failed is repeated only in blocking mode, where it has left nothing pending. -/
theorem launchRequired {launch : Act World Outcome} (launched : launch.Conforms conduct)
    (key : String) {command : Command} (fits : conduct.fits command) {followUp : FollowUp}
    (same : followUp.mode = conduct.mode) (rounds attempts : Nat) :
    (n.launchRequired launch key command followUp rounds attempts).Conforms conduct := by
  induction rounds generalizing attempts with
  | zero => exact suits.stop (fun _ => rfl) rfl
  | succ rounds ih =>
    intro course here
    unfold Navigator.launchRequired
    rcases ran : launch course with ⟨halt | outcome, mid⟩
    · rw [bind_error ran]
      exact of_run launched here ran
    · rw [bind_ok ran]
      obtain ⟨leads, ends⟩ := of_run launched here ran
      cases outcome with
      | failed failure =>
        dsimp only
        split
        next => exact ⟨leads, ends⟩
        next =>
          split
          next mode =>
            refine ⟨lingers_waiting.trans leads (lingers_waiting.pending _ _), ?_⟩
            exact repend ends (same ▸ mode) trivial fits
          next mode =>
            -- only a failure that does not wait for the client is followed by another launch
            have blocking : conduct.mode = .blocking := by
              rw [same] at mode
              cases there : conduct.mode with
              | blocking => rfl
              | nonBlocking => exact absurd there mode
            have passed := passes_of_ends ends (.inr blocking)
            have again : (n.display (.message failure.message) >>= fun _ =>
                n.launchRequired launch key command followUp rounds (attempts + 1)).Conforms conduct :=
              suits.display blocking _ (ih (attempts + 1))
            obtain ⟨leads', ends'⟩ := again mid (suits.stays here leads)
            exact ⟨leads'.after lingers_dwelling leads, suits.prepend passed ends'⟩
      | _ => exact ⟨leads, ends⟩

theorem launchKey (key : String) {followUp : FollowUp} (same : followUp.mode = conduct.mode)
    {command : Command} (fits : conduct.fits command) :
    (n.launchKey nested key followUp command).Conforms conduct := by
  have launched := suits.launchWith inner key followUp fits
  intro course here
  rw [launchKey_run]
  have stays : course.session.Lingers (course.prepared followUp.anchor).session :=
    lingers_waiting.trans (lingers_waiting.pending _ none) ⟨followUp.anchor, rfl⟩
  have passed : conduct.passes course (course.prepared followUp.anchor) :=
    suits.changed (.inl (pending_anchoredIf followUp.anchor))
  have conforms : (if followUp.required then
      n.launchRequired (n.launchWith nested key followUp command) key command followUp
        n.patience.rounds 0
      else n.launchWith nested key followUp command).Conforms conduct := by
    split
    · exact suits.launchRequired launched key fits same _ _
    · exact launched
  obtain ⟨leads, ends⟩ := suits.handOn conforms (fun outcome => .inl ⟨followUp, rfl⟩)
    (course.prepared followUp.anchor) (suits.stays here stays)
  exact ⟨leads.after lingers_dwelling stays, suits.prepend passed ends⟩

theorem dispatchWith (key : String) (value : Value)
    (fits : ∀ command, commandOf (FollowUp.ofKey conduct.mode key).2 value = .ok command →
      conduct.fits command) : (n.dispatchWith nested key value).Conforms conduct := by
  refine suits.andThen suits.session fun s here => ?_
  rw [← suits.moded here] at fits
  cases read : commandOf (FollowUp.ofKey s.mode key).2 value with
  | error error =>
    simp only [FollowUp.ofKey] at read ⊢
    simp only [read]
    exact suits.stop (fun _ => rfl) rfl
  | ok command =>
    have fits := fits command read
    simp only [FollowUp.ofKey] at read ⊢
    simp only [read]
    exact suits.restoring (suits.launchKey inner _ (suits.moded here) fits)

end Nested

/-- However deep dispatches nest. -/
theorem dispatchWithin (depth : Nat) (key : String) (value : Value)
    (fits : ∀ command, commandOf (FollowUp.ofKey conduct.mode key).2 value = .ok command →
      conduct.fits command) : (n.dispatchWithin depth key value).Conforms conduct := by
  induction depth generalizing key value with
  | zero => exact suits.stop (fun _ => rfl) rfl
  | succ depth ih => exact suits.dispatchWith ih key value fits

theorem dispatch (key : String) (value : Value)
    (fits : ∀ command, commandOf (FollowUp.ofKey conduct.mode key).2 value = .ok command →
      conduct.fits command) : (n.dispatch key value).Conforms conduct :=
  suits.dispatchWithin _ key value fits

theorem dispatchKey (key : String) : (n.dispatchKey key).Conforms conduct := by
  refine suits.andThen suits.currentDocument fun found there => ?_
  obtain ⟨s, location, here, located, loaded, same⟩ := there
  split
  next document block =>
    dsimp only at loaded same
    subst same
    split
    next => exact suits.stop (fun _ => rfl) rfl
    next looked => exact suits.dispatch _ _ fun command => suits.entry here located loaded looked

theorem launch {command : Command} (fits : conduct.fits command) :
    (n.launch command).Conforms conduct :=
  suits.andThen suits.session fun _ _ => suits.launchWith suits.dispatch _ _ fits

/-- A dispatch that goes through has begun with nothing pending. -/
theorem dispatchWithin_unasked {depth : Nat} {key : String} {value : Value}
    {course after : Course World} {outcome : Outcome} (here : conduct.here course.session)
    (fits : ∀ command, commandOf (FollowUp.ofKey conduct.mode key).2 value = .ok command →
      conduct.fits command)
    (dispatched : n.dispatchWithin depth key value course = (.ok outcome, after)) :
    conduct.Ends course.unasked (.ok outcome) after := by
  cases depth with
  | zero => cases dispatched
  | succ depth =>
    rw [← suits.moded here] at fits
    obtain ⟨session, _, same, dispatched⟩ := of_bind_ok dispatched
    cases same
    cases read : commandOf (FollowUp.ofKey course.session.mode key).2 value with
    | error misconfigured =>
      simp only [read] at dispatched
      cases dispatched
    | ok command =>
      have fits := fits command read
      simp only [read] at dispatched
      have launched := restoring_ok dispatched
      rw [launchKey_run] at launched
      have there : conduct.here course.unasked.session :=
        suits.stays here (lingers_waiting.pending _ none)
      have same : (FollowUp.ofKey course.session.mode key).2.mode = conduct.mode := suits.moded here
      have conforms := suits.launchKey (suits.dispatchWithin depth) (Key.read key).1 same fits
      refine (of_run conforms there ?_).2
      rw [launchKey_run]
      exact launched

theorem dispatchKey_unasked {key : String} {course after : Course World} {outcome : Outcome}
    (here : conduct.here course.session)
    (dispatched : n.dispatchKey key course = (.ok outcome, after)) :
    ∃ mid : Course World, mid.session = course.session ∧
      conduct.Ends mid.unasked (.ok outcome) after := by
  obtain ⟨⟨document, block⟩, mid, found, dispatched⟩ := of_bind_ok dispatched
  have same := n.currentDocument_still.of_run found
  obtain ⟨_, _, known, _⟩ := suits.currentDocument course here
  rw [found] at known
  obtain ⟨s, location, there, located, loaded, rfl⟩ := known _ rfl
  cases named : document.lookupKey? location.block key with
  | none =>
    simp only [named] at dispatched
    cases dispatched
  | some entry =>
    simp only [named] at dispatched
    refine ⟨mid, same, suits.dispatchWithin_unasked (same ▸ here) (fun command read => ?_) dispatched⟩
    exact suits.entry there located loaded named read

/-! ## Answering -/

omit suits in
theorem keepingPending {act : Act World Outcome} {pending : Pending}
    (mode : conduct.mode = .nonBlocking) (waits : conduct.Waits pending)
    (conforms : act.Conforms conduct) : (Navigator.keepingPending pending act).Conforms conduct := by
  intro course here
  rcases ran : act course with ⟨halt | outcome, after⟩
  · obtain ⟨leads, ends⟩ := of_run conforms here ran
    rw [keepingPending_error ran]
    exact ⟨lingers_waiting.trans leads (lingers_waiting.pending _ _),
      repend ends mode trivial waits⟩
  · rw [keepingPending_ok ran]
    exact of_run conforms here ran

theorem handOnOrPend {act : Act World Outcome} {next : Outcome → Act World Outcome}
    (mode : conduct.mode = .nonBlocking) (first : act.Conforms conduct)
    (rest : ∀ outcome, (∃ followUp : FollowUp, next outcome = pure (followUp.finish outcome)) ∨
      outcome.isFailure = true ∧ ∃ pending, conduct.Waits pending ∧
        next outcome = (Act.modifySession (fun session => session.setPending pending) >>= fun _ =>
          pure outcome)) : (act >>= next).Conforms conduct := by
  intro course here
  rcases ran : act course with ⟨halt | outcome, mid⟩
  · rw [bind_error ran]
    exact of_run first here ran
  · rw [bind_ok ran]
    obtain ⟨leads, ends⟩ := of_run first here ran
    rcases rest outcome with ⟨followUp, same⟩ | ⟨failed, pending, waits, same⟩
    · rw [same]
      exact ⟨leads.finish followUp, suits.ends_finish followUp ends⟩
    · rw [same]
      cases outcome with
      | failed failure =>
        exact ⟨lingers_waiting.trans leads (lingers_waiting.pending _ _),
          repend ends mode trivial waits⟩
      | _ => cases failed

theorem retry {pending : PendingRetry} (mode : conduct.mode = .nonBlocking)
    (fits : conduct.fits pending.command) : (n.retry pending).Conforms conduct := by
  have launched := suits.launchWith suits.dispatch pending.key pending.followUp fits
  have waits : conduct.Waits (.retry pending) := fits
  have kept := keepingPending mode waits (suits.restoring launched)
  refine suits.handOnOrPend mode kept fun outcome => ?_
  cases failed : outcome.isFailure with
  | false => exact .inl ⟨pending.followUp, rfl⟩
  | true =>
    cases n.isGivenUp (pending.attempts + 1) with
    | true => exact .inl ⟨.plain .blocking, rfl⟩
    | false => exact .inr ⟨rfl, .retry { pending with attempts := pending.attempts + 1 }, fits, rfl⟩

theorem answer {pending : PendingMenu} (mode : conduct.mode = .nonBlocking)
    (offered : ∀ item ∈ pending.view.model.items, conduct.offers item) (line : String) :
    (n.answer pending line).Conforms conduct := by
  have left {course : Course World} {result : Except Halt Outcome} {menu : PendingMenu}
      (suspends : Suspends result) (borne : conduct.bears result)
      (all : ∀ item ∈ menu.view.model.items, conduct.offers item) :
      course.session.Lingers (course.pend (.menu menu)).session ∧
        conduct.Ends course result (course.pend (.menu menu)) :=
    ⟨lingers_waiting.pending _ _, repend (.through borne (suits.refl course)) mode suspends all⟩
  cases resolved : pending.view.model.resolve line with
  | error error =>
    unfold Navigator.answer
    rw [resolved]
    intro course _
    exact left trivial (suits.reports _ rfl (Outcome.selection_not_malformed error)) offered
  | ok selection =>
    have all := Menu.Model.all_of_resolve offered resolved
    have launched (whole : ∀ model, selection ≠ .narrowed model) :
        (n.answer pending line).Conforms conduct := by
      rw [n.answer_of_selection resolved whole]
      have waits : conduct.Waits (.menu pending) := offered
      have kept := keepingPending mode waits (suits.select suits.dispatch all)
      refine suits.handOnOrPend mode kept fun outcome => ?_
      cases again : pending.followUp.required && outcome.isFailure with
      | false => exact .inl ⟨pending.followUp, rfl⟩
      | true =>
        simp only [Bool.and_eq_true] at again
        exact .inr ⟨again.2, .menu pending, offered, rfl⟩
    cases selection with
    | narrowed model =>
      unfold Navigator.answer
      rw [resolved]
      intro course _
      exact left trivial (suits.prompts _ mode) all
    | single | multi => exact launched nofun

/-- An answer begins with nothing pending. What it answers has to be known. -/
theorem resume {course after : Course World} {result : Except Halt Outcome} {line : String}
    (here : conduct.here course.session)
    (known : ∀ pending, course.session.pending = some pending →
      conduct.mode = .nonBlocking ∧ conduct.Waits pending)
    (resumed : n.resume line course = (result, after)) :
    course.session.Leads Lingers result after.session ∧
      conduct.Ends course.unasked result after := by
  refine ⟨(n.resume_travels line).of_run resumed, ?_⟩
  have there : conduct.here course.unasked.session :=
    suits.stays here (lingers_waiting.pending _ none)
  rw [resume_eq] at resumed
  cases waits : course.session.pending with
  | none =>
    rw [waits] at resumed
    have nothing : ¬(Outcome.refused .validation "nothing is waiting for input").Malformed := by
      have begins : ['n'] <+: "nothing is waiting for input".toList := by decide
      exact Outcome.not_malformed_of_start _ begins (by decide)
    exact (of_run (suits.failing nothing) there resumed).2
  | some pending =>
    rw [waits] at resumed
    obtain ⟨mode, fits⟩ := known pending waits
    cases pending with
    | retry pending => exact (of_run (suits.retry mode fits) there resumed).2
    | menu pending => exact (of_run (suits.answer mode fits line) there resumed).2

end Conduct.Suits

end Signpost
