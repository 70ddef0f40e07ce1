import Signpost.Proofs.Host
import Signpost.Proofs.Menu
import Signpost.Proofs.Navigator.Request

/-! What is selected from a menu in blocking mode.

The menu is drawn again after every line that selects nothing. Which selection is launched in the
end depends on the model and the lines alone, and how selections are launched does not matter. -/

namespace Signpost.Navigator

open Act

variable {World : Type} (n : Navigator World) {course mid after : Course World}
  {view : Menu.View} {selection selection' : Menu.Selection} {line : String}
  {select : Menu.Selection → Act World Outcome} {rounds : Nat}

/-! ## Handing a selection over -/

/-- However selections are launched, what is asked for goes on from `mid` with launching this
one. -/
def HandsOver (asking : (Menu.Selection → Act World Outcome) → Act World Outcome)
    (course : Course World) (selection : Menu.Selection) (mid : Course World) : Prop :=
  ∀ select, asking select course = select selection mid

namespace HandsOver

variable {asking : (Menu.Selection → Act World Outcome) → Act World Outcome}

theorem unique (hands : HandsOver asking course selection mid)
    (other : HandsOver asking course selection' after) : selection = selection' ∧ mid = after := by
  have probe := (hands fun made course =>
    (if made = selection then .ok .empty else .error .exhausted, course)).symm.trans (other _)
  by_cases same : selection' = selection
  · exact ⟨same.symm, congrArg Prod.snd probe⟩
  · simp [same] at probe

theorem elim (hands : HandsOver asking course selection mid)
    {result : Except Halt Outcome × Course World} (fixed : ∀ select, asking select course = result) :
    False := by
  have first := (fixed fun _ course => (.ok .empty, course)).symm.trans (hands _)
  have second := (fixed fun _ course => (.ok .back, course)).symm.trans (hands _)
  cases first.symm.trans second

end HandsOver

/-! ## The loop -/

def lineFor (view : Menu.View) (course : Course World) : Option String × Course World :=
  let drawn := (n.render view course).2
  ((n.host.prompt selectPrompt drawn.world).1, (n.prompt selectPrompt drawn).2)

def told (view : Menu.View) (line : String) (course : Course World) : Course World :=
  match view.model.resolve line with
  | .error error => (n.display (.message error.message) course).2
  | .ok _ => course

theorem interact_succ : n.interact select (rounds + 1) view course =
    (match (n.lineFor view course).1 with
      | none => pure .abort
      | some line =>
          match view.model.resolve line with
          | .ok (.narrowed model) => n.interact select rounds { view with model := model }
          | .ok selection => select selection
          | .error error => n.display (.message error.message) >>= fun _ =>
              n.interact select rounds view : Act World Outcome) (n.lineFor view course).2 := rfl

theorem interact_of_end (ended : (n.lineFor view course).1 = none) :
    n.interact select (rounds + 1) view course = (.ok .abort, (n.lineFor view course).2) := by
  rw [interact_succ, ended]
  rfl

theorem interact_of_selects (read : (n.lineFor view course).1 = some line)
    (selects : view.model.selects line = some selection) :
    n.interact select (rounds + 1) view course = select selection (n.lineFor view course).2 := by
  obtain ⟨resolved, whole⟩ := Menu.Model.of_selects selects
  rw [interact_succ, read]
  cases selection with
  | narrowed narrower => exact absurd rfl (whole narrower)
  | single | multi => simp only [resolved]

theorem interact_of_retained {left : Menu.Model} (read : (n.lineFor view course).1 = some line)
    (retained : view.model.retained line = some left) :
    n.interact select (rounds + 1) view course =
      n.interact select rounds { view with model := left }
        (n.told view line (n.lineFor view course).2) := by
  rw [interact_succ, read]
  unfold told
  rcases Menu.Model.of_retained retained with ⟨error, rejected, rfl⟩ | narrowed
  · simp only [rejected]
    rfl
  · simp only [narrowed]

/-- The loop reads the lines of `earlier`, which select nothing, and then one that selects. -/
inductive Asked : Menu.View → Course World → List String → String → Menu.Selection →
    Course World → Prop where
  | selects {view : Menu.View} {course : Course World} {line : String}
      {selection : Menu.Selection} : (n.lineFor view course).1 = some line →
        view.model.selects line = some selection →
          Asked view course [] line selection (n.lineFor view course).2
  | retains {view : Menu.View} {course mid : Course World} {first line : String}
      {earlier : List String} {left : Menu.Model} {selection : Menu.Selection} :
      (n.lineFor view course).1 = some first → view.model.retained first = some left →
        Asked { view with model := left } (n.told view first (n.lineFor view course).2) earlier line
          selection mid →
          Asked view course (first :: earlier) line selection mid

variable {n} {earlier rest : List String}

theorem Asked.handsOver (asked : n.Asked view course earlier line selection mid)
    (enough : earlier.length < rounds) :
    HandsOver (n.interact · rounds view) course selection mid := by
  intro select
  induction asked generalizing rounds with
  | selects read selects =>
    obtain ⟨rounds, rfl⟩ := Nat.exists_eq_add_one.mpr (Nat.zero_lt_of_lt enough)
    exact n.interact_of_selects read selects
  | retains read retained _ ih =>
    obtain ⟨rounds, rfl⟩ := Nat.exists_eq_add_one.mpr (Nat.zero_lt_of_lt enough)
    exact (n.interact_of_retained read retained).trans (ih (Nat.lt_of_succ_lt_succ enough))

theorem of_handsOver (hands : HandsOver (n.interact · rounds view) course selection mid) :
    ∃ earlier line, n.Asked view course earlier line selection mid := by
  induction rounds generalizing view course with
  | zero => exact (hands.elim fun _ => rfl).elim
  | succ rounds ih =>
    cases read : (n.lineFor view course).1 with
    | none => exact (hands.elim fun _ => n.interact_of_end read).elim
    | some line =>
      rcases view.model.selects_or_retained line with ⟨made, selects, _⟩ | ⟨left, retained, _⟩
      · have here : HandsOver (n.interact · (rounds + 1) view) course made
            (n.lineFor view course).2 := fun _ => n.interact_of_selects read selects
        obtain ⟨rfl, rfl⟩ := here.unique hands
        exact ⟨[], line, .selects read selects⟩
      · have later : HandsOver (n.interact · rounds { view with model := left })
            (n.told view line (n.lineFor view course).2) selection mid := fun select =>
          (n.interact_of_retained read retained).symm.trans (hands select)
        obtain ⟨earlier, last, asked⟩ := ih later
        exact ⟨line :: earlier, last, .retains read retained asked⟩

theorem Asked.chosen (asked : n.Asked view course earlier line selection mid) :
    view.model.chosen earlier line = some selection := by
  induction asked with
  | selects _ selects => exact selects
  | retains _ retained _ ih =>
    unfold Menu.Model.chosen
    rw [retained]
    exact ih

theorem told_session (view : Menu.View) (line : String) (course : Course World) :
    (n.told view line course).session = course.session := by
  unfold told
  split <;> rfl

theorem Asked.session (asked : n.Asked view course earlier line selection mid) :
    mid.session = course.session := by
  induction asked with
  | selects => rfl
  | retains _ _ _ ih => exact ih.trans (told_session _ _ _)

section Talks

variable {kind : World → Prop} (talks : n.host.Talks kind)

include talks

theorem lineFor_keeps (here : kind course.world) : kind (n.lineFor view course).2.world :=
  talks.prompt _ _ (talks.render _ _ here)

theorem told_keeps (here : kind course.world) : kind (n.told view line course).world := by
  unfold told
  split
  · exact talks.display _ _ here
  · exact here

theorem Asked.keeps (asked : n.Asked view course earlier line selection mid)
    (here : kind course.world) : kind mid.world := by
  induction asked with
  | selects => exact lineFor_keeps talks here
  | retains _ _ _ ih => exact ih (told_keeps talks (lineFor_keeps talks here))

end Talks

/-! ## The lines that are read -/

section Reads

variable {input : World → List String} (reads : n.host.Reads input)

include reads

theorem lineFor_reads (view : Menu.View) (course : Course World) :
    (n.lineFor view course).1 = (input course.world).head? ∧
      input (n.lineFor view course).2.world = (input course.world).tail := by
  have drawn : input (n.render view course).2.world = input course.world :=
    reads.render view course.world
  rw [← drawn]
  exact ⟨reads.read _ _, reads.left _ _⟩

theorem told_reads : input (n.told view line course).world = input course.world := by
  unfold told
  split
  · exact reads.display _ _
  · rfl

theorem input_of_read (read : (n.lineFor view course).1 = some line) :
    input course.world = line :: input (n.lineFor view course).2.world := by
  obtain ⟨first, left⟩ := lineFor_reads reads view course
  obtain ⟨rest, lines⟩ := List.head?_eq_some_iff.mp (first.symm.trans read)
  rw [left, lines]
  rfl

theorem Asked.input_eq (asked : n.Asked view course earlier line selection mid) :
    input course.world = earlier ++ line :: input mid.world := by
  induction asked with
  | selects read _ => exact input_of_read reads read
  | retains read _ _ ih =>
    rw [input_of_read reads read, ← told_reads reads, ih]
    rfl

theorem asked_of_chosen (queued : input course.world = earlier ++ line :: rest)
    (chosen : view.model.chosen earlier line = some selection) :
    ∃ mid, n.Asked view course earlier line selection mid := by
  induction earlier generalizing view course with
  | nil =>
    have read : (n.lineFor view course).1 = some line := by
      rw [(lineFor_reads reads _ _).1, queued]
      rfl
    exact ⟨_, .selects read chosen⟩
  | cons first earlier ih =>
    obtain ⟨left, retained, chosen⟩ := Option.bind_eq_some_iff.mp chosen
    have read : (n.lineFor view course).1 = some first := by
      rw [(lineFor_reads reads _ _).1, queued]
      rfl
    have later : input (n.told view first (n.lineFor view course).2).world =
        earlier ++ line :: rest := by
      rw [told_reads reads, (lineFor_reads reads _ _).2, queued]
      rfl
    have next : ∃ mid, n.Asked { view with model := left } _ earlier line selection mid :=
      ih later chosen
    obtain ⟨mid, asked⟩ := next
    exact ⟨mid, .retains read retained asked⟩

theorem interact_handsOver_iff (queued : input course.world = earlier ++ line :: rest)
    (enough : earlier.length < rounds) :
    (∃ mid, HandsOver (n.interact · rounds view) course selection mid ∧ input mid.world = rest) ↔
      view.model.chosen earlier line = some selection := by
  constructor
  · rintro ⟨mid, hands, left⟩
    obtain ⟨before, last, asked⟩ := of_handsOver hands
    have same := (asked.input_eq reads).symm.trans queued
    rw [left, List.append_cons before, List.append_cons earlier] at same
    obtain ⟨rfl, rfl⟩ := List.append_singleton_inj.mp (List.append_cancel_right same)
    exact asked.chosen
  · intro chosen
    obtain ⟨mid, asked⟩ := asked_of_chosen reads queued chosen
    have same := (asked.input_eq reads).symm.trans queued
    exact ⟨mid, asked.handsOver enough, (List.cons.inj (List.append_cancel_left same)).2⟩

end Reads

end Signpost.Navigator
