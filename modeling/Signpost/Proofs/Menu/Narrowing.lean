import Signpost.Proofs.Menu.Building
import Signpost.Proofs.Menu.Resolution

/-! Narrowing a menu.

Whatever is asked for, narrowing only drops options: what is left is in its old order, and the back
item stays last. Which options are dropped depends on all needles together and not on their order. -/

namespace Signpost.Menu.Model

variable {model left : Model} {item : Item} {line needle : String}

/-- The options, and behind them the back item where going back is allowed. -/
def BackLast (model : Model) : Prop :=
  model.items = model.options ++ if model.allowBack then [backItem] else []

structure Narrower (model left : Model) : Prop where
  items : left.items.Sublist model.items
  title : left.title = model.title
  allowBack : left.allowBack = model.allowBack
  multi : left.multi = model.multi
  source : left.source = model.source

theorem Narrower.refl (model : Model) : Narrower model model := ⟨List.Sublist.refl _, rfl, rfl, rfl, rfl⟩

theorem Narrower.trans {narrower : Model} (first : Narrower model left) (second : Narrower left narrower) :
    Narrower model narrower where
  items := second.items.trans first.items
  title := second.title.trans first.title
  allowBack := second.allowBack.trans first.allowBack
  multi := second.multi.trans first.multi
  source := second.source.trans first.source

/-! ## Keeping some of the options -/

def keeping (model : Model) (kept : Item → Bool) : Model :=
  { model with items := model.items.filter fun item => item.back || kept item }

theorem narrow_eq_keeping (model : Model) (needle : String) :
    model.narrow needle = model.keeping (·.holds (Text.lower (Text.trim needle))) := rfl

theorem keeping_narrower (model : Model) (kept : Item → Bool) : Narrower model (model.keeping kept) :=
  ⟨List.filter_sublist, rfl, rfl, rfl, rfl⟩

theorem options_keeping (model : Model) (kept : Item → Bool) :
    (model.keeping kept).options = model.options.filter kept := by
  unfold options keeping
  rw [List.filter_filter, List.filter_filter]
  apply List.filter_congr
  intro item _
  cases item.back <;> simp

theorem BackLast.keeping (last : BackLast model) (kept : Item → Bool) :
    BackLast (model.keeping kept) := by
  have optional : ∀ item ∈ model.options, (item.back || kept item) = kept item := by
    intro item member
    have plain : item.back = false := by simpa [options] using (List.mem_filter.mp member).2
    simp [plain]
  unfold BackLast
  rw [options_keeping]
  calc
    model.items.filter (fun item => item.back || kept item)
      = model.options.filter (fun item => item.back || kept item) ++
          (if model.allowBack then [backItem] else []).filter fun item => item.back || kept item := by
        rw [← List.filter_append]
        exact congrArg _ last
    _ = model.options.filter kept ++ if model.allowBack then [backItem] else [] := by
        rw [List.filter_congr optional]
        cases model.allowBack <;> simp [backItem]

theorem keeping_keeping (model : Model) (kept kept' : Item → Bool) :
    (model.keeping kept).keeping kept' = model.keeping fun item => kept item && kept' item := by
  unfold keeping
  rw [List.filter_filter]
  congr 1
  apply List.filter_congr
  intro item _
  cases item.back <;> simp [Bool.and_comm]

theorem narrow_comm (model : Model) (needle other : String) :
    (model.narrow needle).narrow other = (model.narrow other).narrow needle := by
  simp only [narrow_eq_keeping, keeping_keeping, Bool.and_comm]

theorem narrow_narrow (model : Model) (needle : String) :
    (model.narrow needle).narrow needle = model.narrow needle := by
  simp only [narrow_eq_keeping, keeping_keeping, Bool.and_self]

theorem mem_narrow_iff : item ∈ (model.narrow needle).items ↔
    item ∈ model.items ∧ (item.back = true ∨ Holds (Text.trim needle) item) := by
  rw [narrow, List.mem_filter, Bool.or_eq_true, holds_iff]

/-! ## Narrowing lines -/

theorem resolve_filter (filtered : Text.trim line = "/" ++ needle) :
    model.resolve line =
      match (model.narrow needle).options with
      | [] => .error (.noMatch (Text.trim needle))
      | [item] => .ok (.single item)
      | _ => .ok (.narrowed (model.narrow needle)) := by
  have slash : Text.trimChars line.toList = '/' :: needle.toList := by
    rw [← toList_trim, filtered, String.toList_append]
    rfl
  have whole : String.ofList needle.toList = needle := String.ofList_toList
  unfold resolve
  rw [slash]
  generalize needle.toList = chars at whole ⊢
  subst whole
  rfl

theorem unfiltered_ne_narrowed (unfiltered : Unfiltered line) (narrower : Model) :
    model.resolve line ≠ .ok (.narrowed narrower) := by
  intro resolved
  by_cases divided : ',' ∈ (Text.trim line).toList
  · rw [resolve_of_divided unfiltered divided] at resolved
    split at resolved
    next =>
      obtain ⟨_, _, same⟩ := of_map_ok resolved
      cases same
    next => cases resolved
  · rw [resolve_of_single ⟨unfiltered, divided⟩] at resolved
    obtain ⟨_, _, same⟩ := of_map_ok resolved
    cases same

/-- A line narrows a menu exactly if it is a filter that leaves several options. -/
theorem resolve_eq_narrowed_iff {narrower : Model} : model.resolve line = .ok (.narrowed narrower) ↔
    ∃ needle, Text.trim line = "/" ++ needle ∧ narrower = model.narrow needle ∧
      2 ≤ narrower.options.length := by
  constructor
  · intro resolved
    have slash : (Text.trim line).toList.head? = some '/' := by
      by_contra unfiltered
      exact unfiltered_ne_narrowed unfiltered narrower resolved
    obtain ⟨needle, text⟩ := List.head?_eq_some_iff.mp slash
    have filtered : Text.trim line = "/" ++ String.ofList needle :=
      String.toList_inj.mp (by simpa using text)
    rw [resolve_filter filtered] at resolved
    split at resolved
    next => cases resolved
    next => cases resolved
    next none one =>
      cases resolved
      refine ⟨String.ofList needle, filtered, rfl, ?_⟩
      generalize (model.narrow (String.ofList needle)).options = options at none one ⊢
      rcases options with _ | ⟨first, _ | ⟨second, rest⟩⟩
      · exact absurd rfl none
      · exact absurd rfl (one first)
      · simp
  · rintro ⟨needle, filtered, rfl, several⟩
    rw [resolve_filter filtered]
    generalize (model.narrow needle).options = options at several ⊢
    rcases options with _ | ⟨first, _ | ⟨second, rest⟩⟩
    · simp at several
    · simp at several
    · rfl

/-- What is left of a model after filters, and after lines that select nothing. -/
inductive Narrows (model : Model) : Model → Prop where
  | start : Narrows model model
  | filter {left : Model} (needle : String) : Narrows model left → Narrows model (left.narrow needle)
  | line {left narrower : Model} {line : String} :
      Narrows model left → left.retained line = some narrower → Narrows model narrower

theorem of_retained_narrow (kept : model.retained line = some left) :
    left = model ∨ ∃ needle, left = model.narrow needle := by
  rcases of_retained kept with ⟨_, _, same⟩ | resolved
  · exact .inl same
  · obtain ⟨needle, _, same, _⟩ := resolve_eq_narrowed_iff.mp resolved
    exact .inr ⟨needle, same⟩

theorem Narrows.kept {kind : Model → Prop} (narrows : Narrows model left)
    (step : ∀ left needle, kind left → kind (left.narrow needle)) (start : kind model) :
    kind left := by
  induction narrows with
  | start => exact start
  | filter needle _ ih => exact step _ needle ih
  | line _ kept ih =>
    rcases of_retained_narrow kept with rfl | ⟨needle, rfl⟩
    · exact ih
    · exact step _ needle ih

theorem Narrows.narrower (narrows : Narrows model left) : Narrower model left :=
  narrows.kept (fun left _ before => before.trans (left.keeping_narrower _)) (.refl model)

theorem Narrows.backLast (narrows : Narrows model left) (last : BackLast model) : BackLast left :=
  narrows.kept (fun _ _ before => before.keeping _) last

/-! ## Menus as they are built -/

theorem options_assemble {items : List Item} (plain : ∀ item ∈ items, item.back = false)
    (options : Options) (kind : SourceKind) : (assemble items options kind).options = items := by
  have optional : items.filter (fun item => !item.back) = items := by
    apply List.filter_eq_self.mpr
    intro item member
    simp [plain item member]
  unfold Model.options assemble
  cases options.allowBack <;> simp [optional, backItem]

/-- What is known of a menu that has been built: it has an option, its options are those of the usable
entries of its source, and the back item stands last if going back is allowed. -/
structure Sound (source : Source) (options : Options) (model : Model) : Prop where
  some : model.options ≠ []
  entries : ∃ entries, source.Gives entries ∧ Entry.Yields entries model.options
  backLast : BackLast model
  title : model.title = options.title
  allowBack : model.allowBack = options.allowBack
  multi : model.multi = options.multi
  source : model.source = source.kind

theorem sound_of_build {source : Source} {options : Options}
    (built : build source options = .ok model) : Sound source options model := by
  obtain ⟨items, given, some, rfl⟩ := build_eq_ok_iff.mp built
  obtain ⟨entries, gives, yields⟩ := Source.gives_of_items given
  have same := options_assemble yields.not_back options source.kind
  exact {
    some := by rwa [same]
    entries := ⟨entries, gives, by rwa [same]⟩
    backLast := by
      unfold BackLast
      rw [same]
      unfold assemble
      cases options.allowBack <;> simp
    title := rfl
    allowBack := rfl
    multi := rfl
    source := rfl }

/-- Menus are built well formed and stay so, however often they are narrowed; narrowing leaves several
options or selects. Filters hold what they are asked for, asking again changes nothing, and the order
in which is asked does not count. -/
theorem narrowing_keeps_form :
    (∀ source options model, build source options = .ok model →
      Sound source options model ∧
      ∀ left, Narrows model left → BackLast left ∧ Narrower model left ∧
        ∀ line narrower, left.resolve line = .ok (.narrowed narrower) →
          2 ≤ narrower.options.length) ∧
    ∀ (model : Model) needle other,
      (∀ item, item ∈ (model.narrow needle).items ↔
        item ∈ model.items ∧ (item.back = true ∨ Holds (Text.trim needle) item)) ∧
      (model.narrow needle).narrow needle = model.narrow needle ∧
      (model.narrow needle).narrow other = (model.narrow other).narrow needle := by
  constructor
  · intro source options model built
    have sound := sound_of_build built
    refine ⟨sound, fun left narrows => ⟨narrows.backLast sound.backLast, narrows.narrower, ?_⟩⟩
    intro line narrower resolved
    obtain ⟨_, _, _, several⟩ := resolve_eq_narrowed_iff.mp resolved
    exact several
  · intro model needle other
    exact ⟨fun item => mem_narrow_iff, model.narrow_narrow needle, model.narrow_comm needle other⟩

def fruit : Source :=
  .list [.null, .str "Apple", .str " ", .obj [("target", .str "stone")],
    .obj [("label", .str "Grape"), ("target", .str "vine")], .str "Pear"]

def fruitMenu : Model where
  items := [⟨"Apple", "Apple", false⟩, ⟨"Grape", "vine", false⟩, ⟨"Pear", "Pear", false⟩, backItem]
  title := none
  allowBack := true
  multi := false
  source := .list

theorem narrowing_keeps_form_fruit :
    build fruit { allowBack := true } = .ok fruitMenu ∧ Sound fruit { allowBack := true } fruitMenu ∧
      fruitMenu.retained " /AP" = some (fruitMenu.narrow "ap") ∧
      BackLast ((fruitMenu.narrow "ap").narrow "P") ∧
      Narrower fruitMenu ((fruitMenu.narrow "ap").narrow "P") ∧
      (fruitMenu.narrow "ap").resolve "/e" = .ok (.narrowed (fruitMenu.narrow "ap")) ∧
      2 ≤ (fruitMenu.narrow "ap").options.length ∧
      (⟨"Grape", "vine", false⟩ : Item) ∈ (fruitMenu.narrow " AP ").items ∧
      (fruitMenu.narrow "ap").narrow "P" = (fruitMenu.narrow "P").narrow "ap" := by
  obtain ⟨forms, filters⟩ := narrowing_keeps_form
  have built : build fruit { allowBack := true } = .ok fruitMenu := by rfl
  obtain ⟨sound, keeps⟩ := forms fruit { allowBack := true } fruitMenu built
  have asked : fruitMenu.retained " /AP" = some (fruitMenu.narrow "ap") := by decide
  have again : (fruitMenu.narrow "ap").resolve "/e" = .ok (.narrowed (fruitMenu.narrow "ap")) := by
    decide
  have once : Narrows fruitMenu (fruitMenu.narrow "ap") := .line .start asked
  obtain ⟨last, narrower, _⟩ := keeps _ (.filter "P" once)
  have several := (keeps _ once).2.2 "/e" _ again
  have held := ((filters fruitMenu " AP " "").1 ⟨"Grape", "vine", false⟩).mpr
    ⟨by decide, .inr (holds_iff.mp (by decide))⟩
  exact ⟨built, sound, asked, last, narrower, again, several, held, (filters fruitMenu "ap" "P").2.2⟩

end Signpost.Menu.Model
