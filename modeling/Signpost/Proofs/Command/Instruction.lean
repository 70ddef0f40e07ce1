import Signpost.Command.Instruction
import Signpost.Proofs.Text.Split

/-! How instructions are taken apart.

The balance check and the splitting at commas go over the same text and stand at the same place after
each character, so what one of them passes over the other passes over too. Text after which they stand
where they have been before stands for itself: whatever is put together from such pieces with commas
between them is accepted, and is taken apart into them again. -/

namespace Signpost.Instruction

variable {text rest inner : List Char} {c mark : Char}

/-! ## Places -/

/-- Where a scanner stands: how many brackets are open, and which quote. -/
structure Place where
  depth : Nat
  quote : Option Char
deriving DecidableEq

namespace Place

def outside : Place := ⟨0, none⟩

def after (place : Place) (c : Char) : Place :=
  match place.quote with
  | some q => { place with quote := if c = q then none else some q }
  | none =>
      if isQuote c then { place with quote := some c }
      else if isOpening c then { place with depth := place.depth + 1 }
      else if isClosing c then { place with depth := place.depth - 1 }
      else place

end Place

open Place

theorem checkBalance_cons (place : Place) (c : Char) (rest : List Char) :
    checkBalance place.depth place.quote (c :: rest) =
      if place = outside ∧ isClosing c = true then .error .unbalanced
      else checkBalance (place.after c).depth (place.after c).quote rest := by
  obtain ⟨depth, quote⟩ := place
  cases quote with
  | some q => simp [checkBalance, after, outside]
  | none =>
    have closing (opens : isQuote c = true ∨ isOpening c = true) : isClosing c = false := by
      simp only [isQuote, isOpening, Bool.or_eq_true, beq_iff_eq] at opens
      rcases opens with (rfl | rfl) | (rfl | rfl) | rfl <;> rfl
    simp only [checkBalance, after, outside, Place.mk.injEq, and_true]
    by_cases quotes : isQuote c = true
    · simp [quotes, closing (.inl quotes)]
    by_cases opens : isOpening c = true
    · simp [quotes, opens, closing (.inr opens)]
    by_cases closes : isClosing c = true
    · cases depth <;> simp [quotes, opens, closes]
    · simp [quotes, opens, closes]

theorem pieces_ne_nil (depth : Nat) (quote : Option Char) (text : List Char) :
    pieces depth quote text ≠ [] := by
  cases text with
  | nil => nofun
  | cons c rest =>
    rw [pieces.eq_def]
    dsimp only
    split
    next => split <;> nofun
    next =>
      split_ifs
      any_goals split <;> nofun
      exact List.cons_ne_nil _ _

/-- A comma outside of quotes and brackets begins a new piece. -/
theorem pieces_cons (place : Place) (c : Char) (rest : List Char) :
    pieces place.depth place.quote (c :: rest) =
      if place = outside ∧ c = ',' then [] :: pieces 0 none rest
      else (pieces (place.after c).depth (place.after c).quote rest).modifyHead (c :: ·) := by
  split
  next cut =>
    obtain ⟨rfl, rfl⟩ := cut
    rw [pieces.eq_def]
    rfl
  next joined =>
    obtain ⟨first, others, split⟩ := List.exists_cons_of_ne_nil
      (pieces_ne_nil (place.after c).depth (place.after c).quote rest)
    rw [split, List.modifyHead_cons, pieces.eq_def]
    obtain ⟨depth, quote⟩ := place
    cases quote with
    | some q =>
      simp only [after] at split
      simp only [split]
    | none =>
      have whole : ¬(decide (c = ',') && depth == 0) = true := by
        simpa [outside, and_comm] using joined
      simp only [after] at split
      simp only [whole, Bool.false_eq_true, if_false]
      split_ifs at split ⊢
      all_goals simp only [split]

/-! ## Text that is passed over -/

/-- Scanners pass over the text and come from one place to the other: no bracket in it closes what has
been opened before, and no comma in it ends a piece. -/
inductive Passes : Place → List Char → Place → Prop
  | nil (place : Place) : Passes place [] place
  | cons {place target : Place} {c : Char} {rest : List Char}
      (within : place = outside → c ≠ ',' ∧ isClosing c = false)
      (later : Passes (place.after c) rest target) : Passes place (c :: rest) target

namespace Passes

variable {place target : Place}

theorem checkBalance (passes : Passes place text target) (rest : List Char) :
    checkBalance place.depth place.quote (text ++ rest) =
      Instruction.checkBalance target.depth target.quote rest := by
  induction passes with
  | nil => rfl
  | cons within _ ih =>
    rw [List.cons_append, checkBalance_cons, if_neg, ih]
    rintro ⟨out, closes⟩
    rw [(within out).2] at closes
    cases closes

theorem pieces (passes : Passes place text target) (rest : List Char) :
    pieces place.depth place.quote (text ++ rest) =
      (Instruction.pieces target.depth target.quote rest).modifyHead (text ++ ·) := by
  induction passes with
  | nil => exact (congrFun List.modifyHead_id _).symm
  | cons within _ ih =>
    rw [List.cons_append, pieces_cons, if_neg, ih, List.modifyHead_modifyHead]
    · rfl
    · exact fun ⟨out, comma⟩ => (within out).1 comma

theorem append {between : Place} (passes : Passes place text between)
    (later : Passes between rest target) : Passes place (text ++ rest) target := by
  induction passes with
  | nil => exact later
  | cons within _ ih => exact .cons within (ih later)

end Passes

/-- The characters of which scanners take notice outside of quotes: quotes, brackets of every kind, and
commas. -/
def isMark (c : Char) : Bool := isQuote c || isOpening c || isClosing c || c == ','

theorem isMark_eq_false_iff : isMark c = false ↔
    isQuote c = false ∧ isOpening c = false ∧ isClosing c = false ∧ c ≠ ',' := by
  simp [isMark, and_assoc]

theorem isMark_of_isDigit (digit : c.isDigit = true) : isMark c = false := by
  refine Bool.eq_false_iff.mpr fun mark => ?_
  simp only [isMark, isQuote, isOpening, isClosing, Bool.or_eq_true, beq_iff_eq] at mark
  rcases mark with (((rfl | rfl) | (rfl | rfl) | rfl) | (rfl | rfl) | rfl) | rfl
  all_goals cases digit

theorem passes_unmarked (plain : ∀ c ∈ text, isMark c = false) : Passes outside text outside := by
  induction text with
  | nil => exact .nil outside
  | cons c text ih =>
    obtain ⟨quote, opening, closing, comma⟩ := isMark_eq_false_iff.mp (plain c List.mem_cons_self)
    refine .cons (fun _ => ⟨comma, closing⟩) ?_
    have stays : outside.after c = outside := by simp [after, outside, quote, opening, closing]
    rw [stays]
    exact ih fun other later => plain other (List.mem_cons_of_mem c later)

theorem isQuote_iff : isQuote mark = true ↔ mark = '"' ∨ mark = '\'' := by
  simp [isQuote]

theorem passes_quoted (quote : isQuote mark = true) (absent : mark ∉ text) :
    Passes outside (mark :: (text ++ [mark])) outside := by
  have inside : Passes ⟨0, some mark⟩ (text ++ [mark]) outside := by
    induction text with
    | nil =>
      refine .cons nofun ?_
      simpa [after, outside] using Passes.nil outside
    | cons c text ih =>
      obtain ⟨here, later⟩ := List.ne_and_not_mem_of_not_mem_cons absent
      refine .cons nofun ?_
      simpa [after, Ne.symm here] using ih later
  refine .cons (fun _ => ?_) (by simpa [after, outside, quote] using inside)
  rcases isQuote_iff.mp quote with rfl | rfl <;> decide

/-! ## Arguments -/

structure IsArgument (text : List Char) : Prop where
  passes : Passes outside text outside
  trimmed : Text.trimChars text = text
  shown : text ≠ []

theorem IsArgument.not_blank (argument : IsArgument text) : text.all Text.isBlank = false := by
  refine Bool.eq_false_iff.mpr fun blank => argument.shown ?_
  rw [← argument.trimmed, Text.trimChars,
    Text.trimStart_eq_nil_iff.mpr (List.all_eq_true.mp blank)]
  rfl

def joined (first : List Char) (others : List (List Char)) : List Char :=
  first ++ others.flatMap fun text => ',' :: ' ' :: text

section Joined

variable {first : List Char} {others : List (List Char)}

theorem passes_blank (passes : Passes outside text outside) : Passes outside (' ' :: text) outside :=
  .cons (fun _ => by decide) passes

theorem pieces_joined (passes : Passes outside first outside)
    (each : ∀ text ∈ others, Passes outside text outside) :
    pieces 0 none (joined first others) = first :: others.map (' ' :: ·) := by
  induction others generalizing first with
  | nil =>
    rw [joined, List.flatMap_nil]
    simpa [pieces, outside] using passes.pieces []
  | cons next others ih =>
    obtain ⟨here, later⟩ := List.forall_mem_cons.mp each
    calc
      pieces 0 none (joined first (next :: others)) =
          (pieces 0 none (',' :: joined (' ' :: next) others)).modifyHead (first ++ ·) :=
        passes.pieces _
      _ = ([] :: pieces 0 none (joined (' ' :: next) others)).modifyHead (first ++ ·) :=
        congrArg _ (pieces_cons outside ',' _)
      _ = first :: (' ' :: next) :: others.map (' ' :: ·) := by
        rw [ih (passes_blank here) later, List.modifyHead_cons, List.append_nil]

theorem checkBalance_joined (passes : Passes outside first outside)
    (each : ∀ text ∈ others, Passes outside text outside) :
    checkBalance 0 none (joined first others) = .ok () := by
  induction others generalizing first with
  | nil => exact passes.checkBalance []
  | cons next others ih =>
    obtain ⟨here, later⟩ := List.forall_mem_cons.mp each
    calc
      checkBalance 0 none (joined first (next :: others)) =
          checkBalance 0 none (',' :: joined (' ' :: next) others) := passes.checkBalance _
      _ = checkBalance 0 none (joined (' ' :: next) others) := checkBalance_cons outside ',' _
      _ = .ok () := ih (passes_blank here) later

theorem splitArguments_joined (each : ∀ text ∈ first :: others, IsArgument text) :
    splitArguments (joined first others) = .ok (first :: others) := by
  have argument := each first List.mem_cons_self
  have later (text : List Char) (member : text ∈ others) : IsArgument text :=
    each text (List.mem_cons_of_mem first member)
  have shown : (joined first others).all Text.isBlank = false := by
    rw [joined, List.all_append, argument.not_blank, Bool.false_and]
  have trimmed : (first :: others.map (' ' :: ·)).map Text.trimChars = first :: others := by
    have blank (text : List Char) : Text.trimChars (' ' :: text) = Text.trimChars text := rfl
    have same : others.map (fun text => Text.trimChars (' ' :: text)) = others.map id :=
      List.map_congr_left fun text member => (blank text).trans (later text member).trimmed
    rw [List.map_cons, argument.trimmed, List.map_map]
    exact congrArg (first :: ·) (same.trans (List.map_id others))
  have full : (first :: others).any List.isEmpty = false := by
    refine List.any_eq_false.mpr fun text member => ?_
    simpa using (each text member).shown
  have cut := pieces_joined argument.passes fun text member => (later text member).passes
  unfold splitArguments
  simp only [shown, cut, trimmed, full, Bool.false_eq_true, ↓reduceIte]

end Joined

/-! ## Quotes around an argument -/

theorem unquoteWith_eq_none (other : text.head? ≠ some mark) : unquoteWith mark text = none := by
  unfold unquoteWith
  split
  next c next rest =>
    have different : c ≠ mark := fun same => other (congrArg some same)
    simp [different]
  next => rfl

theorem unquoteWith_quoted (mark : Char) (text : List Char) :
    unquoteWith mark (mark :: (text ++ [mark])) = some text := by
  have shown : text ++ [mark] ≠ [] := by simp
  obtain ⟨next, rest, split⟩ := List.exists_cons_of_ne_nil shown
  have ends : (next :: rest).getLast? = some mark := by rw [← split, List.getLast?_concat]
  have inside : (next :: rest).dropLast = text := by rw [← split, List.dropLast_concat]
  rw [split, unquoteWith, ends, inside]
  simp

theorem unquote_unmarked (trimmed : Text.trimChars text = text)
    (plain : ∀ c ∈ text, isMark c = false) : unquote text = text := by
  have head (mark : Char) (notice : isMark mark = true) : text.head? ≠ some mark := fun first =>
    Bool.eq_false_iff.mp (plain mark (List.mem_of_head? first)) notice
  unfold unquote
  simp only [trimmed, unquoteWith_eq_none (head '"' rfl), unquoteWith_eq_none (head '\'' rfl),
    Option.getD_none]

theorem isBlank_of_isQuote (quote : isQuote mark = true) : Text.isBlank mark = false := by
  rcases isQuote_iff.mp quote with rfl | rfl <;> decide

theorem trimChars_quoted (quote : isQuote mark = true) (text : List Char) :
    Text.trimChars (mark :: (text ++ [mark])) = mark :: (text ++ [mark]) := by
  have visible := isBlank_of_isQuote quote
  have start : Text.trimChars ([] ++ mark :: (text ++ [mark])) = _ := Text.trimChars_append visible
  have ending : Text.trimEnd (text ++ mark :: []) = _ := Text.trimEnd_append visible
  rw [ending] at start
  exact start

/-- Exactly the quotes around a text are taken off. -/
theorem unquote_quoted (quote : isQuote mark = true) (text : List Char) :
    unquote (mark :: (text ++ [mark])) = text := by
  unfold unquote
  rw [trimChars_quoted quote]
  dsimp only
  rcases isQuote_iff.mp quote with rfl | rfl
  · rw [unquoteWith_quoted, Option.getD_some]
  · rw [unquoteWith_quoted, unquoteWith_eq_none (by simp), Option.getD_none, Option.getD_some]

theorem isArgument_quoted (quote : isQuote mark = true) (absent : mark ∉ text) :
    IsArgument (mark :: (text ++ [mark])) where
  passes := passes_quoted quote absent
  trimmed := trimChars_quoted quote text
  shown := List.cons_ne_nil _ _

/-! ## Verbs -/

theorem mem_of_start? {verb : Verb} (start : start? text = some (verb, rest)) : '(' ∈ text := by
  have parenthesis {text rest : List Char} (after : afterParenthesis? text = some rest) :
      '(' ∈ text := by
    unfold afterParenthesis? at after
    split at after
    next shown => exact Text.trimStart_subset text (shown ▸ List.mem_cons_self)
    next => cases after
  have dropped {word text rest : List Char} (drop : Text.dropStart? word text = some rest) :
      rest ⊆ text := by
    induction word generalizing text with
    | nil =>
      cases drop
      exact List.Subset.refl _
    | cons s word ih =>
      cases text with
      | nil => cases drop
      | cons c text =>
        rw [Text.dropStart?] at drop
        split at drop
        · exact List.subset_cons_of_subset c (ih drop)
        · cases drop
  unfold start? at start
  split at start
  next c rest shown =>
    split at start
    · obtain ⟨body, after, _⟩ := Option.map_eq_some_iff.mp start
      refine Text.trimStart_subset text (shown ▸ ?_)
      exact List.mem_cons_of_mem _ (List.mem_cons_of_mem _
        ((List.dropWhile_sublist _).subset (parenthesis after)))
    · cases start
  next =>
    obtain ⟨⟨word, verb'⟩, _, found⟩ := List.exists_of_findSome?_eq_some start
    obtain ⟨rest', drop, after⟩ := Option.bind_eq_some_iff.mp found
    obtain ⟨body, after, _⟩ := Option.map_eq_some_iff.mp after
    exact Text.trimStart_subset text (dropped drop (parenthesis after))

theorem start?_word {word : String} {verb : Verb} (listed : (word, verb) ∈ verbs)
    (rest : List Char) : start? (word.toList ++ '(' :: rest) = some (verb, rest) := by
  simp only [verbs, List.mem_cons, Prod.mk.injEq, List.not_mem_nil, or_false] at listed
  rcases listed with ⟨rfl, rfl⟩ | ⟨rfl, rfl⟩ | ⟨rfl, rfl⟩ | ⟨rfl, rfl⟩ | ⟨rfl, rfl⟩
  all_goals rfl

/-- Whether a name consists of letters, digits, underscores, points and hyphens and begins with a letter
or an underscore. -/
def isPlainName : List Char → Bool
  | [] => false
  | c :: more =>
      (c.isAlpha || c == '_') && more.all fun c => c.isAlphanum || c == '_' || c == '.' || c == '-'

theorem continuesName_of_isAlphanum (letter : c.isAlphanum = true) : continuesName c = true := by
  have below {greatest : Char} (within : c.val ≤ greatest.val) : c.toNat ≤ greatest.toNat :=
    UInt32.le_iff_toNat_le.mp within
  have ascii : c.toNat < 0x80 := by
    rcases Bool.or_eq_true_iff.mp letter with alpha | digit
    · rcases Bool.or_eq_true_iff.mp alpha with upper | lower
      · exact Nat.lt_of_le_of_lt (below (of_decide_eq_true upper).2) (by decide)
      · exact Nat.lt_of_le_of_lt (below (of_decide_eq_true (Bool.and_eq_true_iff.mp lower).2))
          (by decide)
    · exact Nat.lt_of_le_of_lt (below (of_decide_eq_true (Bool.and_eq_true_iff.mp digit).2))
        (by decide)
  simp [continuesName, Text.isWord, ascii, letter]

theorem start?_function {name : List Char} (word : isPlainName name = true) (rest : List Char) :
    start? ('@' :: (name ++ '(' :: rest)) = some (.function (String.ofList name), rest) := by
  obtain _ | ⟨c, more⟩ := name
  · cases word
  obtain ⟨first, later⟩ := Bool.and_eq_true_iff.mp word
  have starts : startsName c = true := by simpa [startsName] using first
  have all : ∀ c ∈ more, continuesName c = true := by
    intro c member
    have allowed := List.all_eq_true.mp later c member
    simp only [Bool.or_eq_true, beq_iff_eq] at allowed
    rcases allowed with ((letter | rfl) | rfl) | rfl
    · exact continuesName_of_isAlphanum letter
    all_goals decide
  have name' : (more ++ '(' :: rest).takeWhile continuesName = more := by
    rw [List.takeWhile_append_of_pos all, List.takeWhile_cons_of_neg (by decide), List.append_nil]
  have rest' : (more ++ '(' :: rest).dropWhile continuesName = '(' :: rest := by
    rw [List.dropWhile_append_of_pos all, List.dropWhile_cons_of_neg (by decide)]
  have shown : Text.trimStart ('@' :: (c :: more ++ '(' :: rest)) =
      '@' :: c :: (more ++ '(' :: rest) := rfl
  have parenthesis : afterParenthesis? ('(' :: rest) = some rest := rfl
  unfold start?
  simp only [shown, starts, name', rest', parenthesis, Option.map_some, if_true]

/-! ## Whole instructions -/

theorem read_of_start {instruction : String} {verb : Verb} {arguments : List (List Char)}
    {command : Command}
    (start : start? instruction.toList = some (verb, inner ++ [')']))
    (balanced : checkBalance 0 none inner = .ok ())
    (split : splitArguments inner = .ok arguments)
    (applied : apply verb inner arguments = .ok command) : read instruction = command := by
  have closed : Text.trimEnd (inner ++ ')' :: []) = inner ++ [')'] :=
    Text.trimEnd_append (by decide)
  have body' : body (inner ++ [')']) = .ok inner := by
    unfold body
    simp only [closed, List.getLast?_concat, List.dropLast_concat, balanced, if_true]
    rfl
  unfold read
  rw [start]
  simp only [body', bind, Except.bind, split, applied]

end Signpost.Instruction
