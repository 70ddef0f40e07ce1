import Signpost.Proofs.Command.Instruction

/-! Arguments of balanced bodies.

Which quote is open behind a text, and by how many brackets more have been opened than closed outside of
quotes, is said here of the text by itself. In a body that passes the balance check the scanner that
takes the arguments apart counts exactly these brackets, so it never has to stop its counter at zero,
and the commas at which it cuts are those where no quote and no bracket is open. -/

namespace Signpost.Instruction

open Place

variable {body text before rest after : List Char} {place : Place} {c : Char}

/-! ## Open quotes and brackets -/

def openQuote (quote : Option Char) : List Char → Option Char
  | [] => quote
  | c :: rest =>
      match quote with
      | some q => openQuote (if c = q then none else some q) rest
      | none => openQuote (if isQuote c then some c else none) rest

/-- The characters outside of quotes, without the quotes. -/
def unquoted (quote : Option Char) : List Char → List Char
  | [] => []
  | c :: rest =>
      match quote with
      | some q => unquoted (if c = q then none else some q) rest
      | none => if isQuote c then unquoted (some c) rest else c :: unquoted none rest

/-- By how many brackets more have been opened than closed outside of quotes. -/
def excess (quote : Option Char) (text : List Char) : Int :=
  (unquoted quote text).countP isOpening - (unquoted quote text).countP isClosing

def AtTop (text : List Char) : Prop := openQuote none text = none ∧ excess none text = 0

def Place.through (place : Place) (text : List Char) : Place := text.foldl Place.after place

theorem quote_through (place : Place) (text : List Char) :
    (place.through text).quote = openQuote place.quote text := by
  induction text generalizing place with
  | nil => rfl
  | cons c text ih =>
    rw [through, List.foldl_cons, ← through, ih]
    obtain ⟨depth, quote⟩ := place
    cases quote with
    | some q => rfl
    | none =>
      simp only [openQuote, Place.after]
      split_ifs <;> rfl

theorem depth_after (accepted : ¬(place = outside ∧ isClosing c = true)) (text : List Char) :
    ((place.after c).depth : Int) + excess (place.after c).quote text =
      place.depth + excess place.quote (c :: text) := by
  obtain ⟨depth, quote⟩ := place
  cases quote with
  | some q => rfl
  | none =>
    have brackets : ¬(isOpening c = true ∧ isClosing c = true) := by
      rintro ⟨opens, closes⟩
      simp only [isOpening, Bool.or_eq_true, beq_iff_eq] at opens
      rcases opens with (rfl | rfl) | rfl <;> cases closes
    simp only [Place.after, excess, unquoted]
    by_cases quotes : isQuote c = true
    · simp only [quotes, if_true]
    by_cases opens : isOpening c = true
    · have closes : isClosing c = false := by simpa [opens] using brackets
      simp only [quotes, opens, closes, if_true, Bool.false_eq_true, if_false, List.countP_cons]
      omega
    by_cases closes : isClosing c = true
    · have deep : depth ≠ 0 := by
        rintro rfl
        exact accepted ⟨rfl, closes⟩
      simp only [quotes, opens, closes, if_true, Bool.false_eq_true, if_false, List.countP_cons]
      omega
    · simp only [quotes, opens, closes, Bool.false_eq_true, if_false, List.countP_cons]
      omega

theorem depth_after_le (place : Place) (c : Char) : (place.after c).depth ≤ place.depth + 1 := by
  unfold Place.after
  split
  next => exact Nat.le_succ _
  next =>
    split_ifs
    · exact Nat.le_succ _
    · exact Nat.le_refl _
    · exact Nat.le_succ_of_le (Nat.sub_le _ _)
    · exact Nat.le_succ _

/-- The check goes on behind any text at the start of what it accepts, and has counted the brackets that
are open there. -/
theorem checkBalance_through (place : Place)
    (accepted : checkBalance place.depth place.quote (text ++ rest) = .ok ()) :
    checkBalance (place.through text).depth (place.through text).quote rest = .ok () ∧
      ((place.through text).depth : Int) = place.depth + excess place.quote text ∧
      (place.through text).depth ≤ place.depth + text.length := by
  induction text generalizing place with
  | nil => exact ⟨accepted, by simp [through, excess, unquoted], Nat.le_add_right _ _⟩
  | cons c text ih =>
    rw [List.cons_append, checkBalance_cons] at accepted
    split at accepted
    next => cases accepted
    next passes =>
      obtain ⟨goes, exact', small⟩ := ih _ accepted
      have counted := depth_after passes text
      have once := depth_after_le place c
      rw [through, List.foldl_cons, ← through]
      refine ⟨goes, by omega, ?_⟩
      rw [List.length_cons]
      omega

/-! ## Pieces -/

/-- Two lists of pieces of neighbouring texts as one, where the last piece of the first goes on. -/
def glue : List (List Char) → List (List Char) → List (List Char)
  | [], later => later
  | [last], later => later.modifyHead (last ++ ·)
  | piece :: next :: others, later => piece :: glue (next :: others) later

theorem glue_cons {pieces : List (List Char)} (shown : pieces ≠ []) (piece : List Char)
    (later : List (List Char)) : glue (piece :: pieces) later = piece :: glue pieces later := by
  obtain ⟨next, others, rfl⟩ := List.exists_cons_of_ne_nil shown
  rfl

theorem glue_modifyHead {pieces : List (List Char)} (shown : pieces ≠ []) (c : Char)
    (later : List (List Char)) :
    glue (pieces.modifyHead (c :: ·)) later = (glue pieces later).modifyHead (c :: ·) := by
  rcases pieces with _ | ⟨piece, _ | ⟨next, others⟩⟩
  · exact absurd rfl shown
  · rw [List.modifyHead_cons, glue, glue, List.modifyHead_modifyHead]
    rfl
  · rfl

theorem pieces_append (place : Place) (text rest : List Char) :
    pieces place.depth place.quote (text ++ rest) =
      glue (pieces place.depth place.quote text)
        (pieces (place.through text).depth (place.through text).quote rest) := by
  induction text generalizing place with
  | nil => exact (congrFun List.modifyHead_id _).symm
  | cons c text ih =>
    rw [List.cons_append, pieces_cons, pieces_cons, through, List.foldl_cons, ← through]
    split
    next cut =>
      obtain ⟨rfl, rfl⟩ := cut
      rw [glue_cons (pieces_ne_nil _ _ _)]
      exact congrArg _ (ih outside)
    next => rw [glue_modifyHead (pieces_ne_nil _ _ _), ih]

/-- The text in front of one of the commas between segments. -/
inductive Front : List (List Char) → List Char → Prop
  | here {segment : List Char} {others : List (List Char)} (more : others ≠ []) :
      Front (segment :: others) segment
  | later {segment before : List Char} {others : List (List Char)} (front : Front others before) :
      Front (segment :: others) (segment ++ ',' :: before)

/-- The segments of a text between those of its commas behind which no quote and no bracket is open. -/
structure Cut (body : List Char) (segments : List (List Char)) : Prop where
  shown : segments ≠ []
  joined : [','].intercalate segments = body
  commas : ∀ before after, body = before ++ ',' :: after → (AtTop before ↔ Front segments before)

theorem intercalate_pieces (place : Place) (text : List Char) :
    [','].intercalate (pieces place.depth place.quote text) = text := by
  induction text generalizing place with
  | nil => rfl
  | cons c text ih =>
    rw [pieces_cons]
    split
    next cut =>
      obtain ⟨rfl, rfl⟩ := cut
      rw [List.intercalate_cons_of_ne_nil (pieces_ne_nil _ _ _)]
      exact congrArg (',' :: ·) (ih outside)
    next =>
      obtain ⟨first, others, split⟩ := List.exists_cons_of_ne_nil
        (pieces_ne_nil (place.after c).depth (place.after c).quote text)
      have whole := ih (place.after c)
      rw [split] at whole ⊢
      rw [List.modifyHead_cons, ← whole]
      cases others <;> simp

theorem front_nil_cons {segments : List (List Char)} (shown : segments ≠ []) :
    Front ([] :: segments) [] ∧
      ∀ before, Front ([] :: segments) (',' :: before) ↔ Front segments before := by
  refine ⟨.here shown, fun before => ⟨fun front => ?_, .later⟩⟩
  cases front with
  | later front => exact front

theorem front_modifyHead {segments : List (List Char)} (shown : segments ≠ []) (c : Char) :
    ¬Front (segments.modifyHead (c :: ·)) [] ∧
      ∀ before, Front (segments.modifyHead (c :: ·)) (c :: before) ↔ Front segments before := by
  obtain ⟨first, others, rfl⟩ := List.exists_cons_of_ne_nil shown
  rw [List.modifyHead_cons]
  refine ⟨nofun, fun before => ⟨fun front => ?_, fun front => ?_⟩⟩
  · cases front with
    | here more => exact .here more
    | later front => exact .later front
  · cases front with
    | here more => exact .here more
    | later front => exact .later front

/-- The scanner is outside of quotes and brackets exactly behind the front of a cut. -/
theorem through_eq_outside_iff (split : text = before ++ ',' :: after) :
    place.through before = outside ↔ Front (pieces place.depth place.quote text) before := by
  induction text generalizing place before with
  | nil => simp at split
  | cons c text ih =>
    rw [pieces_cons]
    cases before with
    | nil =>
      obtain ⟨rfl, rfl⟩ := List.cons.inj split
      rw [through, List.foldl_nil]
      split
      next cut => exact ⟨fun _ => (front_nil_cons (pieces_ne_nil _ _ _)).1, fun _ => cut.1⟩
      next joined =>
        have open' : place ≠ outside := fun out => joined ⟨out, rfl⟩
        have none := (front_modifyHead (pieces_ne_nil (place.after ',').depth
          (place.after ',').quote text) ',').1
        exact ⟨fun out => absurd out open', fun front => absurd front none⟩
    | cons c' before =>
      obtain ⟨rfl, later⟩ := List.cons.inj split
      rw [through, List.foldl_cons, ← through, ih later]
      split
      next cut =>
        obtain ⟨rfl, rfl⟩ := cut
        exact ((front_nil_cons (pieces_ne_nil 0 none text)).2 before).symm
      next => exact ((front_modifyHead (pieces_ne_nil _ _ _) c).2 before).symm

/-! ## Arguments -/

/-- Where the check and the splitting stand behind the front of a body: at the same number of open
brackets, which is that of the text itself, and in the same quote. -/
structure InStep (before rest : List Char) (depth : Nat) : Prop where
  counted : (depth : Int) = excess none before
  /-- A counter of 32 bits is wide enough for every body shorter than `2 ^ 31`. -/
  small : depth ≤ before.length
  checks : checkBalance 0 none (before ++ rest) = checkBalance depth (openQuote none before) rest
  splits : pieces 0 none (before ++ rest) =
    glue (pieces 0 none before) (pieces depth (openQuote none before) rest)
  /-- A bracket that closes is counted down from more than zero. -/
  closes : ∀ c after, rest = c :: after → openQuote none before = none → isClosing c = true → 0 < depth

theorem inStep (balanced : checkBalance 0 none (before ++ rest) = .ok ()) :
    InStep before rest (outside.through before).depth := by
  obtain ⟨goes, counted, small⟩ := checkBalance_through outside balanced
  have quote : (outside.through before).quote = openQuote none before := quote_through outside before
  rw [quote] at goes
  refine ⟨by simpa [outside] using counted, by simpa [outside] using small, ?_, ?_, ?_⟩
  · exact balanced.trans goes.symm
  · have split := pieces_append outside before rest
    rw [quote] at split
    exact split
  · rintro c after rfl unquoted closes
    refine Nat.pos_of_ne_zero fun none => ?_
    have refused := checkBalance_cons outside c after
    rw [if_pos ⟨rfl, closes⟩] at refused
    rw [unquoted, none] at goes
    cases refused.symm.trans goes

theorem atTop_iff (balanced : checkBalance 0 none (before ++ rest) = .ok ()) :
    AtTop before ↔ outside.through before = outside := by
  have counted := (inStep balanced).counted
  have quote : (outside.through before).quote = openQuote none before := quote_through outside before
  rw [AtTop, ← quote, ← counted]
  generalize outside.through before = place
  obtain ⟨depth, quote⟩ := place
  simp [outside, and_comm]

theorem atTop_of_balanced (balanced : checkBalance 0 none body = .ok ()) : AtTop body := by
  rw [← List.append_nil body] at balanced
  have goes := (inStep balanced).checks.symm.trans balanced
  have counted := (inStep balanced).counted
  unfold checkBalance at goes
  split_ifs at goes with quoted closed
  exact ⟨by simpa using quoted, by omega⟩

theorem cut_pieces (balanced : checkBalance 0 none body = .ok ()) : Cut body (pieces 0 none body) where
  shown := pieces_ne_nil _ _ _
  joined := intercalate_pieces outside body
  commas before after split := by
    rw [atTop_iff (split ▸ balanced)]
    exact through_eq_outside_iff split

theorem isMark_of_isBlank (blank : Text.isBlank c = true) : isMark c = false := by
  refine Bool.eq_false_iff.mpr fun mark => ?_
  simp only [isMark, isQuote, isOpening, isClosing, Bool.or_eq_true, beq_iff_eq] at mark
  rcases mark with (((rfl | rfl) | (rfl | rfl) | rfl) | (rfl | rfl) | rfl) | rfl
  all_goals cases blank

theorem pieces_of_blank (blank : ∀ c ∈ body, Text.isBlank c = true) : pieces 0 none body = [body] := by
  have whole := (passes_unmarked fun c member => isMark_of_isBlank (blank c member)).pieces []
  rw [List.append_nil] at whole
  simpa [pieces, outside] using whole

theorem splitArguments_refused (shown : ∃ c ∈ body, Text.isBlank c = false)
    (blank : ∃ piece ∈ pieces 0 none body, ∀ c ∈ piece, Text.isBlank c = true) :
    splitArguments body = .error .emptyArgument := by
  have shown' : body.all Text.isBlank = false := by simpa using shown
  have blank' : ((pieces 0 none body).map Text.trimChars).any List.isEmpty = true := by
    simpa [Text.trimChars_eq_nil_iff] using blank
  simp only [splitArguments, shown', Bool.false_eq_true, if_false, blank', if_true]

theorem splitArguments_accepted (accepted : ¬((∃ c ∈ body, Text.isBlank c = false) ∧
    ∃ piece ∈ pieces 0 none body, ∀ c ∈ piece, Text.isBlank c = true)) :
    splitArguments body =
      .ok (((pieces 0 none body).map Text.trimChars).filter fun text => !text.isEmpty) := by
  unfold splitArguments
  cases blank : body.all Text.isBlank with
  | true =>
    have blank' := List.all_eq_true.mp blank
    rw [if_pos rfl, pieces_of_blank blank', List.map_singleton, Text.trimChars_eq_nil_iff.mpr blank']
    rfl
  | false =>
    have shown : ∃ c ∈ body, Text.isBlank c = false := by simpa using blank
    have full : ((pieces 0 none body).map Text.trimChars).any List.isEmpty = false := by
      refine Bool.eq_false_iff.mpr fun empty => accepted ⟨shown, ?_⟩
      simpa [Text.trimChars_eq_nil_iff] using empty
    have all : ((pieces 0 none body).map Text.trimChars).filter (fun text => !text.isEmpty) =
        (pieces 0 none body).map Text.trimChars := by
      refine List.filter_eq_self.mpr fun text member => ?_
      simpa using List.any_eq_false.mp full text member
    rw [if_neg Bool.false_ne_true]
    dsimp only
    rw [full, if_neg Bool.false_ne_true, all]

/-- In a balanced body both scanners are in step behind every front and end with nothing open. The body
is cut at the commas at the top; its arguments are the trimmed segments that are not blank, and it is
refused exactly if it has a blank segment without being blank itself. -/
theorem arguments_between_commas (balanced : checkBalance 0 none body = .ok ()) :
    (∀ before rest, body = before ++ rest → ∃ depth, InStep before rest depth) ∧ AtTop body ∧
      ∃ segments, Cut body segments ∧
        (∀ segment ∈ segments, ∃ left right, (∀ c ∈ left, Text.isBlank c = true) ∧
          (∀ c ∈ right, Text.isBlank c = true) ∧ segment = left ++ Text.trimChars segment ++ right) ∧
        (∀ arguments, splitArguments body = .ok arguments →
          arguments = (segments.map Text.trimChars).filter fun text => !text.isEmpty) ∧
        ∀ flaw, splitArguments body = .error flaw ↔ flaw = .emptyArgument ∧
          (∃ c ∈ body, Text.isBlank c = false) ∧
          ∃ segment ∈ segments, ∀ c ∈ segment, Text.isBlank c = true := by
  refine ⟨?_, atTop_of_balanced balanced, pieces 0 none body, cut_pieces balanced,
    fun segment _ => Text.exists_margins segment, fun arguments split => ?_, fun flaw => ?_⟩
  · rintro before rest rfl
    exact ⟨_, inStep balanced⟩
  · by_cases refused : (∃ c ∈ body, Text.isBlank c = false) ∧
        ∃ piece ∈ pieces 0 none body, ∀ c ∈ piece, Text.isBlank c = true
    · rw [splitArguments_refused refused.1 refused.2] at split
      cases split
    · exact (Except.ok.inj ((splitArguments_accepted refused).symm.trans split)).symm
  · constructor
    · intro split
      by_cases refused : (∃ c ∈ body, Text.isBlank c = false) ∧
          ∃ piece ∈ pieces 0 none body, ∀ c ∈ piece, Text.isBlank c = true
      · rw [splitArguments_refused refused.1 refused.2] at split
        exact ⟨(Except.error.inj split).symm, refused⟩
      · cases (splitArguments_accepted refused).symm.trans split
    · rintro ⟨rfl, shown, blank⟩
      exact splitArguments_refused shown blank

def nested : List Char := "a , \"x,(y\",f(b, [c,'])'])".toList

theorem arguments_between_commas_nested :
    checkBalance 0 none nested = .ok () ∧ AtTop nested ∧
      ∃ segments, Cut nested segments ∧
        (segments.map Text.trimChars).filter (fun text => !text.isEmpty) =
          ["a".toList, "\"x,(y\"".toList, "f(b, [c,'])'])".toList] := by
  have balanced : checkBalance 0 none nested = .ok () := by rfl
  have split : splitArguments nested =
      .ok ["a".toList, "\"x,(y\"".toList, "f(b, [c,'])'])".toList] := by rfl
  obtain ⟨-, top, segments, cut, -, arguments, -⟩ := arguments_between_commas balanced
  exact ⟨balanced, top, segments, cut, (arguments _ split).symm⟩

end Signpost.Instruction
