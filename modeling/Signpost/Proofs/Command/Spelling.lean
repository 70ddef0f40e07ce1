import Signpost.Proofs.Command
import Signpost.Proofs.Command.Instruction
import Signpost.Proofs.Value.Legible

/-! The spellings of a call.

A call is written as an instruction in one of two ways, or as a record in one of three. An instruction
has its arguments as text: values that need no quotes in their own written form, and texts between
quotes of a kind that they do not hold. Every argument so written stands for itself and is read as its
value, so all spellings are read as the same call. -/

namespace Signpost

variable {argument : Value} {args : List Value} {name written : String}

/-! ## Arguments -/

/-- Values that are written without quotes in an instruction. -/
inductive Literal : Value → Prop
  | null : Literal .null
  | bool (value : Bool) : Literal (.bool value)
  | int {value : Int} (lower : Number.least ≤ value) (upper : value ≤ Number.greatest) :
      Literal (.num (.int value))

/-- An argument that can be written in an instruction. -/
inductive Writable : Value → Prop
  | literal {value : Value} (literal : Literal value) : Writable value
  | text {text : String} (lacks : '"' ∉ text.toList ∨ '\'' ∉ text.toList) : Writable (.str text)

/-- How an argument is written in an instruction. -/
inductive Spells : Value → String → Prop
  | literal {value : Value} (literal : Literal value) : Spells value value.text
  | quoted {text : String} {mark : Char} (quote : Instruction.isQuote mark = true)
      (absent : mark ∉ text.toList) :
      Spells (.str text) (String.singleton mark ++ text ++ String.singleton mark)

theorem exists_spells (writable : Writable argument) : ∃ written, Spells argument written := by
  cases writable with
  | literal literal => exact ⟨_, .literal literal⟩
  | text lacks =>
    rcases lacks with double | single
    · exact ⟨_, @Spells.quoted _ '"' rfl double⟩
    · exact ⟨_, @Spells.quoted _ '\'' rfl single⟩

theorem exists_forall₂_spells (writable : ∀ argument ∈ args, Writable argument) :
    ∃ written, List.Forall₂ Spells args written := by
  induction args with
  | nil => exact ⟨[], .nil⟩
  | cons argument args ih =>
    obtain ⟨first, here⟩ := exists_spells (writable argument List.mem_cons_self)
    obtain ⟨others, later⟩ := ih fun other member => writable other (List.mem_cons_of_mem _ member)
    exact ⟨first :: others, .cons here later⟩

namespace Literal

theorem read? (literal : Literal argument) : Value.read? argument.text = some argument := by
  cases literal with
  | null => rfl
  | bool value => cases value <;> rfl
  | int lower upper => exact Value.read?_num (Number.legible_int lower upper)

theorem unmarked (literal : Literal argument) :
    ∀ c ∈ argument.text.toList, Instruction.isMark c = false ∧ Text.isBlank c = false := by
  have plain {text : String}
      (all : (text.toList.any fun c => Instruction.isMark c || Text.isBlank c) = false) :
      ∀ c ∈ text.toList, Instruction.isMark c = false ∧ Text.isBlank c = false :=
    fun c member => Bool.or_eq_false_iff.mp (Bool.eq_false_iff.mpr (List.any_eq_false.mp all c member))
  cases literal with
  | null => exact plain (by decide)
  | bool value => cases value <;> exact plain (by decide)
  | int =>
    intro c member
    rcases Number.of_mem_text_int member with rfl | digit
    · decide
    · exact ⟨Instruction.isMark_of_isDigit digit, Text.isBlank_of_isDigit digit⟩

theorem shown (literal : Literal argument) : argument.text.toList ≠ [] := by
  cases literal with
  | null => decide +kernel
  | bool value => cases value <;> decide +kernel
  | @int value lower upper =>
    have legible : (Number.int value).Legible := Number.legible_int lower upper
    obtain ⟨c, more, split, -⟩ := Value.head_of_legible legible
    intro empty
    have same : (Value.num (.int value)).text = (Number.int value).text := rfl
    rw [same, split] at empty
    cases empty

end Literal

namespace Spells

open Instruction

theorem isArgument (spells : Spells argument written) : IsArgument written.toList := by
  cases spells with
  | literal literal =>
    have plain (c : Char) (member : c ∈ argument.text.toList) := (literal.unmarked c member).1
    have visible (c : Char) (member : c ∈ argument.text.toList) := (literal.unmarked c member).2
    exact ⟨passes_unmarked plain, Text.trimChars_of_visible visible, literal.shown⟩
  | quoted quote absent => simpa using isArgument_quoted quote absent

theorem argumentValue (spells : Spells argument written) :
    argumentValue written.toList = argument := by
  cases spells with
  | literal literal =>
    unfold Instruction.argumentValue
    split
    next rest split =>
      cases (literal.unmarked '\'' (split ▸ List.mem_cons_self)).1
    next rest split =>
      cases (literal.unmarked '"' (split ▸ List.mem_cons_self)).1
    next => rw [String.ofList_toList, literal.read?, Option.getD_some]
  | @quoted text mark quote absent =>
    have chars : (String.singleton mark ++ text ++ String.singleton mark).toList =
        mark :: (text.toList ++ [mark]) := by simp
    have unquoted := unquote_quoted quote text.toList
    rw [chars]
    unfold Instruction.argumentValue
    rcases isQuote_iff.mp quote with rfl | rfl
    · simp only [unquoted, String.ofList_toList]
    · simp only [unquoted, String.ofList_toList]

end Spells

/-! ## Names -/

structure Callable (name : String) : Prop where
  shown : name ≠ ""
  trimmed : Text.trim name = name
  plain : name.toList.any Instruction.isMark = false

namespace Callable

open Instruction

variable (callable : Callable name)
include callable

theorem trimChars : Text.trimChars name.toList = name.toList := by
  have same := congrArg String.toList callable.trimmed
  rwa [Text.trim, String.toList_ofList] at same

theorem unmarked : ∀ c ∈ name.toList, isMark c = false := fun c member =>
  Bool.eq_false_iff.mpr (List.any_eq_false.mp callable.plain c member)

theorem isArgument : IsArgument name.toList :=
  ⟨passes_unmarked callable.unmarked, callable.trimChars, by simpa using callable.shown⟩

theorem not_blank : Text.blank name = false := callable.isArgument.not_blank

theorem not_isInstruction : isInstruction name = false := by
  refine Option.isSome_eq_false_iff.mpr (Option.isNone_iff_eq_none.mpr ?_)
  cases start : start? name.toList with
  | none => rfl
  | some parts => cases callable.unmarked '(' (mem_of_start? start)

theorem functionKey? : Command.functionKey? ("@" ++ name) = some name := by
  obtain ⟨c, rest, split⟩ := List.exists_cons_of_ne_nil callable.isArgument.shown
  have chars : ("@" ++ name).toList = '@' :: c :: rest := by simp [split]
  unfold Command.functionKey?
  rw [chars]
  exact congrArg some (String.toList_inj.mp (by rw [String.toList_ofList, split]))

end Callable

/-! ## Instructions -/

def callText (name : String) (written : List String) : String :=
  "call(" ++ Text.join ", " (name :: written) ++ ")"

def shortText (name : String) (written : List String) : String :=
  "@" ++ name ++ "(" ++ Text.join ", " written ++ ")"

namespace Instruction

/-- Arguments that are written with commas between them are told apart. -/
theorem arguments_join {texts : List String} (each : ∀ text ∈ texts, IsArgument text.toList) :
    splitArguments (Text.join ", " texts).toList = .ok (texts.map String.toList) ∧
      checkBalance 0 none (Text.join ", " texts).toList = .ok () := by
  cases texts with
  | nil => exact ⟨rfl, rfl⟩
  | cons first others =>
    have whole : (Text.join ", " (first :: others)).toList =
        joined first.toList (others.map String.toList) := by
      rw [Text.toList_join, joined, List.flatMap_map]
      rfl
    have each' : ∀ text ∈ first.toList :: others.map String.toList, IsArgument text := by
      rw [← List.map_cons]
      exact List.forall_mem_map.mpr each
    have passes (text : List Char) (member : text ∈ others.map String.toList) :=
      (each' text (List.mem_cons_of_mem _ member)).passes
    rw [whole, List.map_cons]
    exact ⟨splitArguments_joined each',
      checkBalance_joined (each' _ List.mem_cons_self).passes passes⟩

theorem classify_of_start {instruction : String} {verb : Verb} {texts : List String}
    {command : Command} (each : ∀ text ∈ texts, IsArgument text.toList)
    (start : start? instruction.toList = some (verb, (Text.join ", " texts).toList ++ [')']))
    (applied : apply verb (Text.join ", " texts).toList (texts.map String.toList) = .ok command) :
    Command.classify (.str instruction) = .ok command := by
  have shown : Text.blank instruction = false := by
    refine Bool.eq_false_iff.mpr fun blank => ?_
    have parenthesis := List.all_eq_true.mp blank '(' (mem_of_start? start)
    cases parenthesis
  obtain ⟨split, balanced⟩ := arguments_join each
  rw [Command.classify, shown, read_of_start start balanced split applied]
  rfl

variable {texts : List String} (spelled : List.Forall₂ Spells args texts)
include spelled

theorem isArgument_of_spelled : ∀ text ∈ texts, IsArgument text.toList := by
  induction spelled with
  | nil => nofun
  | cons spells _ ih => exact List.forall_mem_cons.mpr ⟨spells.isArgument, ih⟩

theorem values_of_spelled : (texts.map String.toList).map argumentValue = args := by
  induction spelled with
  | nil => rfl
  | cons spells _ ih => rw [List.map_cons, List.map_cons, spells.argumentValue, ih]

theorem classify_callText (callable : Callable name) :
    Command.classify (.str (callText name texts)) = .ok (.call name args) := by
  have each : ∀ text ∈ name :: texts, IsArgument text.toList :=
    List.forall_mem_cons.mpr ⟨callable.isArgument, isArgument_of_spelled spelled⟩
  have chars : (callText name texts).toList =
      "call".toList ++ '(' :: ((Text.join ", " (name :: texts)).toList ++ [')']) := by
    simp [callText]
  have listed : ("call", Verb.call) ∈ verbs := by decide
  refine classify_of_start each (by rw [chars, start?_word listed]) ?_
  have bare := unquote_unmarked callable.trimChars callable.unmarked
  have shown : name.toList.isEmpty = false := by simpa using callable.shown
  simp only [apply, List.map_cons, bare, shown, values_of_spelled spelled, String.ofList_toList,
    Bool.false_eq_true, ↓reduceIte]

theorem classify_shortText (word : isPlainName name.toList = true) :
    Command.classify (.str (shortText name texts)) = .ok (.call name args) := by
  have chars : (shortText name texts).toList =
      '@' :: (name.toList ++ '(' :: ((Text.join ", " texts).toList ++ [')'])) := by
    simp [shortText]
  refine classify_of_start (isArgument_of_spelled spelled)
    (by rw [chars, start?_function word, String.ofList_toList]) ?_
  simp only [apply, values_of_spelled spelled]

end Instruction

/-! ## Records -/

/-- A field whose name is given once is found in whatever order the fields stand. -/
theorem Fields.get?_perm {left right : Fields} (perm : left.Perm right)
    (unique : (names left).Nodup) (key : String) : get? left key = get? right key := by
  unfold get?
  induction perm with
  | nil => rfl
  | cons field perm ih =>
    rw [List.lookup_cons, List.lookup_cons, ih (List.nodup_cons.mp unique).2]
  | swap first second rest =>
    obtain ⟨one, value⟩ := first
    obtain ⟨two, value'⟩ := second
    have different : two ≠ one := fun same =>
      (List.nodup_cons.mp unique).1 (List.mem_cons.mpr (.inl same))
    by_cases here : key = two
    · subst here
      simp [List.lookup_cons, beq_false_of_ne different]
    · simp [List.lookup_cons, beq_false_of_ne here]
  | trans one _ ih ih' => exact (ih unique).trans (ih' ((one.map _).nodup_iff.mp unique))

namespace Command

variable {record other spec : Fields} {action : String × Value}

theorem ofAction_function (value : Value) (record : Fields) :
    ofAction "function" value record = ofFunction value record := rfl

theorem ofAction_of_functionKey? {key : String} (called : functionKey? key = some name)
    (value : Value) (record : Fields) :
    ofAction key value record = .ok (.call name (positional value)) := by
  unfold ofAction
  rw [called]

theorem classify_of_actions (single : actions record = [action]) :
    classify (.obj record) = ofAction action.1 action.2 record := by
  have read : ofRecord record = ofAction action.1 action.2 record := by
    unfold ofRecord
    rw [show record.filter (fun field => isActionKey field.1) = [action] from single]
  cases record with
  | nil => cases single
  | cons => exact read

theorem ofAction_congr (same : ∀ key, Fields.get? record key = Fields.get? other key)
    (key : String) (value : Value) : ofAction key value record = ofAction key value other := by
  have call : ofFunction value record = ofFunction value other := by
    unfold ofFunction
    rw [same]
  have menu : MenuSpec.ofRecord record = MenuSpec.ofRecord other := by
    unfold MenuSpec.ofRecord Fields.text? Fields.bool?
    rw [same, same, same, same]
  unfold ofAction
  rw [call, menu]

theorem classify_perm (perm : record.Perm other) (unique : (Fields.names record).Nodup)
    (single : actions other = [action]) : classify (.obj record) = classify (.obj other) := by
  have single' : actions record = [action] := by
    refine List.perm_singleton.mp ?_
    rw [← single]
    exact perm.filter _
  rw [classify_of_actions single, classify_of_actions single']
  exact ofAction_congr (Fields.get?_perm perm unique) action.1 action.2

def callFields (key name : String) (args : List Value) : Fields :=
  [(key, .str name), ("args", .arr args)]

theorem classify_function (callable : Callable name)
    (perm : record.Perm (callFields "function" name args)) :
    classify (.obj record) = .ok (.call name args) := by
  have unique : (Fields.names record).Nodup :=
    (perm.map _).nodup_iff.mpr (by decide : ["function", "args"].Nodup)
  have beside : Fields.get? (callFields "function" name args) "args" = some (.arr args) := rfl
  rw [classify_perm perm unique rfl, classify_of_actions rfl, ofAction_function]
  unfold ofFunction
  simp only [callable.not_isInstruction, callable.not_blank, callable.trimmed, beside,
    Option.map_some, Option.getD_some, positional, Bool.false_eq_true, if_false]

theorem classify_functionRecord (callable : Callable name)
    (perm : spec.Perm (callFields "name" name args)) :
    classify (.obj [("function", .obj spec)]) = .ok (.call name args) := by
  have unique : (Fields.names spec).Nodup :=
    (perm.map _).nodup_iff.mpr (by decide : ["name", "args"].Nodup)
  have called : Fields.get? spec "name" = some (.str name) := Fields.get?_perm perm unique _
  have beside : Fields.get? spec "args" = some (.arr args) := Fields.get?_perm perm unique _
  rw [classify_of_actions rfl, ofAction_function]
  unfold ofFunction Fields.text?
  simp only [called, callable.not_blank, callable.trimmed, beside, Option.map_some,
    Option.getD_some, positional, Bool.false_eq_true, if_false]

theorem classify_key (callable : Callable name) :
    classify (.obj [("@" ++ name, .arr args)]) = .ok (.call name args) := by
  have chooses : isActionKey ("@" ++ name) = true := by
    rw [isActionKey, callable.functionKey?]
    exact Bool.or_true _
  have single : actions [("@" ++ name, .arr args)] = [("@" ++ name, .arr args)] :=
    List.filter_cons_of_pos chooses
  rw [classify_of_actions single, ofAction_of_functionKey? callable.functionKey?, positional]

/-- Every spelling of a call is read as the same call: an instruction with the arguments written out,
however their quotes are chosen, and records, in whatever order their fields stand. -/
theorem spellings_agree (callable : Callable name) (writable : ∀ argument ∈ args, Writable argument) :
    (∃ written, List.Forall₂ Spells args written) ∧
    (∀ written, List.Forall₂ Spells args written →
      classify (.str (callText name written)) = .ok (.call name args) ∧
      (Instruction.isPlainName name.toList = true →
        classify (.str (shortText name written)) = .ok (.call name args))) ∧
    (∀ record, record.Perm (callFields "function" name args) →
      classify (.obj record) = .ok (.call name args)) ∧
    (∀ spec, spec.Perm (callFields "name" name args) →
      classify (.obj [("function", .obj spec)]) = .ok (.call name args)) ∧
    classify (.obj [("@" ++ name, .arr args)]) = .ok (.call name args) := by
  refine ⟨exists_forall₂_spells writable, fun written spelled => ⟨?_, fun word => ?_⟩,
    fun _ => classify_function callable, fun _ => classify_functionRecord callable,
    classify_key callable⟩
  · exact Instruction.classify_callText spelled callable
  · exact Instruction.classify_shortText spelled word

/-- The ends of what is an integer, and texts with commas, brackets and the other quote. -/
def mixed : List Value :=
  [.null, .num (.int Number.least), .num (.int Number.greatest), .str "it's, (", .str " ]\"\x7d"]

theorem spellings_agree_mixed :
    classify (.str
        "call(audit.log, null, -9223372036854775808, 18446744073709551615, \"it's, (\", ' ]\"\x7d')") =
        .ok (.call "audit.log" mixed) ∧
      classify (.str
        "@audit.log(null, -9223372036854775808, 18446744073709551615, \"it's, (\", ' ]\"\x7d')") =
        .ok (.call "audit.log" mixed) ∧
      classify (.obj [("args", .arr mixed), ("function", .str "audit.log")]) =
        .ok (.call "audit.log" mixed) ∧
      classify (.obj [("function", .obj [("args", .arr mixed), ("name", .str "audit.log")])]) =
        .ok (.call "audit.log" mixed) ∧
      classify (.obj [("@audit.log", .arr mixed)]) = .ok (.call "audit.log" mixed) := by
  have callable : Callable "audit.log" := ⟨by decide, by decide, by decide⟩
  have writable : ∀ argument ∈ mixed, Writable argument := by
    simp only [mixed, List.forall_mem_cons]
    refine ⟨.literal .null, .literal (.int ?_ ?_), .literal (.int ?_ ?_), .text (.inl ?_),
      .text (.inr ?_), nofun⟩
    all_goals decide
  have spelled : List.Forall₂ Spells mixed ["null", "-9223372036854775808",
      "18446744073709551615", "\"it's, (\"", "' ]\"\x7d'"] :=
    .cons (.literal .null) <| .cons (.literal (.int (by decide) (by decide))) <|
      .cons (.literal (.int (by decide) (by decide))) <|
      .cons (@Spells.quoted _ '"' rfl (by decide)) <|
      .cons (@Spells.quoted _ '\'' rfl (by decide)) .nil
  obtain ⟨-, texts, function, spec, key⟩ := spellings_agree callable writable
  obtain ⟨call, short⟩ := texts _ spelled
  exact ⟨call, short (by decide), function _ (.swap ..), spec _ (.swap ..), key⟩

end Command

end Signpost
