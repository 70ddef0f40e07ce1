import Signpost.Proofs.Command.Spelling
import Signpost.Workflow

/-! Command lines that are put together from words.

A word is written between single quotes. A single quote inside the word cannot stand there: the quotes
are closed before it, it stands between double quotes, and they are opened again. Such a line stands
for itself in an instruction, whatever commas and brackets the words hold, and is split into the same
words when it is run. -/

namespace Signpost.Workflow

variable {line : String} {argv : List String}

def protect (c : Char) : List Char := if c = '\'' then ['\'', '"', '\'', '"', '\''] else [c]

def quote (word : String) : String := "'" ++ String.ofList (word.toList.flatMap protect) ++ "'"

def commandLine (argv : List String) : String := Text.join " " (argv.map quote)

def runText (line : String) : String := "run(" ++ line ++ ")"

theorem toList_quote (word : String) :
    (quote word).toList = '\'' :: (word.toList.flatMap protect ++ ['\'']) := by
  simp [quote]

theorem commandLine_cons (word : String) (several : argv ≠ []) :
    (commandLine (word :: argv)).toList =
      (quote word).toList ++ ' ' :: (commandLine argv).toList := by
  obtain ⟨next, others, rfl⟩ := List.exists_cons_of_ne_nil several
  simp [commandLine, Text.join]

/-! ## Lines as instructions -/

section Instruction

open Instruction Instruction.Place

/-- A word never leaves its quotes for longer than it takes to write a single quote. -/
theorem passes_protected (word : List Char) :
    Passes ⟨0, some '\''⟩ (word.flatMap protect ++ ['\'']) outside := by
  induction word with
  | nil => exact .cons nofun (.nil outside)
  | cons c word ih =>
    rw [List.flatMap_cons, List.append_assoc]
    by_cases single : c = '\''
    · subst single
      have opened : Passes outside ('\'' :: (word.flatMap protect ++ ['\''])) outside :=
        .cons (fun _ => by decide) ih
      have double : Passes outside ('"' :: (['\''] ++ ['"'])) outside :=
        passes_quoted rfl (by decide)
      exact .cons nofun (double.append opened)
    · rw [protect, if_neg single]
      refine .cons nofun ?_
      simpa [after, single] using ih

theorem passes_quote (word : String) : Passes outside (quote word).toList outside := by
  rw [toList_quote]
  exact .cons (fun _ => by decide) (passes_protected word.toList)

theorem passes_commandLine (argv : List String) :
    Passes outside (commandLine argv).toList outside := by
  induction argv with
  | nil => exact .nil outside
  | cons word argv ih =>
    by_cases several : argv = []
    · subst several
      exact passes_quote word
    · rw [commandLine_cons word several]
      exact (passes_quote word).append (passes_blank ih)

theorem commandLine_quoted (nonempty : argv ≠ []) :
    ∃ inside, (commandLine argv).toList = '\'' :: (inside ++ ['\'']) := by
  induction argv with
  | nil => exact absurd rfl nonempty
  | cons word argv ih =>
    by_cases several : argv = []
    · subst several
      exact ⟨_, toList_quote word⟩
    · obtain ⟨inside, last⟩ := ih several
      refine ⟨word.toList.flatMap protect ++ '\'' :: ' ' :: '\'' :: inside, ?_⟩
      rw [commandLine_cons word several, toList_quote, last]
      simp

theorem isArgument_commandLine (nonempty : argv ≠ []) : IsArgument (commandLine argv).toList := by
  obtain ⟨inside, quoted⟩ := commandLine_quoted nonempty
  refine ⟨passes_commandLine argv, ?_, ?_⟩
  · rw [quoted, trimChars_quoted rfl]
  · rw [quoted]
    exact List.cons_ne_nil _ _

theorem classify_runText (argument : IsArgument line.toList) :
    Command.classify (.str (runText line)) = .ok (.workflow (.str line)) := by
  have single : ∀ text ∈ [line], IsArgument text.toList := by simpa using argument
  have chars : (runText line).toList = "run".toList ++ '(' :: (line.toList ++ [')']) := by
    simp [runText]
  have listed : ("run", Verb.run) ∈ verbs := by decide
  have shown : line.toList.isEmpty = false := by simpa using argument.shown
  refine classify_of_start single (by rw [chars, start?_word listed]; rfl) ?_
  change apply .run line.toList _ = _
  simp only [apply, argument.trimmed, shown, String.ofList_toList, Bool.false_eq_true, if_false]

end Instruction

/-! ## Lines as words -/

theorem splitFrom_protected (word rest done : List Char) :
    splitFrom (some '\'') (some done) (word.flatMap protect ++ '\'' :: rest) =
      splitFrom none (some (done ++ word)) rest := by
  induction word generalizing done with
  | nil => simp [splitFrom]
  | cons c word ih =>
    have next := ih (done ++ [c])
    rw [List.append_assoc, List.singleton_append] at next
    rw [List.flatMap_cons, List.append_assoc, ← next]
    by_cases single : c = '\''
    · subst single
      simp [protect, splitFrom, isQuote]
    · simp [protect, splitFrom, single]

theorem splitFrom_quote (word : String) (rest : List Char) :
    splitFrom none none ((quote word).toList ++ rest) =
      splitFrom none (some word.toList) rest := by
  rw [toList_quote, List.cons_append, List.append_assoc, List.singleton_append]
  exact splitFrom_protected word.toList rest []

theorem splitFrom_commandLine (argv : List String) :
    splitFrom none none (commandLine argv).toList = some (argv.map String.toList) := by
  induction argv with
  | nil => rfl
  | cons word argv ih =>
    by_cases several : argv = []
    · subst several
      have whole := splitFrom_quote word []
      rw [List.append_nil] at whole
      exact whole
    · rw [commandLine_cons word several, splitFrom_quote]
      have blank : splitFrom none (some word.toList) (' ' :: (commandLine argv).toList) =
          (splitFrom none none (commandLine argv).toList).map (word.toList :: ·) := rfl
      rw [blank, ih]
      rfl

theorem splitLine_commandLine (argv : List String) : splitLine (commandLine argv) = .ok argv := by
  rw [splitLine, splitFrom_commandLine]
  simp

/-- Words come back as they are from the instruction that runs them, whatever characters they are made
of and also if some are empty. -/
theorem words_survive_quoting (nonempty : argv ≠ []) :
    Command.classify (.str (runText (commandLine argv))) =
        .ok (.workflow (.str (commandLine argv))) ∧
      invocation (.str (commandLine argv)) = .ok ⟨argv, none⟩ := by
  refine ⟨classify_runText (isArgument_commandLine nonempty), ?_⟩
  rw [invocation, splitLine_commandLine]
  rfl

/-- An empty word, blanks, brackets that do not close, commas and both quotes next to each other. -/
def mixedWords : List String := ["", "it's, (", "\"' ]", "''"]

theorem words_survive_quoting_mixed :
    mixedWords ≠ [] ∧
      Command.classify (.str
          "run('' 'it'\"'\"'s, (' '\"'\"'\"' ]' ''\"'\"''\"'\"'')") =
        .ok (.workflow (.str "'' 'it'\"'\"'s, (' '\"'\"'\"' ]' ''\"'\"''\"'\"''")) ∧
      invocation (.str "'' 'it'\"'\"'s, (' '\"'\"'\"' ]' ''\"'\"''\"'\"''") =
        .ok ⟨["", "it's, (", "\"' ]", "''"], none⟩ := by
  have nonempty : mixedWords ≠ [] := by decide
  exact ⟨nonempty, words_survive_quoting nonempty⟩

end Signpost.Workflow
