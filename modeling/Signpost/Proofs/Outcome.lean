import Signpost.Command.Basic
import Signpost.Menu.Selection
import Signpost.Outcome

/-! Malformed instructions among the failures.

An instruction that cannot be read is reported as a failure of its own. No other failure is reported
in the same words: collaborators fail in another way, and what menus report begins differently. -/

namespace Signpost

theorem Text.prefix_append {start : List Char} {text : String} (rest : String)
    (begins : start <+: text.toList) : start <+: (text ++ rest).toList := by
  rw [String.toList_append]
  exact begins.trans (List.prefix_append _ _)

theorem malformedMessage_start (text : String) (flaw : Flaw) :
    ['m', 'a'] <+: (malformedMessage text flaw).toList :=
  Text.prefix_append _ (Text.prefix_append _ (Text.prefix_append _ (by decide)))

namespace Outcome

def malformed (text : String) (flaw : Flaw) : Outcome :=
  .refused .validation (malformedMessage text flaw)

/-- Whether the outcome reports a malformed instruction. -/
def Malformed (outcome : Outcome) : Prop := ∃ text flaw, outcome = .malformed text flaw

variable {message : String}

theorem not_malformed_of_start {start : List Char} (kind : ErrorKind)
    (begins : start <+: message.toList) (apart : ¬start <+: ['m', 'a'] ∧ ¬['m', 'a'] <+: start) :
    ¬(refused kind message).Malformed := by
  rintro ⟨text, flaw, same⟩
  have told : message = malformedMessage text flaw :=
    congrArg Failure.message (Outcome.failed.inj same)
  rw [told] at begins
  have either := List.prefix_or_prefix_of_prefix begins (malformedMessage_start text flaw)
  exact either.elim apart.1 apart.2

theorem not_malformed_of_kind {kind : ErrorKind} (other : kind ≠ .validation) :
    ¬(refused kind message).Malformed := by
  rintro ⟨text, flaw, same⟩
  exact other (congrArg Failure.kind (Outcome.failed.inj same))

theorem selection_not_malformed (error : Menu.SelectionError) :
    ¬(refused .validation error.message).Malformed := by
  obtain ⟨start, begins, apart⟩ : ∃ start, start <+: error.message.toList ∧
      ¬start <+: ['m', 'a'] ∧ ¬['m', 'a'] <+: start := by
    cases error with
    | emptyInput => exact ⟨['n'], by decide⟩
    | outOfRange index size =>
      refine ⟨['s'], ?_, by decide⟩
      refine Text.prefix_append _ (Text.prefix_append _ (Text.prefix_append _ ?_))
      exact Text.prefix_append _ (by decide)
    | noMatch input =>
      exact ⟨['n'], Text.prefix_append _ (Text.prefix_append _ (by decide)), by decide⟩
    | ambiguous input candidates =>
      refine ⟨['\''], ?_, by decide⟩
      exact Text.prefix_append _ (Text.prefix_append _ (Text.prefix_append _ (by decide)))
    | multiNotAllowed => exact ⟨['t'], by decide⟩
  exact not_malformed_of_start _ begins apart

theorem menu_not_malformed (reason : String) :
    ¬(refused .action (Menu.Error.source reason).message).Malformed ∧
      ¬(refused .validation Menu.Error.empty.message).Malformed := by
  have begins : ['m', 'e'] <+: Menu.Error.empty.message.toList := by decide
  exact ⟨not_malformed_of_kind nofun, not_malformed_of_start _ begins (by decide)⟩

theorem ofValue_not_malformed (value : Value) : ¬(ofValue value).Malformed := by
  rintro ⟨text, flaw, same⟩
  cases value <;> cases same

end Outcome

end Signpost
