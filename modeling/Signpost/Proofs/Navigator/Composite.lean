import Signpost.Proofs.Navigator.Travel

/-! Composites, part by part.

The parts that go through are launched in order, each where the one before has left the course. A
composite halts exactly where one of its parts does. -/

namespace Signpost.Navigator

open Act Session

variable {World α : Type} {launch : α → Act World Outcome} {course mid after : Course World}
  {halt : Halt}

theorem collected_goes (values : List Value) : (collected values).interrupts = false := by
  cases values <;> rfl

/-- The parts are launched in order, and none of them interrupts. -/
inductive Passes (launch : α → Act World Outcome) :
    Course World → List α → Course World → Prop where
  | nil (course : Course World) : Passes launch course [] course
  | cons {course mid after : Course World} {part : α} {parts : List α} {outcome : Outcome} :
      launch part course = (.ok outcome, mid) → outcome.interrupts = false →
        Passes launch mid parts after → Passes launch course (part :: parts) after

theorem Passes.stays {stay : Session → Session → Prop} (dwelling : Dwelling stay)
    (part : ∀ a, (launch a).Travels stay) {parts : List α}
    (passes : Passes launch course parts after) : stay course.session after.session := by
  induction passes with
  | nil => exact dwelling.refl _
  | cons launched goes _ ih =>
    have leads := (part _).of_run launched
    exact dwelling.trans ((Leads.of_settles (Outcome.settles_of_not_interrupts goes)).mp leads) ih

theorem of_collectAll_error {parts : List α} {values : List Value}
    (halted : collectAll launch values parts course = (.error halt, after)) :
    ∃ before part rest mid, parts = before ++ part :: rest ∧ Passes launch course before mid ∧
      launch part mid = (.error halt, after) := by
  induction parts generalizing course values with
  | nil => cases halted
  | cons first parts ih =>
    rcases of_bind_error halted with refused | ⟨outcome, next, launched, halted⟩
    · exact ⟨[], first, parts, course, rfl, .nil course, refused⟩
    · cases goes : outcome.interrupts with
      | true =>
        rw [goes] at halted
        cases halted
      | false =>
        rw [goes] at halted
        obtain ⟨before, part, rest, mid, rfl, passes, refused⟩ := ih halted
        exact ⟨first :: before, part, rest, mid, rfl, .cons launched goes passes, refused⟩

theorem Passes.collectAll_error {before rest : List α} {part : α} {values : List Value}
    (passes : Passes launch course before mid) (refused : launch part mid = (.error halt, after)) :
    collectAll launch values (before ++ part :: rest) course = (.error halt, after) := by
  induction passes generalizing values with
  | nil => exact bind_error refused
  | cons launched goes _ ih =>
    refine (bind_ok launched).trans ?_
    rw [goes]
    exact ih refused

end Signpost.Navigator
