import Mathlib.Data.List.Forall2
import Signpost.Value.Basic

/-! Fields and equal values.

What a record has in a field, and which values are equal, is said here by the shape of values. Numbers
with a fraction and integers are never equal, the two zeros with a fraction are, and the order of the
fields of a record does not count. -/

namespace Signpost

theorem Double.isZero_iff {x : Double} : x.isZero = true ↔ x.bits.toNat % Nat.pow 2 63 = 0 := by
  have fields : x.isZero = true ↔ x.fractionField = 0 ∧ x.exponentField = 0 := by
    rw [isZero, Bool.and_eq_true, beq_iff_eq, beq_iff_eq, significand]
    refine and_congr_left fun subnormal => ?_
    rw [if_pos subnormal]
  rw [fields, fractionField, exponentField]
  simp only [Nat.pow_eq, Nat.reducePow]
  omega

namespace Value

/-- The first field with the name holds the value. -/
def Has (record : Value) (name : String) (value : Value) : Prop :=
  ∃ before after, record = .obj (before ++ (name, value) :: after) ∧
    ∀ field ∈ before, field.1 ≠ name

def Lacks (record : Value) (name : String) : Prop := ∀ value, ¬record.Has name value

inductive Same : Value → Value → Prop
  | null : Same .null .null
  | bool (value : Bool) : Same (.bool value) (.bool value)
  | str (text : String) : Same (.str text) (.str text)
  | num (number : Number) : Same (.num number) (.num number)
  /-- Zeros may differ in the sign, which is the highest bit. -/
  | zero {x y : Double} (left : x.bits.toNat % Nat.pow 2 63 = 0)
      (right : y.bits.toNat % Nat.pow 2 63 = 0) : Same (.num (.real x)) (.num (.real y))
  | arr {xs ys : List Value} (each : List.Forall₂ Same xs ys) : Same (.arr xs) (.arr ys)
  | obj {fs gs : Fields} (count : fs.length = gs.length)
      (found : ∀ field ∈ fs, ∃ other, (Value.obj gs).Has field.1 other)
      (each : ∀ field ∈ fs, ∀ other, (Value.obj gs).Has field.1 other → Same field.2 other) :
      Same (.obj fs) (.obj gs)

variable {record value other : Value} {name : String}

/-! ## Fields -/

theorem has_iff : record.Has name value ↔ record.field? name = some value := by
  constructor
  · rintro ⟨before, after, rfl, first⟩
    refine List.lookup_eq_some_iff.mpr ⟨before, after, rfl, fun field member => ?_⟩
    simpa using (first field member).symm
  · intro found
    cases record with
    | obj fields =>
      obtain ⟨before, after, split, first⟩ := List.lookup_eq_some_iff.mp found
      refine ⟨before, after, split ▸ rfl, fun field member => ?_⟩
      simpa using Ne.symm (bne_iff_ne.mp (first field member))
    | _ => cases found

theorem lacks_iff : record.Lacks name ↔ record.field? name = none := by
  simp only [Lacks, has_iff, Option.eq_none_iff_forall_ne_some, ne_eq]

theorem Has.unique (has : record.Has name value) (has' : record.Has name other) : value = other :=
  Option.some.inj ((has_iff.mp has).symm.trans (has_iff.mp has'))

theorem has_concat_iff {fields : Fields} (lacks : (Value.obj fields).Lacks name) :
    (Value.obj (fields ++ [(name, value)])).Has name other ↔ value = other := by
  have none : fields.lookup name = none := lacks_iff.mp lacks
  rw [has_iff, field?, Fields.get?, List.lookup_append, none, Option.none_or, List.lookup_cons_self,
    Option.some_inj]

/-! ## Equality -/

theorem same_num_iff {m n : Number} : m.same n = true ↔ Same (.num m) (.num n) := by
  cases m with
  | int a =>
    cases n with
    | int b =>
      simp only [Number.same, beq_iff_eq]
      exact ⟨fun same => same ▸ .num _, fun same => by cases same; rfl⟩
    | real y => exact ⟨nofun, nofun⟩
  | real x =>
    cases n with
    | int b => exact ⟨nofun, nofun⟩
    | real y =>
      simp only [Number.same, Double.same, Bool.or_eq_true, Bool.and_eq_true, beq_iff_eq,
        Double.isZero_iff]
      constructor
      · rintro (rfl | ⟨left, right⟩)
        · exact .num _
        · exact .zero left right
      · intro same
        cases same with
        | num => exact .inl rfl
        | zero left right => exact .inr ⟨left, right⟩

mutual

theorem same_iff : ∀ a b : Value, a.same b = true ↔ Same a b
  | .null, .null => ⟨fun _ => .null, fun _ => rfl⟩
  | .bool a, .bool b => by
    simp only [same, beq_iff_eq]
    exact ⟨fun equal => equal ▸ .bool a, fun equal => by cases equal; rfl⟩
  | .str a, .str b => by
    simp only [same, beq_iff_eq]
    exact ⟨fun equal => equal ▸ .str a, fun equal => by cases equal; rfl⟩
  | .num a, .num b => by
    simp only [same]
    exact same_num_iff
  | .arr xs, .arr ys => by
    simp only [same, sameItems_iff xs ys]
    exact ⟨.arr, fun equal => by cases equal; assumption⟩
  | .obj fs, .obj gs => by
    simp only [same, Bool.and_eq_true, beq_iff_eq, sameFields_iff fs gs]
    constructor
    · rintro ⟨count, fields⟩
      refine .obj count (fun field member => ?_) fun field member other has => ?_
      · obtain ⟨other, has, -⟩ := fields field member
        exact ⟨other, has⟩
      · obtain ⟨other', has', equal⟩ := fields field member
        exact has.unique has' ▸ equal
    · intro equal
      cases equal with
      | obj count found each =>
        refine ⟨count, fun field member => ?_⟩
        obtain ⟨other, has⟩ := found field member
        exact ⟨other, has, each field member other has⟩
  | .null, .bool _ | .null, .num _ | .null, .str _ | .null, .arr _ | .null, .obj _
  | .bool _, .null | .bool _, .num _ | .bool _, .str _ | .bool _, .arr _ | .bool _, .obj _
  | .num _, .null | .num _, .bool _ | .num _, .str _ | .num _, .arr _ | .num _, .obj _
  | .str _, .null | .str _, .bool _ | .str _, .num _ | .str _, .arr _ | .str _, .obj _
  | .arr _, .null | .arr _, .bool _ | .arr _, .num _ | .arr _, .str _ | .arr _, .obj _
  | .obj _, .null | .obj _, .bool _ | .obj _, .num _ | .obj _, .str _ | .obj _, .arr _ =>
    ⟨by simp [same], nofun⟩

theorem sameItems_iff : ∀ xs ys : List Value, sameItems xs ys = true ↔ List.Forall₂ Same xs ys
  | [], [] => by simp [sameItems]
  | [], _ :: _ => by simp [sameItems]
  | _ :: _, [] => by simp [sameItems]
  | x :: xs, y :: ys => by
    rw [sameItems, Bool.and_eq_true, same_iff x y, sameItems_iff xs ys, List.forall₂_cons]

theorem sameFields_iff : ∀ (fs : List (String × Value)) (gs : Fields), sameFields fs gs = true ↔
    ∀ field ∈ fs, ∃ other, (Value.obj gs).Has field.1 other ∧ Same field.2 other
  | [], _ => by simp [sameFields]
  | (name, x) :: fs, gs => by
    rw [List.forall_mem_cons, ← sameFields_iff fs gs, sameFields]
    cases found : Fields.get? gs name with
    | none =>
      have lacks : (Value.obj gs).Lacks name := lacks_iff.mpr found
      exact ⟨nofun, fun fields => absurd fields.1.choose_spec.1 (lacks _)⟩
    | some y =>
      have has : (Value.obj gs).Has name y := has_iff.mpr found
      simp only [Bool.and_eq_true, same_iff x y]
      refine and_congr_left' ⟨fun equal => ⟨y, has, equal⟩, ?_⟩
      rintro ⟨other, has', equal⟩
      exact has.unique has' ▸ equal

end

end Value

end Signpost
