import Signpost.Proofs.Breadcrumbs
import Signpost.Proofs.Files.Tree
import Signpost.Proofs.Location
import Signpost.Proofs.Value.Indented
import Signpost.Session.File

/-! Sessions read back from their files.

A saved session holds its locations as text. It is read back as it was if all of them are legible,
and a single one that is not makes the whole file unreadable. -/

namespace Signpost

/-! ## Lists of written things -/

section Lists

variable {α β : Type} {write : α → β} {read? : β → Option α} {items : List α}

theorem mapM_of_reads (each : ∀ item ∈ items, read? (write item) = some item) :
    (items.map write).mapM read? = some items := by
  induction items with
  | nil => rfl
  | cons item items ih =>
    have first := each item List.mem_cons_self
    have others := ih fun other later => each other (List.mem_cons_of_mem item later)
    simp [List.mapM_cons, first, others]

theorem mapM_of_lost (lost : ∃ item ∈ items, read? (write item) = none) :
    (items.map write).mapM read? = none := by
  induction items with
  | nil => simp at lost
  | cons item items ih =>
    rw [List.map_cons, List.mapM_cons]
    obtain ⟨other, member, lost⟩ := lost
    rcases List.mem_cons.mp member with rfl | later
    · rw [lost]
      rfl
    · rw [ih ⟨other, later, lost⟩]
      cases read? (write item) <;> rfl

end Lists

/-! ## Trails -/

namespace Breadcrumbs

variable {location : Location}

theorem locationOf?_of_legible (named : location.Named) (legible : location.Legible) :
    locationOf? (.str location.text) = some location := by
  rw [locationOf?, (Location.read_text named).1 legible]
  rfl

theorem locationOf?_of_not_legible (named : location.Named) (illegible : ¬location.Legible) :
    locationOf? (.str location.text) = none := by
  obtain ⟨error, lost⟩ := (Location.read_text named).2 illegible
  rw [locationOf?, lost]
  rfl

def trailValue (entry : String × Trail) : String × Value :=
  (entry.1, .arr (entry.2.map fun location => .str location.text))

def addTrail? (b : Breadcrumbs) (saved : String × Value) : Option Breadcrumbs :=
  match saved.2 with
  | .arr items => (items.mapM locationOf?).map (b.set saved.1)
  | _ => none

theorem ofValue?_eq (b : Breadcrumbs) :
    ofValue? b.toValue = (b.trails.map trailValue).foldlM addTrail? ⟨[]⟩ := rfl

variable {entry : String × Trail} {before later : List (String × Trail)}

theorem addTrail?_of_legible (named : ∀ location ∈ entry.2, location.Named)
    (legible : ∀ location ∈ entry.2, location.Legible)
    (greatest : ∀ earlier ∈ before, earlier.1 < entry.1) :
    addTrail? ⟨before⟩ (trailValue entry) = some ⟨before ++ [entry]⟩ := by
  have read :
      (entry.2.map fun location => Value.str location.text).mapM locationOf? = some entry.2 :=
    mapM_of_reads fun location member =>
      locationOf?_of_legible (named location member) (legible location member)
  simp only [addTrail?, trailValue, read, Option.map_some, set, setIn_of_greatest greatest]

theorem addTrail?_of_not_legible (named : ∀ location ∈ entry.2, location.Named)
    (illegible : ¬∀ location ∈ entry.2, location.Legible) (b : Breadcrumbs) :
    addTrail? b (trailValue entry) = none := by
  obtain ⟨location, member, lost⟩ : ∃ location ∈ entry.2, ¬location.Legible := by
    simpa using illegible
  have lost : (entry.2.map fun location => Value.str location.text).mapM locationOf? = none :=
    mapM_of_lost ⟨location, member, locationOf?_of_not_legible (named location member) lost⟩
  simp only [addTrail?, trailValue, lost, Option.map_none]

/-- Trails are added in the order of their scopes, so each of them comes last. -/
theorem foldlM_addTrail? (before : List (String × Trail))
    (ordered : (before ++ later).Pairwise fun entry later => entry.1 < later.1)
    (named : ∀ entry ∈ later, ∀ location ∈ entry.2, location.Named) :
    ((∀ entry ∈ later, ∀ location ∈ entry.2, location.Legible) →
      (later.map trailValue).foldlM addTrail? ⟨before⟩ = some ⟨before ++ later⟩) ∧
    ((¬∀ entry ∈ later, ∀ location ∈ entry.2, location.Legible) →
      (later.map trailValue).foldlM addTrail? ⟨before⟩ = none) := by
  induction later generalizing before with
  | nil => exact ⟨fun _ => by simp, fun illegible => absurd nofun illegible⟩
  | cons entry later ih =>
    have greatest : ∀ earlier ∈ before, earlier.1 < entry.1 := fun earlier member =>
      (List.pairwise_append.mp ordered).2.2 earlier member entry List.mem_cons_self
    have shown := named entry List.mem_cons_self
    rw [List.append_cons] at ordered
    obtain ⟨read, lost⟩ := ih _ ordered fun other member =>
      named other (List.mem_cons_of_mem _ member)
    rw [List.map_cons, List.foldlM_cons]
    by_cases legible : ∀ location ∈ entry.2, location.Legible
    · rw [addTrail?_of_legible shown legible greatest, List.append_cons before entry later]
      exact ⟨fun each => read fun other member => each other (List.mem_cons_of_mem _ member),
        fun illegible => lost fun each => illegible (List.forall_mem_cons.mpr ⟨legible, each⟩)⟩
    · rw [addTrail?_of_not_legible shown legible]
      exact ⟨fun each => absurd (each entry List.mem_cons_self) legible, fun _ => rfl⟩

variable {b : Breadcrumbs}

theorem ofValue?_toValue (named : b.Within Location.Named) (ordered : b.Ordered) :
    (b.Within Location.Legible → ofValue? b.toValue = some b) ∧
      (¬b.Within Location.Legible → ofValue? b.toValue = none) := by
  rw [ofValue?_eq]
  exact foldlM_addTrail? [] ordered named

end Breadcrumbs

/-! ## The log of moves -/

def Timestamp.Readable (time : Timestamp) : Prop := read? time.text = some time

/-- A move that can be read back if its location is legible. -/
structure HistoryEntry.Dated (entry : HistoryEntry) : Prop where
  named : entry.location.Named
  readable : entry.time.Readable

namespace HistoryEntry

variable {entry : HistoryEntry}

theorem ofValue?_eq (entry : HistoryEntry) : ofValue? entry.toValue =
    (Location.read entry.location.text).toOption.bind fun location =>
      (Timestamp.read? entry.time.text).map fun time => ⟨location, entry.context, time⟩ := by
  let fields : Fields := [("location", .str entry.location.text), ("context", .str entry.context),
    ("ts", .str entry.time.text)]
  have shaped : Fields.ofShape? ["location", "context", "ts"] 3 entry.toValue = some fields := rfl
  have location : Fields.text? fields "location" = some entry.location.text := rfl
  have context : Fields.text? fields "context" = some entry.context := rfl
  have time : Fields.text? fields "ts" = some entry.time.text := rfl
  unfold ofValue?
  rw [shaped]
  simp only [Option.bind_eq_bind, Option.bind_some, location, context, time, Option.pure_def,
    Option.map_eq_bind, Function.comp_def]

theorem ofValue?_of_legible (dated : entry.Dated) (legible : entry.location.Legible) :
    ofValue? entry.toValue = some entry := by
  rw [ofValue?_eq, (Location.read_text dated.named).1 legible, dated.readable]
  rfl

theorem ofValue?_of_not_legible (dated : entry.Dated) (illegible : ¬entry.location.Legible) :
    ofValue? entry.toValue = none := by
  obtain ⟨error, lost⟩ := (Location.read_text dated.named).2 illegible
  rw [ofValue?_eq, lost]
  rfl

end HistoryEntry

theorem History.ofValue?_toValue {h : History} (dated : ∀ entry ∈ h.entries, entry.Dated)
    (bounded : h.length ≤ capacity) :
    ((∀ entry ∈ h.entries, entry.location.Legible) → ofValue? h.toValue = some h) ∧
      ((¬∀ entry ∈ h.entries, entry.location.Legible) → ofValue? h.toValue = none) := by
  constructor
  · intro legible
    have read : (h.entries.map HistoryEntry.toValue).mapM HistoryEntry.ofValue? = some h.entries :=
      mapM_of_reads fun entry member =>
        HistoryEntry.ofValue?_of_legible (dated entry member) (legible entry member)
    have whole : h.entries.length - capacity = 0 := Nat.sub_eq_zero_of_le bounded
    simp only [ofValue?, toValue, read, Option.map_some, ofEntries, whole, List.drop_zero]
  · intro illegible
    obtain ⟨entry, member, lost⟩ : ∃ entry ∈ h.entries, ¬entry.location.Legible := by
      simpa using illegible
    have lost : (h.entries.map HistoryEntry.toValue).mapM HistoryEntry.ofValue? = none :=
      mapM_of_lost ⟨entry, member, HistoryEntry.ofValue?_of_not_legible (dated entry member) lost⟩
    simp only [ofValue?, toValue, lost, Option.map_none]

/-! ## Sessions -/

namespace Session

variable {s : Session}

/-- What the file of a session is made for: named locations, trails in order, and a log of readable
times that is not oversized. -/
structure Storable (s : Session) : Prop where
  trails : s.breadcrumbs.Within Location.Named
  ordered : s.breadcrumbs.Ordered
  history : ∀ entry ∈ s.history.entries, entry.Dated
  bounded : s.history.length ≤ History.capacity

/-- Every location in a trail or in the history is legible. -/
structure Legible (s : Session) : Prop where
  trails : s.breadcrumbs.Within Location.Legible
  history : ∀ entry ∈ s.history.entries, entry.location.Legible

theorem optionalText?_ofText? {fields : Fields} {name : String} {held : Option String}
    (found : Fields.get? fields name = some (.ofText? held)) :
    optionalText? fields name = some held := by
  unfold optionalText?
  rw [found]
  cases held <;> rfl

theorem ofValue?_eq (s : Session) (mode : Mode) : ofValue? mode s.toValue =
    (Breadcrumbs.ofValue? s.breadcrumbs.toValue).bind fun breadcrumbs =>
      (History.ofValue? s.history.toValue).map fun history =>
        { s with breadcrumbs, history, pending := none, mode, identity := {} } := by
  let fields : Fields := [("current_path", .ofText? s.path), ("current_block", .ofText? s.block),
    ("scope", .str s.scope), ("breadcrumbs", s.breadcrumbs.toValue), ("history", s.history.toValue)]
  have shaped : Fields.ofShape?
      ["current_path", "current_block", "scope", "breadcrumbs", "history"] 3 s.toValue =
        some fields := rfl
  have path : optionalText? fields "current_path" = some s.path := optionalText?_ofText? rfl
  have block : optionalText? fields "current_block" = some s.block := optionalText?_ofText? rfl
  have scope : Fields.text? fields "scope" = some s.scope := rfl
  have trails : Fields.get? fields "breadcrumbs" = some s.breadcrumbs.toValue := rfl
  have history : Fields.get? fields "history" = some s.history.toValue := rfl
  unfold ofValue?
  rw [shaped]
  simp only [Option.bind_eq_bind, Option.bind_some, path, block, scope, trails, history,
    Option.pure_def, Option.map_eq_bind, Function.comp_def]

theorem ofValue?_toValue (storable : s.Storable) (mode : Mode) :
    (s.Legible →
      ofValue? mode s.toValue = some { s with pending := none, mode := mode, identity := {} }) ∧
    (¬s.Legible → ofValue? mode s.toValue = none) := by
  obtain ⟨trails, noTrails⟩ := Breadcrumbs.ofValue?_toValue storable.trails storable.ordered
  obtain ⟨history, noHistory⟩ := History.ofValue?_toValue storable.history storable.bounded
  rw [ofValue?_eq]
  by_cases within : s.breadcrumbs.Within Location.Legible
  · by_cases logged : ∀ entry ∈ s.history.entries, entry.location.Legible
    · rw [trails within, history logged]
      exact ⟨fun _ => rfl, fun illegible => absurd ⟨within, logged⟩ illegible⟩
    · rw [trails within, noHistory logged]
      exact ⟨fun legible => absurd legible.history logged, fun _ => rfl⟩
  · rw [noTrails within]
    exact ⟨fun legible => absurd legible.trails within, fun _ => rfl⟩

/-! ### The file -/

section Written

open Value

theorem takes_ofText? (depth level : Nat) (held : Option String) :
    Takes (valueWithin? depth) (.ofText? held) (itemChars level (.ofText? held)) := by
  cases held with
  | none => exact takes_null depth level
  | some text => exact takes_str depth level text

theorem takes_trails (b : Breadcrumbs) (depth level : Nat) :
    Takes (valueWithin? (depth + 2)) b.toValue (itemChars level b.toValue) := by
  refine takes_obj fun field member => ?_
  obtain ⟨entry, _, rfl⟩ := List.mem_map.mp member
  refine takes_arr fun item member => ?_
  obtain ⟨location, _, rfl⟩ := List.mem_map.mp member
  exact takes_str depth _ location.text

theorem takes_entry (entry : HistoryEntry) (depth level : Nat) :
    Takes (shapedWithin? (depth + 2) (.record [("location", .any), ("context", .any), ("ts", .any)]))
      entry.toValue (itemChars level entry.toValue) := by
  refine takes_record fun field member => ⟨.any, ?_⟩
  simp only [List.mem_cons, List.not_mem_nil, or_false] at member
  rcases member with rfl | rfl | rfl <;> exact ⟨rfl, takes_any (takes_str _ _ _)⟩

theorem takes_session (s : Session) :
    Takes (shapedWithin? nesting savedShape) s.toValue (itemChars 0 s.toValue) := by
  change Takes (shapedWithin? (124 + 3) _) _ _
  refine takes_record fun field member => ?_
  simp only [List.mem_cons, List.not_mem_nil, or_false] at member
  rcases member with rfl | rfl | rfl | rfl | rfl
  · exact ⟨_, rfl, takes_any (takes_ofText? _ _ _)⟩
  · exact ⟨_, rfl, takes_any (takes_ofText? _ _ _)⟩
  · exact ⟨_, rfl, takes_any (takes_str _ _ _)⟩
  · exact ⟨_, rfl, takes_any (takes_trails _ _ _)⟩
  · refine ⟨_, rfl, takes_list fun item member => ?_⟩
    obtain ⟨entry, _, rfl⟩ := List.mem_map.mp member
    exact takes_entry entry _ _

end Written

/-- A file that has been written is loaded as what the session was, without what belongs to the
running session only. One location that is not legible makes the file malformed. -/
theorem load_save (storable : s.Storable) {tree after : FileTree} {path : String}
    (saved : s.save tree path = (none, after)) (mode : Mode) :
    (s.Legible → load after path mode =
      .ok (some { s with pending := none, mode := mode, identity := {} })) ∧
    (¬s.Legible → load after path mode = .error (.malformed path)) := by
  obtain ⟨present, text⟩ := FileTree.writeAtomic_ok saved
  have read : Value.readShaped? savedShape s.fileText = some s.toValue :=
    Value.readShaped?_indented (takes_session s)
  obtain ⟨restored, lost⟩ := ofValue?_toValue storable mode
  unfold load
  simp only [present, Bool.not_true, Bool.false_eq_true, ↓reduceIte, text, read, Option.bind_some]
  exact ⟨fun legible => by rw [restored legible], fun illegible => by rw [lost illegible]⟩

end Session

end Signpost
