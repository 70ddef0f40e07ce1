import Mathlib.Data.List.DropRight
import Signpost.Proofs.Text.Split
import Signpost.Proofs.Value.Quoted
import Signpost.Value.Shape

/-! Values read back from their indented form.

A reader takes a value when it passes over the blanks before it and then takes exactly what was
written for it, whatever follows. Lists and records are taken when their parts are, so a value of any
depth is put together from what is known of its leaves. The loops over the parts differ in what they
read between two commas only, and one induction serves all of them. -/

namespace Signpost.Value

/-- Characters between values that readers pass over. -/
def Spaces (blanks : List Char) : Prop := ∀ c ∈ blanks, isSpace c = true

theorem skipSpace_append {blanks : List Char} (spaces : Spaces blanks) (text : List Char) :
    skipSpace (blanks ++ text) = skipSpace text := by
  induction blanks with
  | nil => rfl
  | cons c blanks ih =>
    have space := spaces c List.mem_cons_self
    rw [List.cons_append, skipSpace, List.dropWhile_cons, if_pos space]
    exact ih fun other later => spaces other (List.mem_cons_of_mem c later)

theorem skipSpace_cons {c : Char} (visible : isSpace c = false) (text : List Char) :
    skipSpace (c :: text) = c :: text := by
  rw [skipSpace, List.dropWhile_cons, if_neg (by simp [visible])]

theorem skipSpace_skipSpace (text : List Char) : skipSpace (skipSpace text) = skipSpace text :=
  List.dropWhile_idempotent ..

theorem spaces_newline (level : Nat) : Spaces (newline level).toList := by
  intro c member
  simp only [newline, String.toList_append, String.toList_ofList, List.mem_append,
    List.mem_replicate] at member
  rcases member with line | ⟨_, rfl⟩
  · obtain rfl := List.mem_singleton.mp line
    rfl
  · rfl

abbrev Reader := List Char → Option (Value × List Char)

/-- What follows a written value: a blank, a comma or the end of a list or a record. A number ends
nowhere else. -/
def Ends : List Char → Prop
  | [] => False
  | c :: _ => isSpace c = true ∨ c = ',' ∨ c = ']' ∨ c = '\x7d'

theorem ends_append {blanks : List Char} (spaces : Spaces blanks) {rest : List Char}
    (ends : Ends rest) : Ends (blanks ++ rest) := by
  cases blanks with
  | nil => exact ends
  | cons c blanks => exact .inl (spaces c List.mem_cons_self)

structure Takes (item? : Reader) (value : Value) (chars : List Char) : Prop where
  /-- They do not begin with a blank or as the end of something. -/
  opens : ∃ c rest, chars = c :: rest ∧ isSpace c = false ∧ c ≠ ']'
  reads : ∀ {blanks}, Spaces blanks → ∀ {rest}, Ends rest →
    item? (blanks ++ (chars ++ rest)) = some (value, rest)

def itemChars (level : Nat) (item : Value) : List Char := (indentedAt level item).toList

/-! ## Leaves -/

theorem takes_null (depth level : Nat) :
    Takes (valueWithin? depth) .null (itemChars level .null) where
  opens := ⟨'n', "ull".toList, by simp [itemChars, indentedAt], by decide, by decide⟩
  reads spaces rest _ := by
    unfold valueWithin?
    rw [skipSpace_append spaces]
    simp [itemChars, indentedAt, skipSpace_cons (show isSpace 'n' = false by decide)]

theorem toList_quoted (text : String) :
    (quoted text).toList = '"' :: (text.toList.flatMap escaped ++ ['"']) := by
  simp [quoted]

theorem takes_str (depth level : Nat) (text : String) :
    Takes (valueWithin? depth) (.str text) (itemChars level (.str text)) where
  opens := ⟨'"', text.toList.flatMap escaped ++ ['"'], toList_quoted text, by decide, by decide⟩
  reads spaces rest _ := by
    have read := quotedText?_append text.toList rest
    unfold valueWithin? itemChars indentedAt
    rw [skipSpace_append spaces, toList_quoted, List.cons_append, List.append_assoc,
      List.singleton_append, skipSpace_cons (by decide)]
    simp [read]

/-! ## Loops over parts -/

section Parts

variable {α : Type} {loop : Nat → List Char → Option (List α × List Char)} {opening close : Char}
  {write : α → List Char} {level : Nat} {first : α} {parts : List α}

/-- The loop takes what is written for this part, in front of a comma and in front of the end. -/
structure Gathers (loop : Nat → List Char → Option (List α × List Char)) (close : Char)
    (write : α → List Char) (part : α) : Prop where
  last : ∀ {lead trail}, Spaces lead → Spaces trail → ∀ limit rest,
    loop (limit + 1) (lead ++ (write part ++ (trail ++ close :: rest))) = some ([part], rest)
  more : ∀ {lead}, Spaces lead → ∀ {limit next others rest}, loop limit next = some (others, rest) →
    loop (limit + 1) (lead ++ (write part ++ ',' :: next)) = some (part :: others, rest)

def laterChars (level : Nat) (write : α → List Char) (parts : List α) : List Char :=
  parts.flatMap fun part => ',' :: ((newline level).toList ++ write part)

def enclosedChars (level : Nat) (opening close : Char) (write : α → List Char) (first : α)
    (parts : List α) : List Char :=
  opening :: ((newline (level + 1)).toList ++ (write first ++
    (laterChars (level + 1) write parts ++ ((newline level).toList ++ [close]))))

theorem length_le_laterChars (level : Nat) (write : α → List Char) (parts : List α) :
    parts.length ≤ (laterChars level write parts).length := by
  induction parts with
  | nil => exact Nat.zero_le _
  | cons part parts ih =>
    simp only [laterChars, List.flatMap_cons, List.length_append, List.length_cons] at ih ⊢
    omega

theorem Gathers.loop_eq (each : ∀ part ∈ first :: parts, Gathers loop close write part)
    {lead trail : List Char} (before : Spaces lead) (after : Spaces trail) {limit : Nat}
    (enough : parts.length < limit) (rest : List Char) :
    loop limit (lead ++ (write first ++ (laterChars level write parts ++
      (trail ++ close :: rest)))) = some (first :: parts, rest) := by
  obtain ⟨limit, rfl⟩ := Nat.exists_eq_add_one_of_ne_zero (Nat.ne_zero_of_lt enough)
  have here := each first List.mem_cons_self
  induction parts generalizing first lead limit with
  | nil => exact here.last before after limit rest
  | cons next parts ih =>
    have room := Nat.lt_of_succ_lt_succ enough
    obtain ⟨fewer, rfl⟩ := Nat.exists_eq_add_one_of_ne_zero (Nat.ne_zero_of_lt room)
    have onwards := ih (fun part later => each part (List.mem_cons_of_mem first later))
      (spaces_newline level) fewer room (each next (by simp))
    rw [laterChars, List.flatMap_cons, List.cons_append, List.cons_append, List.append_assoc,
      List.append_assoc]
    exact here.more before onwards

theorem Gathers.takes {item? : Reader} (build : List α → Value)
    (enters : ∀ {text inner tail : List Char} {c : Char}, skipSpace text = opening :: inner →
      skipSpace inner = c :: tail → c ≠ close →
        item? text =
          (loop (c :: tail).length (c :: tail)).map fun (parts, rest) => (build parts, rest))
    (visible : isSpace opening = false) (inside : opening ≠ ']')
    (starts : ∃ c rest, write first = c :: rest ∧ isSpace c = false ∧ c ≠ close)
    (each : ∀ part ∈ first :: parts, Gathers loop close write part) :
    Takes item? (build (first :: parts)) (enclosedChars level opening close write first parts) where
  opens := ⟨opening, _, rfl, visible, inside⟩
  reads spaces rest _ := by
    obtain ⟨c, chars, begins, shown, different⟩ := starts
    let tail := chars ++ (laterChars (level + 1) write parts ++
      ((newline level).toList ++ close :: rest))
    have body : write first ++ (laterChars (level + 1) write parts ++
        ((newline level).toList ++ close :: rest)) = c :: tail := by
      rw [begins, List.cons_append]
    have enough : parts.length < (c :: tail).length := by
      have later := length_le_laterChars (level + 1) write parts
      simp only [tail, List.length_cons, List.length_append]
      omega
    have gathered : loop (c :: tail).length (c :: tail) = some (first :: parts, rest) := by
      rw [← body] at enough ⊢
      exact loop_eq each (nofun : Spaces []) (spaces_newline level) enough rest
    have enclosed : enclosedChars level opening close write first parts ++ rest =
        opening :: ((newline (level + 1)).toList ++ c :: tail) := by
      simp [enclosedChars, ← body]
    have skipped : skipSpace ((newline (level + 1)).toList ++ c :: tail) = c :: tail := by
      rw [skipSpace_append (spaces_newline _), skipSpace_cons shown]
    rw [enclosed, enters ((skipSpace_append spaces _).trans (skipSpace_cons visible _)) skipped
      different, gathered]
    rfl

end Parts

/-! ## Parts as they are written -/

theorem indentedItems_eq (level : Nat) (items : List Value) :
    indentedItems level items = items.map (indentedAt level) := by
  induction items with
  | nil => rfl
  | cons item items ih => rw [indentedItems, ih, List.map_cons]

theorem toList_indentedAt_arr (level : Nat) (item : Value) (items : List Value) :
    (indentedAt level (.arr (item :: items))).toList =
      enclosedChars level '[' ']' (itemChars (level + 1)) item items := by
  simp [indentedAt, Text.toList_join, indentedItems_eq, enclosedChars, laterChars, itemChars,
    List.flatMap_map]

def fieldText (level : Nat) (field : String × Value) : String :=
  quoted field.1 ++ ": " ++ indentedAt level field.2

theorem indentedFields_eq (level : Nat) (fields : Fields) :
    indentedFields level fields = fields.map (fieldText level) := by
  induction fields with
  | nil => rfl
  | cons field fields ih => rw [indentedFields, ih, List.map_cons, fieldText]

def fieldChars (level : Nat) (field : String × Value) : List Char := (fieldText level field).toList

theorem toList_indentedAt_obj (level : Nat) (field : String × Value) (fields : Fields) :
    (indentedAt level (.obj (field :: fields))).toList =
      enclosedChars level '\x7b' '\x7d' (fieldChars (level + 1)) field fields := by
  simp [indentedAt, Text.toList_join, indentedFields_eq, enclosedChars, laterChars, fieldChars, fieldText,
    List.flatMap_map]

theorem fieldChars_eq (level : Nat) (field : String × Value) : fieldChars level field =
    '"' :: (field.1.toList.flatMap escaped ++ '"' :: ':' :: ' ' :: itemChars level field.2) := by
  simp [fieldChars, fieldText, toList_quoted, itemChars]

/-! ## Items -/

theorem gathers_item {item? : Reader} {level : Nat} {item : Value}
    (takes : Takes item? item (itemChars level item)) :
    Gathers (listItems? item?) ']' (itemChars level) item where
  last {lead trail} before after limit rest := by
    have closed : Ends (']' :: rest) := .inr (.inr (.inl rfl))
    have read := takes.reads before (ends_append after closed)
    simp [listItems?, read, skipSpace_append after,
      skipSpace_cons (show isSpace ']' = false by decide)]
  more before limit next others rest onwards := by
    have read := takes.reads before (show Ends (',' :: next) from .inr (.inl rfl))
    simp [listItems?, read, skipSpace_cons (show isSpace ',' = false by decide), onwards]

theorem valueWithin?_list {depth : Nat} {text inner tail : List Char} {c : Char}
    (opens : skipSpace text = '[' :: inner) (skipped : skipSpace inner = c :: tail)
    (more : c ≠ ']') :
    valueWithin? (depth + 1) text =
      (listItems? (valueWithin? depth) (c :: tail).length (c :: tail)).map
        fun (items, rest) => (.arr items, rest) := by
  unfold valueWithin?
  rw [opens]
  simp only [skipped]
  split
  next ends => exact absurd (List.cons.inj ends).1 more
  next => rfl

theorem takes_arr_nil (depth level : Nat) :
    Takes (valueWithin? (depth + 1)) (.arr []) (itemChars level (.arr [])) where
  opens := ⟨'[', [']'], by simp [itemChars, indentedAt], by decide, by decide⟩
  reads spaces rest _ := by
    unfold valueWithin?
    rw [skipSpace_append spaces]
    simp [itemChars, indentedAt, skipSpace_cons (show isSpace '[' = false by decide),
      skipSpace_cons (show isSpace ']' = false by decide)]

theorem takes_arr {depth level : Nat} {items : List Value}
    (each : ∀ item ∈ items, Takes (valueWithin? depth) item (itemChars (level + 1) item)) :
    Takes (valueWithin? (depth + 1)) (.arr items) (itemChars level (.arr items)) := by
  cases items with
  | nil => exact takes_arr_nil depth level
  | cons item items =>
    obtain ⟨c, rest, begins, visible, more⟩ := (each item List.mem_cons_self).opens
    rw [itemChars, toList_indentedAt_arr]
    exact Gathers.takes .arr valueWithin?_list (by decide) (by decide)
      ⟨c, rest, begins, visible, more⟩ fun item member => gathers_item (each item member)

/-! ## Fields -/

/-- A field begins with its name, and its value stands behind the colon and one blank. -/
theorem field_opens (level : Nat) (field : String × Value) {lead : List Char} (before : Spaces lead)
    (next : List Char) : ∃ written,
      skipSpace (lead ++ (fieldChars level field ++ next)) = '"' :: written ∧
        quotedText? written =
          some (field.1.toList, ':' :: ([' '] ++ (itemChars level field.2 ++ next))) := by
  refine ⟨_, ?_, quotedText?_append field.1.toList _⟩
  rw [skipSpace_append before, fieldChars_eq, List.cons_append, skipSpace_cons (by decide)]
  simp

theorem spaces_blank : Spaces [' '] := by
  intro c member
  obtain rfl := List.mem_singleton.mp member
  rfl

section Steps

variable {item? : Reader} {limit : Nat} {text written name valued last rest : List Char}
  {value : Value} (opens : skipSpace text = '"' :: written)
  (named : quotedText? written = some (name, ':' :: valued))

include opens named

theorem recordFields?_last (limit : Nat) (read : item? valued = some (value, last))
    (ends : skipSpace last = '\x7d' :: rest) :
    recordFields? item? (limit + 1) text = some ([(String.ofList name, value)], rest) := by
  simp [recordFields?, opens, named, skipSpace_cons (show isSpace ':' = false by decide), read, ends]

theorem recordFields?_more (read : item? valued = some (value, last)) {next : List Char}
    (more : skipSpace last = ',' :: next) {others : Fields}
    (onwards : recordFields? item? limit next = some (others, rest)) :
    recordFields? item? (limit + 1) text = some ((String.ofList name, value) :: others, rest) := by
  simp [recordFields?, opens, named, skipSpace_cons (show isSpace ':' = false by decide), read, more,
    onwards]

variable {reader : Shape → Reader} {shape : Shape} {shapes : List (String × Shape)}
  (shaped : shapes.lookup (String.ofList name) = some shape)

include shaped

theorem shapedFields?_last (limit : Nat) (read : reader shape valued = some (value, last))
    (ends : skipSpace last = '\x7d' :: rest) :
    shapedFields? reader shapes (limit + 1) text = some ([(String.ofList name, value)], rest) := by
  simp [shapedFields?, opens, named, skipSpace_cons (show isSpace ':' = false by decide), shaped,
    read, ends]

theorem shapedFields?_more (read : reader shape valued = some (value, last)) {next : List Char}
    (more : skipSpace last = ',' :: next) {others : Fields}
    (onwards : shapedFields? reader shapes limit next = some (others, rest)) :
    shapedFields? reader shapes (limit + 1) text =
      some ((String.ofList name, value) :: others, rest) := by
  simp [shapedFields?, opens, named, skipSpace_cons (show isSpace ':' = false by decide), shaped,
    read, more, onwards]

end Steps

theorem gathers_field {item? : Reader} {level : Nat} {field : String × Value}
    (takes : Takes item? field.2 (itemChars level field.2)) :
    Gathers (recordFields? item?) '\x7d' (fieldChars level) field where
  last before after limit rest := by
    obtain ⟨written, opens, named⟩ := field_opens level field before _
    have ended := (skipSpace_append after ('\x7d' :: rest)).trans (skipSpace_cons (by decide) _)
    have closed := ends_append after (show Ends ('\x7d' :: rest) from .inr (.inr (.inr rfl)))
    have read := recordFields?_last opens named limit (takes.reads spaces_blank closed) ended
    rwa [String.ofList_toList] at read
  more before limit next others rest onwards := by
    obtain ⟨written, opens, named⟩ := field_opens level field before (',' :: next)
    have read := recordFields?_more opens named (takes.reads spaces_blank (.inr (.inl rfl)))
      (skipSpace_cons (by decide) _) onwards
    rwa [String.ofList_toList] at read

theorem gathers_shaped {reader : Shape → Reader} {shapes : List (String × Shape)} {shape : Shape}
    {level : Nat} {field : String × Value} (shaped : shapes.lookup field.1 = some shape)
    (takes : Takes (reader shape) field.2 (itemChars level field.2)) :
    Gathers (shapedFields? reader shapes) '\x7d' (fieldChars level) field where
  last before after limit rest := by
    obtain ⟨written, opens, named⟩ := field_opens level field before _
    rw [← String.ofList_toList (s := field.1)] at shaped
    have ended := (skipSpace_append after ('\x7d' :: rest)).trans (skipSpace_cons (by decide) _)
    have closed := ends_append after (show Ends ('\x7d' :: rest) from .inr (.inr (.inr rfl)))
    have read := shapedFields?_last opens named shaped limit (takes.reads spaces_blank closed) ended
    rwa [String.ofList_toList] at read
  more before limit next others rest onwards := by
    obtain ⟨written, opens, named⟩ := field_opens level field before (',' :: next)
    rw [← String.ofList_toList (s := field.1)] at shaped
    have read := shapedFields?_more opens named shaped (takes.reads spaces_blank (.inr (.inl rfl)))
      (skipSpace_cons (by decide) _) onwards
    rwa [String.ofList_toList] at read

theorem fieldChars_opens (level : Nat) (field : String × Value) :
    ∃ c rest, fieldChars level field = c :: rest ∧ isSpace c = false ∧ c ≠ '\x7d' :=
  ⟨'"', _, fieldChars_eq level field, by decide, by decide⟩

theorem valueWithin?_record {depth : Nat} {text inner tail : List Char} {c : Char}
    (opens : skipSpace text = '\x7b' :: inner) (skipped : skipSpace inner = c :: tail)
    (more : c ≠ '\x7d') :
    valueWithin? (depth + 1) text =
      (recordFields? (valueWithin? depth) (c :: tail).length (c :: tail)).map
        fun (fields, rest) => (.obj fields, rest) := by
  unfold valueWithin?
  rw [opens]
  simp only [skipped]
  split
  next ends => exact absurd (List.cons.inj ends).1 more
  next => rfl

theorem takes_obj_nil (depth level : Nat) :
    Takes (valueWithin? (depth + 1)) (.obj []) (itemChars level (.obj [])) where
  opens := ⟨'\x7b', ['\x7d'], by simp [itemChars, indentedAt], by decide, by decide⟩
  reads spaces rest _ := by
    unfold valueWithin?
    rw [skipSpace_append spaces]
    simp [itemChars, indentedAt, skipSpace_cons (show isSpace '\x7b' = false by decide),
      skipSpace_cons (show isSpace '\x7d' = false by decide)]

theorem takes_obj {depth level : Nat} {fields : Fields}
    (each : ∀ field ∈ fields, Takes (valueWithin? depth) field.2 (itemChars (level + 1) field.2)) :
    Takes (valueWithin? (depth + 1)) (.obj fields) (itemChars level (.obj fields)) := by
  cases fields with
  | nil => exact takes_obj_nil depth level
  | cons field fields =>
    rw [itemChars, toList_indentedAt_obj]
    exact Gathers.takes .obj valueWithin?_record (by decide) (by decide)
      (fieldChars_opens _ field) fun field member => gathers_field (each field member)

/-! ## Values of a shape -/

theorem takes_any {depth : Nat} {value : Value} {chars : List Char}
    (takes : Takes (valueWithin? (depth + 1)) value chars) :
    Takes (shapedWithin? (depth + 1) .any) value chars where
  opens := takes.opens
  reads {blanks} spaces rest ends := by
    have skipped : valueWithin? (depth + 1) (skipSpace (blanks ++ (chars ++ rest))) =
        valueWithin? (depth + 1) (blanks ++ (chars ++ rest)) := by
      unfold valueWithin?
      rw [skipSpace_skipSpace]
    unfold shapedWithin?
    exact skipped.trans (takes.reads spaces ends)

theorem shapedWithin?_list {depth : Nat} {shape : Shape} {text inner tail : List Char} {c : Char}
    (opens : skipSpace text = '[' :: inner) (skipped : skipSpace inner = c :: tail)
    (more : c ≠ ']') :
    shapedWithin? (depth + 1) (.list shape) text =
      (listItems? (shapedWithin? depth shape) (c :: tail).length (c :: tail)).map
        fun (items, rest) => (.arr items, rest) := by
  unfold shapedWithin?
  rw [opens]
  simp only [skipped]
  split
  next ends => exact absurd (List.cons.inj ends).1 more
  next => rfl

theorem takes_list_nil (depth level : Nat) (shape : Shape) :
    Takes (shapedWithin? (depth + 1) (.list shape)) (.arr []) (itemChars level (.arr [])) where
  opens := ⟨'[', [']'], by simp [itemChars, indentedAt], by decide, by decide⟩
  reads spaces rest _ := by
    unfold shapedWithin?
    rw [skipSpace_append spaces]
    simp [itemChars, indentedAt, skipSpace_cons (show isSpace '[' = false by decide),
      skipSpace_cons (show isSpace ']' = false by decide)]

theorem takes_list {depth level : Nat} {shape : Shape} {items : List Value}
    (each : ∀ item ∈ items, Takes (shapedWithin? depth shape) item (itemChars (level + 1) item)) :
    Takes (shapedWithin? (depth + 1) (.list shape)) (.arr items) (itemChars level (.arr items)) := by
  cases items with
  | nil => exact takes_list_nil depth level shape
  | cons item items =>
    obtain ⟨c, rest, begins, visible, more⟩ := (each item List.mem_cons_self).opens
    rw [itemChars, toList_indentedAt_arr]
    exact Gathers.takes .arr shapedWithin?_list (by decide) (by decide)
      ⟨c, rest, begins, visible, more⟩ fun item member => gathers_item (each item member)

theorem shapedWithin?_record {depth : Nat} {shapes : List (String × Shape)}
    {text inner tail : List Char} {c : Char} (opens : skipSpace text = '\x7b' :: inner)
    (skipped : skipSpace inner = c :: tail) (more : c ≠ '\x7d') :
    shapedWithin? (depth + 1) (.record shapes) text =
      (shapedFields? (shapedWithin? depth) shapes (c :: tail).length (c :: tail)).map
        fun (fields, rest) => (.obj fields, rest) := by
  unfold shapedWithin?
  rw [opens]
  simp only [skipped]
  split
  next ends => exact absurd (List.cons.inj ends).1 more
  next => rfl

theorem takes_record {depth level : Nat} {shapes : List (String × Shape)} {field : String × Value}
    {fields : Fields} (each : ∀ entry ∈ field :: fields, ∃ shape,
      shapes.lookup entry.1 = some shape ∧
        Takes (shapedWithin? depth shape) entry.2 (itemChars (level + 1) entry.2)) :
    Takes (shapedWithin? (depth + 1) (.record shapes)) (.obj (field :: fields))
      (itemChars level (.obj (field :: fields))) := by
  rw [itemChars, toList_indentedAt_obj]
  refine Gathers.takes .obj shapedWithin?_record (by decide) (by decide)
    (fieldChars_opens _ field) fun entry member => ?_
  obtain ⟨shape, shaped, takes⟩ := each entry member
  exact gathers_shaped shaped takes

theorem readShaped?_indented {shape : Shape} {value : Value}
    (takes : Takes (shapedWithin? nesting shape) value (itemChars 0 value)) :
    readShaped? shape (value.indented ++ "\n") = some value := by
  have read := takes.reads (nofun : Spaces []) (show Ends ['\n'] from .inl rfl)
  have whole : (value.indented ++ "\n").toList = [] ++ (itemChars 0 value ++ ['\n']) := by
    simp [indented, itemChars]
  unfold readShaped?
  rw [whole, read]
  rfl

end Signpost.Value
