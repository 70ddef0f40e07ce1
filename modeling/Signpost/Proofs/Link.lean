import Signpost.Link
import Signpost.Proofs.Location

/-! How links are read.

A link is read from what stands before its last question mark and what stands after it, each without
the blanks around it. What stands after it is the permission that the link asks for, and nothing else
of the text has a say in that. What stands before it is the path and the block: the ways to write a
path are told apart by its first characters, which its written form keeps. So a link is written as it
was read, up to those blanks, and its written form is read as the same link. -/

namespace Signpost

namespace Reference

variable {path : List Char} {target : Reference}

inductive Written : Reference → List Char → Prop
  | absolute (rest : List Char) : Written (absolute (String.ofList ('/' :: rest))) ('/' :: rest)
  | here (rest : List Char) : Written (here (String.ofList rest)) ('.' :: '/' :: rest)
  | up {levels : Nat} {above rest : List Char}
      (climbs : climb ('.' :: '.' :: '/' :: above) = (levels, rest)) :
      Written (up levels (String.ofList rest)) ('.' :: '.' :: '/' :: above)
  | bare {path : List Char} (shown : path ≠ []) (relative : path.head? ≠ some '/') :
      Written (bare (String.ofList path)) path

theorem written_of_read? (read : read? path = some target) : Written target path := by
  unfold read? at read
  split at read
  next => cases read
  next rest =>
    split at read
    · cases read
    · cases read
      exact .absolute rest
  next rest =>
    split at read
    · cases read
    · cases read
      exact .here rest
  next above =>
    dsimp only at read
    split at read
    · cases read
    · cases read
      exact .up rfl
  next shown absolute _ _ =>
    split at read
    · cases read
    · cases read
      refine .bare (fun empty => shown empty) fun slash => ?_
      obtain ⟨rest, split⟩ := List.head?_eq_some_iff.mp slash
      exact absolute rest split

theorem toList_climbText (path : List Char) :
    (climbText (climb path).1).toList ++ (climb path).2 = path := by
  fun_induction climb path with
  | case1 above levels rest climbs ih =>
    rw [climbs] at ih
    simpa [climbText] using ih
  | case2 => rfl

theorem Written.text (written : Written target path) : target.text = String.ofList path := by
  rw [← String.toList_inj, String.toList_ofList]
  cases written with
  | absolute | bare => exact String.toList_ofList
  | here => simp [Reference.text]
  | @up levels above rest climbs =>
    have whole := toList_climbText ('.' :: '.' :: '/' :: above)
    rw [climbs] at whole
    simpa [Reference.text] using whole

end Reference

namespace Link

variable {written whole : String} {body : List Char} {permission : Option String} {link : Link}

/-! ## The path and the block -/

inductive Reads (body : List Char) : Reference → Option String → Prop
  | within {block : List Char} (same : sameDocumentBlock? body = some block)
      (valid : Location.validBlock block = true) :
      Reads body .sameDocument (some (String.ofList block))
  | entrance {path : List Char} {target : Reference} (elsewhere : sameDocumentBlock? body = none)
      (cut : Location.splitBlock body = (path, none)) (read : Reference.read? path = some target) :
      Reads body target none
  | block {path block : List Char} {target : Reference} (elsewhere : sameDocumentBlock? body = none)
      (cut : Location.splitBlock body = (path, some block))
      (valid : Location.validBlock block = true) (read : Reference.read? path = some target) :
      Reads body target (some (String.ofList block))

theorem readBody_eq_ok_iff :
    readBody whole body permission = .ok link ↔
      Reads body link.target link.block ∧ link.permission = permission := by
  constructor
  · intro read
    unfold readBody at read
    split at read
    next block same =>
      split at read
      next valid =>
        cases read
        exact ⟨.within same valid, rfl⟩
      next => cases read
    next elsewhere =>
      dsimp only at read
      split at read
      next path cut =>
        split at read
        next target found =>
          cases read
          exact ⟨.entrance elsewhere cut found, rfl⟩
        next => cases read
      next path block cut =>
        split at read
        next valid =>
          split at read
          next target found =>
            cases read
            exact ⟨.block elsewhere cut valid found, rfl⟩
          next => cases read
        next => cases read
  · obtain ⟨target, block, asked⟩ := link
    rintro ⟨reads, rfl⟩
    unfold readBody
    cases reads with
    | within same valid => simp only [same, valid, ↓reduceIte]
    | entrance elsewhere cut read => simp only [elsewhere, cut, read]
    | block elsewhere cut valid read => simp only [elsewhere, cut, valid, read, ↓reduceIte]

def entered : Option String → String
  | none => ""
  | some block => "." ++ block

def asked : Option String → String
  | none => ""
  | some predicate => "?" ++ predicate

theorem text_eq (link : Link) :
    link.text = link.target.text ++ entered link.block ++ asked link.permission := by
  unfold Link.text
  cases link.block <;> cases link.permission <;> rfl

theorem Reads.text {target : Reference} {block : Option String} (reads : Reads body target block) :
    target.text ++ entered block = String.ofList body := by
  rw [← String.toList_inj, String.toList_ofList]
  cases reads with
  | within same =>
    unfold sameDocumentBlock? at same
    split at same
    next rest =>
      split at same
      · cases same
      · cases same
        simp [Reference.text, entered]
    next => cases same
  | entrance elsewhere cut read =>
    have written := (Reference.written_of_read? read).text
    rw [Location.eq_of_splitBlock cut] at written
    simp [written, entered]
  | block elsewhere cut valid read =>
    have written := (Reference.written_of_read? read).text
    have joined := (Location.splitBlock_eq_some_iff.mp cut).1
    simp [written, joined, entered]

theorem text_of_readBody (read : readBody whole body permission = .ok link) :
    link.text = String.ofList body ++ asked permission := by
  obtain ⟨reads, rfl⟩ := readBody_eq_ok_iff.mp read
  rw [text_eq, reads.text]

theorem readBody_again (read : readBody whole body permission = .ok link) (other : String) :
    readBody other body permission = .ok link :=
  readBody_eq_ok_iff.mpr (readBody_eq_ok_iff.mp read)

/-! ## The permission -/

/-- Without a question mark the whole text is path and block. -/
theorem read_unmarked (absent : '?' ∉ written.toList) :
    Link.read written =
      if (Text.trimChars written.toList).isEmpty then .error .empty
      else readBody (Text.trim written) (Text.trimChars written.toList) none := by
  have unmarked : Text.cutLast '?' (Text.trimChars written.toList) = none :=
    Text.cutLast_eq_none_iff.mpr fun member => absent (Text.trimChars_subset _ member)
  unfold Link.read
  simp only [unmarked, Text.trim]

theorem read_marked {rest : List Char} (split : written.toList = body ++ '?' :: rest)
    (absent : '?' ∉ rest) :
    Link.read written =
      if (Text.trimChars rest).isEmpty then .error (.emptyPredicate (Text.trim written))
      else readBody (Text.trim written) (Text.trimChars body)
        (some (String.ofList (Text.trimChars rest))) := by
  have trimmed : Text.trimChars written.toList = Text.trimStart body ++ '?' :: Text.trimEnd rest := by
    rw [split, Text.trimChars_append (by decide)]
  have marked : Text.cutLast '?' (Text.trimChars written.toList) =
      some (Text.trimStart body, Text.trimEnd rest) := by
    rw [trimmed]
    exact Text.cutLast_append fun member => absent (Text.trimEnd_subset _ member)
  have shown : (Text.trimChars written.toList).isEmpty = false := by
    rw [trimmed]
    simp
  unfold Link.read
  simp only [shown, marked, Text.trim, Text.trimChars_trimEnd, Text.trimChars_trimStart,
    Bool.false_eq_true, ↓reduceIte]

theorem exists_readBody (read : Link.read written = .ok link) :
    ∃ whole body permission, readBody whole body permission = .ok link := by
  unfold Link.read at read
  dsimp only at read
  split at read
  · cases read
  · split at read
    · exact ⟨_, _, _, read⟩
    · split at read
      · cases read
      · exact ⟨_, _, _, read⟩

def AsksFor (written permission : String) : Prop :=
  ∃ body rest, written.toList = body ++ '?' :: rest ∧ '?' ∉ rest ∧
    permission = String.ofList (Text.trimChars rest)

theorem permission_iff_asksFor (read : Link.read written = .ok link) (permission : String) :
    link.permission = some permission ↔ AsksFor written permission := by
  cases cut : Text.cutLast '?' written.toList with
  | none =>
    have absent := Text.cutLast_eq_none_iff.mp cut
    rw [read_unmarked absent] at read
    split at read
    · cases read
    · rw [(readBody_eq_ok_iff.mp read).2]
      refine iff_of_false nofun ?_
      rintro ⟨body, rest, split, _, _⟩
      exact absent (by simp [split])
  | some parts =>
    obtain ⟨body, rest⟩ := parts
    obtain ⟨split, absent⟩ := Text.of_cutLast cut
    rw [read_marked split absent] at read
    split at read
    · cases read
    · rw [(readBody_eq_ok_iff.mp read).2, Option.some.injEq]
      constructor
      · rintro rfl
        exact ⟨body, rest, split, absent, rfl⟩
      · rintro ⟨other, predicate, split', absent', rfl⟩
        rw [split', Text.cutLast_append absent'] at cut
        cases cut
        rfl

/-! ## The whole text -/

/-- The text without the blanks around it and around its last question mark. -/
def tidied (written : String) : String :=
  match Text.cutLast '?' written.toList with
  | none => Text.trim written
  | some (body, rest) =>
      Text.trim (String.ofList body) ++ "?" ++ Text.trim (String.ofList rest)

/-- A link that can be read has its text, the blanks apart, as its written form, and this is read as
the same link. -/
theorem text_reads_back (read : Link.read written = .ok link) :
    link.text = tidied written ∧ Link.read link.text = .ok link := by
  cases cut : Text.cutLast '?' written.toList with
  | none =>
    have absent := Text.cutLast_eq_none_iff.mp cut
    rw [read_unmarked absent] at read
    split at read
    · cases read
    next shown =>
    have chars : (Text.trim written).toList = Text.trimChars written.toList := String.toList_ofList
    have form : link.text = Text.trim written := by
      rw [text_of_readBody read, asked, String.append_empty, Text.trim]
    have unmarked : '?' ∉ (Text.trim written).toList := fun member =>
      absent (Text.trimChars_subset _ (chars ▸ member))
    refine ⟨by rw [form, tidied, cut], ?_⟩
    rw [form, read_unmarked unmarked, chars, Text.trimChars_trimChars, if_neg shown]
    exact readBody_again read _
  | some parts =>
    obtain ⟨body, rest⟩ := parts
    obtain ⟨split, absent⟩ := Text.of_cutLast cut
    rw [read_marked split absent] at read
    split at read
    · cases read
    next shown =>
    have form : link.text = tidied written := by
      rw [text_of_readBody read]
      simp only [asked, tidied, cut, Text.trim, String.toList_ofList, String.append_assoc]
    have chars : (tidied written).toList = Text.trimChars body ++ '?' :: Text.trimChars rest := by
      simp [tidied, cut, Text.trim]
    have last : '?' ∉ Text.trimChars rest := fun member => absent (Text.trimChars_subset _ member)
    refine ⟨form, ?_⟩
    rw [form, read_marked chars last, Text.trimChars_trimChars, Text.trimChars_trimChars,
      if_neg shown]
    exact readBody_again read _

/-- Steps upwards, a path with a question mark, a blank and a step of its own, and blanks around the
last question mark. -/
theorem text_reads_back_mixed :
    (⟨.up 2 "a.b?c d/../x.", some "Main", some "role:admin"⟩ : Link).text =
        tidied "  ../../a.b?c d/../x..Main ? role:admin\t" ∧
      Link.read "../../a.b?c d/../x..Main?role:admin" =
        .ok ⟨.up 2 "a.b?c d/../x.", some "Main", some "role:admin"⟩ := by
  have read : Link.read "  ../../a.b?c d/../x..Main ? role:admin\t" =
      .ok ⟨.up 2 "a.b?c d/../x.", some "Main", some "role:admin"⟩ := by decide +kernel
  have form : (⟨.up 2 "a.b?c d/../x.", some "Main", some "role:admin"⟩ : Link).text =
      "../../a.b?c d/../x..Main?role:admin" := by decide +kernel
  obtain ⟨tidy, again⟩ := text_reads_back read
  exact ⟨tidy, form ▸ again⟩

end Link

end Signpost
