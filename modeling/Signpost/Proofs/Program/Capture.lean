import Mathlib.Data.List.TakeWhile
import Signpost.Program.State

/-! How much is kept of what a program writes.

Taking in two chunks is the same as taking in both at once, whether the limit lies in the first one, in
the second one or between them. So what is kept of a stream depends on its bytes only and not on the
reads in which they arrive: the first bytes up to the limit are kept, and the others are counted. -/

namespace Signpost.Program

open Text (Bytes)

variable {stream : Bytes}

/-! ## Reads -/

/-- The reads of a stream: each of them comes to something, and together they come to the stream. -/
structure Reads (stream : Bytes) (reads : List Bytes) : Prop where
  filled : ∀ chunk ∈ reads, chunk ≠ []
  joined : reads.flatten = stream

theorem reads_fullReads (stream : Bytes) : Reads stream (fullReads stream) := by
  fun_induction fullReads stream with
  | case1 => exact ⟨nofun, rfl⟩
  | case2 stream shown ih =>
    have first : stream.take readSize ≠ [] := by simpa [readSize] using shown
    refine ⟨List.forall_mem_cons.mpr ⟨first, ih.filled⟩, ?_⟩
    rw [List.flatten_cons, ih.joined, List.take_append_drop]

/-! ## Chunks -/

theorem Kept.add_nil (limit : Nat) (kept : Kept) : kept.add limit [] = kept := by
  simp [Kept.add]

theorem Kept.add_append (limit : Nat) (kept : Kept) (chunk later : Bytes) :
    kept.add limit (chunk ++ later) = (kept.add limit chunk).add limit later := by
  obtain ⟨bytes, dropped⟩ := kept
  simp only [Kept.add, Kept.mk.injEq, List.length_append, List.length_take]
  refine ⟨?_, by omega⟩
  rw [List.append_assoc, List.take_append]
  -- What is taken of each part is the same number of bytes, up to bytes that are not there.
  congr 2 <;> (rw [List.take_eq_take_iff]; omega)

/-- Reads are taken in like one chunk, up to the first that comes to nothing. -/
theorem Kept.addReads_eq (limit : Nat) (kept : Kept) (reads : List Bytes) :
    kept.addReads limit reads =
      kept.add limit (reads.takeWhile fun chunk => !chunk.isEmpty).flatten := by
  induction reads generalizing kept with
  | nil => exact (Kept.add_nil limit kept).symm
  | cons chunk reads ih =>
    rw [Kept.addReads, List.takeWhile_cons]
    cases chunk.isEmpty with
    | true => exact (Kept.add_nil limit kept).symm
    | false =>
      simp only [Bool.false_eq_true, if_false, Bool.not_false, if_true, List.flatten_cons]
      rw [ih, Kept.add_append]

theorem Kept.add_empty (limit : Nat) (stream : Bytes) : Kept.add limit {} stream =
    ⟨stream.take (min limit stream.length), stream.length - min limit stream.length⟩ := by
  simp [Kept.add, Nat.min_comm]

theorem Reads.readLimited_eq {reads : List Bytes} (arrive : Reads stream reads) (limit : Nat) :
    readLimited limit reads =
      ⟨stream.take (min limit stream.length), stream.length - min limit stream.length⟩ := by
  have all : (reads.takeWhile fun chunk => !chunk.isEmpty) = reads :=
    List.takeWhile_eq_self_iff.mpr fun chunk member => by simpa using arrive.filled chunk member
  rw [readLimited, Kept.addReads_eq, all, arrive.joined, Kept.add_empty]

/-! ## Programs -/

section Programs

variable {timeout : Nat} {finished : Finished} {reads : Stream → List Bytes}

theorem captureReads_eq_capture
    (arrive : ∀ stream, Reads (finished.output timeout stream) (reads stream)) (limit : Nat) :
    captureReads timeout limit finished reads = capture timeout limit finished := by
  have same (stream : Stream) : readLimited limit (reads stream) =
      readLimited limit (fullReads (finished.output timeout stream)) := by
    rw [(arrive stream).readLimited_eq, (reads_fullReads _).readLimited_eq]
  rw [capture, captureReads, captureReads, same, same]

theorem truncated_captureReads
    (arrive : ∀ stream, Reads (finished.output timeout stream) (reads stream)) (limit : Nat) :
    (captureReads timeout limit finished reads).truncated =
      ((finished.output timeout .standard).length - limit) +
        ((finished.output timeout .error).length - limit) := by
  have beyond (stream : Stream) : (readLimited limit (reads stream)).dropped =
      (finished.output timeout stream).length - limit := by
    rw [(arrive stream).readLimited_eq]
    dsimp only
    omega
  exact congrArg₂ (· + ·) (beyond .standard) (beyond .error)

end Programs

/-- Of every stream exactly the first bytes up to the limit are kept and the others are counted, in
whatever reads it arrives. What is captured of a program is the same for all reads of its streams, and
it tells how many bytes were beyond the limit on both of them. -/
theorem reads_make_no_difference (limit : Nat) :
    (∀ (stream : Bytes) (reads : List Bytes), Reads stream reads → readLimited limit reads =
      ⟨stream.take (min limit stream.length), stream.length - min limit stream.length⟩) ∧
    ∀ (timeout : Nat) (finished : Finished) (reads : Stream → List Bytes),
      (∀ stream, Reads (finished.output timeout stream) (reads stream)) →
      captureReads timeout limit finished reads = capture timeout limit finished ∧
        (captureReads timeout limit finished reads).truncated =
          ((finished.output timeout .standard).length - limit) +
            ((finished.output timeout .error).length - limit) :=
  ⟨fun _ _ arrive => arrive.readLimited_eq limit, fun _ _ _ arrive =>
    ⟨captureReads_eq_capture arrive limit, truncated_captureReads arrive limit⟩⟩

def chatty : Finished where
  exit := .code 0
  chunks := [⟨0, 0, .standard, [1, 2]⟩, ⟨1, 1, .error, [11, 12, 13]⟩, ⟨2, 2, .standard, [3, 4, 5, 6, 7]⟩,
    ⟨3, 3, .error, [14, 15, 16]⟩]
  duration := 3

def chattyReads : Stream → List Bytes
  | .standard => [[1], [2, 3, 4], [5, 6], [7]]
  | .error => [[11, 12, 13], [14, 15, 16]]

theorem reads_make_no_difference_chatty :
    (∀ stream, Reads (chatty.output 10 stream) (chattyReads stream)) ∧
      readLimited 4 (chattyReads .standard) = ⟨[1, 2, 3, 4], 3⟩ ∧
      readLimited 4 (chattyReads .error) = ⟨[11, 12, 13, 14], 2⟩ ∧
      (captureReads 10 4 chatty chattyReads).truncated = 5 := by
  have arrive : ∀ stream, Reads (chatty.output 10 stream) (chattyReads stream) := by
    rintro (_ | _) <;> exact ⟨by decide, rfl⟩
  obtain ⟨kept, counted⟩ := reads_make_no_difference 4
  exact ⟨arrive, kept _ _ (arrive .standard), kept _ _ (arrive .error),
    (counted 10 chatty chattyReads arrive).2⟩

end Signpost.Program
