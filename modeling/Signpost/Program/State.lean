import Signpost.Text.Utf8
import Signpost.Files.Tree

/-! What a program leaves behind, and how much of its output is kept.

Output arrives in chunks. Of each stream the first bytes up to a limit are kept and all others are
counted, however the stream was cut into chunks. -/

namespace Signpost.Program

inductive Exit where
  | code (n : Nat)
  | signal (n : Nat)
deriving DecidableEq, Repr, Inhabited

inductive Stream where
  | standard
  | error
deriving DecidableEq, Repr, Inhabited

/-- Bytes that a program writes. Times are in milliseconds since it was started. -/
structure Chunk where
  time : Nat
  /-- When the program itself is last needed for the bytes to come: as they are written, or as the
  helper that writes them is started. A helper outlives the program that has started it. -/
  needed : Nat
  stream : Stream
  bytes : Text.Bytes
deriving DecidableEq, Repr, Inhabited

structure Finished where
  exit : Exit
  chunks : List Chunk
  duration : Nat
deriving DecidableEq, Repr, Inhabited

structure Kept where
  bytes : Text.Bytes := []
  dropped : Nat := 0
deriving DecidableEq, Repr, Inhabited

def Kept.add (limit : Nat) (kept : Kept) (chunk : Text.Bytes) : Kept :=
  let taken := min chunk.length (limit - kept.bytes.length)
  { bytes := kept.bytes ++ chunk.take taken
    dropped := kept.dropped + (chunk.length - taken) }

def Kept.addReads (limit : Nat) (kept : Kept) : List Text.Bytes → Kept
  | [] => kept
  | chunk :: reads =>
      if chunk.isEmpty then kept else Kept.addReads limit (kept.add limit chunk) reads

def readLimited (limit : Nat) (reads : List Text.Bytes) : Kept := Kept.addReads limit {} reads

structure Captured where
  exit : Exit
  stdout : Text.Bytes
  stderr : Text.Bytes
  /-- Bytes dropped beyond the limit of both streams. -/
  truncated : Nat
  timedOut : Bool
deriving DecidableEq, Repr, Inhabited

def killSignal : Nat := 9

namespace Finished

/-- Whether a program is stopped after `timeout` milliseconds. -/
def timesOut (finished : Finished) (timeout : Nat) : Bool :=
  finished.duration != 0 && timeout ≤ finished.duration

def output (finished : Finished) (timeout : Nat) (stream : Stream) : Text.Bytes :=
  let chunks :=
    if finished.timesOut timeout then finished.chunks.filter (·.needed ≤ timeout)
    else finished.chunks
  (chunks.filter (·.stream == stream)).flatMap (·.bytes)

end Finished

def captureReads (timeout limit : Nat) (finished : Finished) (reads : Stream → List Text.Bytes) :
    Captured :=
  let timedOut := finished.timesOut timeout
  let stdout := readLimited limit (reads .standard)
  let stderr := readLimited limit (reads .error)
  { exit := if timedOut then .signal killSignal else finished.exit
    stdout := stdout.bytes
    stderr := stderr.bytes
    truncated := stdout.dropped + stderr.dropped
    timedOut := timedOut }

def readSize : Nat := 8192

def fullReads (stream : Text.Bytes) : List Text.Bytes :=
  if stream = [] then [] else stream.take readSize :: fullReads (stream.drop readSize)
termination_by stream.length
decreasing_by
  rw [List.length_drop]
  exact Nat.sub_lt (List.length_pos_iff.mpr ‹_›) (by decide)

def capture (timeout limit : Nat) (finished : Finished) : Captured :=
  captureReads timeout limit finished fun stream => fullReads (finished.output timeout stream)

/-! What a program works on: files, pipes and descriptors.

All programs that are started together share a world, in which the files, the contents of pipes and
the places in open files are kept. Each program has its own descriptors, its own directory and its own
time, since programs run beside one another. -/

structure Pipe where
  /-- Bytes to be read next with the times of their arrival, the earliest first. -/
  ready : List (Nat × Text.Bytes) := []
  /-- Bytes behind those, the latest first. -/
  arrived : List (Nat × Text.Bytes) := []
  /-- When the last writer has closed it. -/
  closes : Nat := 0
deriving DecidableEq, Repr, Inhabited

namespace Pipe

def waiting (pipe : Pipe) : List (Nat × Text.Bytes) := pipe.ready ++ pipe.arrived.reverse

def bytes (pipe : Pipe) : Text.Bytes := pipe.waiting.flatMap (·.2)

def add (pipe : Pipe) (time : Nat) (bytes : Text.Bytes) : Pipe :=
  if bytes.isEmpty then pipe else { pipe with arrived := (time, bytes) :: pipe.arrived }

/-- The bytes that can be read at once and the time by which they are there; none at the end. -/
def next? (pipe : Pipe) : Option ((Nat × Text.Bytes) × Pipe) :=
  match pipe.ready with
  | first :: rest => some (first, { pipe with ready := rest })
  | [] =>
      match pipe.arrived.reverse with
      | first :: rest => some (first, { pipe with ready := rest, arrived := [] })
      | [] => none

end Pipe

structure OpenFile where
  place : List String
  offset : Nat
  readable : Bool
  writable : Bool
  /-- Whether all bytes are written at the end. -/
  appends : Bool
deriving DecidableEq, Repr, Inhabited

inductive Channel where
  | outside (stream : Stream)
  | nowhere
  /-- Takes no bytes. -/
  | full
  | source (pipe : Nat)
  | drain (pipe : Nat)
  | file (id : Nat)
  | directory
deriving DecidableEq, Repr, Inhabited

structure World where
  tree : FileTree
  chunks : List Chunk := []
  pipes : List (Nat × Pipe) := []
  files : List (Nat × OpenFile) := []
  /-- The next number for a pipe or an open file. -/
  next : Nat := 0

structure State where
  world : World
  /-- The path of its directory. -/
  directory : String
  descriptors : List (Nat × Channel)
  time : Nat := 0
  /-- When the helper of the outermost program was started that this program is part of. -/
  helper : Option Nat := none

inductive SystemError where
  | notFound
  | badDescriptor
  | denied
  | exists
  | notDirectory
  | isDirectory
  | nameTooLong
  | noSpace
deriving DecidableEq, Repr, Inhabited

def SystemError.message : SystemError → String
  | notFound => "No such file or directory"
  | badDescriptor => "Bad file descriptor"
  | denied => "Permission denied"
  | .exists => "File exists"
  | notDirectory => "Not a directory"
  | isDirectory => "Is a directory"
  | nameTooLong => "File name too long"
  | noSpace => "No space left on device"

def put {α β : Type} [BEq α] (key : α) (value : β) (table : List (α × β)) : List (α × β) :=
  (key, value) :: table.filter fun entry => entry.1 != key

def drop {α β : Type} [BEq α] (key : α) (table : List (α × β)) : List (α × β) :=
  table.filter fun entry => entry.1 != key

namespace World

def pipe (w : World) (id : Nat) : Pipe := (w.pipes.lookup id).getD {}

def setPipe (w : World) (id : Nat) (pipe : Pipe) : World :=
  { w with pipes := put id pipe w.pipes }

def newPipe (w : World) (content : Pipe) : Nat × World :=
  (w.next, { w with pipes := put w.next content w.pipes, next := w.next + 1 })

def dropPipe (w : World) (id : Nat) : World := { w with pipes := drop id w.pipes }

def newFile (w : World) (file : OpenFile) : Nat × World :=
  (w.next, { w with files := put w.next file w.files, next := w.next + 1 })

def contentAt (w : World) (place : List String) : Text.Bytes :=
  match w.tree.node? place with
  | some (.file content) => content
  | _ => []

def writeFile (w : World) (id : Nat) (file : OpenFile) (bytes : Text.Bytes) : World :=
  let content := w.contentAt file.place
  let offset := if file.appends then content.length else file.offset
  let before := content.take offset
  let gap : Text.Bytes := List.replicate (offset - content.length) 0
  let after := content.drop (offset + bytes.length)
  { w with
    tree := w.tree.set file.place (.file (before ++ gap ++ bytes ++ after))
    files := put id { file with offset := offset + bytes.length } w.files }

end World

namespace State

def channel? (s : State) (descriptor : Nat) : Option Channel := s.descriptors.lookup descriptor

def setChannel (s : State) (descriptor : Nat) (channel : Option Channel) : State :=
  { s with
    descriptors := match channel with
      | some channel => put descriptor channel s.descriptors
      | none => drop descriptor s.descriptors }

def until_ (s : State) (time : Nat) : State := { s with time := max s.time time }

def writeBytes (s : State) (descriptor : Nat) (bytes : Text.Bytes) : Option SystemError × State :=
  if bytes.isEmpty then (none, s)
  else match s.channel? descriptor with
    | some (.outside stream) =>
        let chunk : Chunk := ⟨s.time, s.helper.getD s.time, stream, bytes⟩
        (none, { s with world := { s.world with chunks := chunk :: s.world.chunks } })
    | some .nowhere => (none, s)
    | some .full => (some .noSpace, s)
    | some (.drain id) =>
        (none, { s with world := s.world.setPipe id ((s.world.pipe id).add s.time bytes) })
    | some (.file id) =>
        match s.world.files.lookup id with
        | some file =>
            if file.writable then (none, { s with world := s.world.writeFile id file bytes })
            else (some .badDescriptor, s)
        | none => (some .badDescriptor, s)
    | some (.source _) | some .directory | none => (some .badDescriptor, s)

def write (s : State) (descriptor : Nat) (raw : String) : Option SystemError × State :=
  s.writeBytes descriptor (Text.bytesOf raw)

/-- Writes raw text to the error output; what cannot be written is lost. -/
def complain (s : State) (raw : String) : State := (s.write 2 raw).2

def readSome (s : State) (descriptor : Nat) : Except SystemError (Option Text.Bytes × State) :=
  match s.channel? descriptor with
  | none | some (.drain _) | some (.outside _) => .error .badDescriptor
  | some .nowhere => .ok (none, s)
  | some .full => .ok (none, s)
  | some .directory => .error .isDirectory
  | some (.source id) =>
      match (s.world.pipe id).next? with
      | some ((time, bytes), pipe) =>
          .ok (some bytes, { s.until_ time with world := s.world.setPipe id pipe })
      | none => .ok (none, s.until_ (s.world.pipe id).closes)
  | some (.file id) =>
      match s.world.files.lookup id with
      | some file =>
          if !file.readable then .error .badDescriptor
          else
            let rest := (s.world.contentAt file.place).drop file.offset
            if rest.isEmpty then .ok (none, s)
            else
              let file := { file with offset := file.offset + rest.length }
              .ok (some rest, { s with world := { s.world with files := put id file s.world.files } })
      | none => .error .badDescriptor

def unread (s : State) (descriptor : Nat) (bytes : Text.Bytes) : State :=
  if bytes.isEmpty then s
  else match s.channel? descriptor with
    | some (.source id) =>
        let pipe := s.world.pipe id
        { s with world := s.world.setPipe id { pipe with ready := (s.time, bytes) :: pipe.ready } }
    | some (.file id) =>
        match s.world.files.lookup id with
        | some file =>
            let file := { file with offset := file.offset - bytes.length }
            { s with world := { s.world with files := put id file s.world.files } }
        | none => s
    | _ => s

def absolute (s : State) (path : String) : String := Path.join s.directory path

end State

end Signpost.Program
