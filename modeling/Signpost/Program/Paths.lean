import Signpost.Program.State

/-! Paths as programs follow them.

Below its top a tree knows all files. Of the file system around it only the usual directories, devices
and programs are known; files that are written there are kept at places that begin with an empty
name. -/

namespace Signpost.Program

inductive Found where
  | file (place : List String)
  | directory (place : List String)
  | device (channel : Channel)
  /-- A file that can be run. -/
  | program
deriving DecidableEq, Repr, Inhabited

def usualDirectories : List String :=
  ["bin", "boot", "dev", "etc", "home", "lib", "lib64", "media", "mnt", "opt", "proc", "root", "run",
    "sbin", "srv", "sys", "tmp", "usr", "usr/bin", "usr/lib", "usr/local", "usr/local/bin",
    "usr/sbin", "usr/share", "var", "var/log", "var/tmp", "dev/fd"]

/-- Files around the tree that can be read but not run. -/
def usualFiles : List String := ["etc/group", "etc/hostname", "etc/hosts", "etc/passwd"]

def programNames : List String := ["cat", "echo", "false", "printf", "sh", "sleep", "true"]

def programDirectories : List String := ["bin", "usr/bin"]

def longestName : Nat := 255
def longestPath : Nat := 4095

def descriptorDevice? (path : String) : Option Nat :=
  match path with
  | "dev/stdin" => some 0
  | "dev/stdout" => some 1
  | "dev/stderr" => some 2
  | path =>
      if path.startsWith "dev/fd/" then (path.drop 7).toString.toNat? else none

def settled (parts : List String) : List String :=
  parts.foldl (fun place part =>
    if part = "" || part = "." then place
    else if part = ".." then place.dropLast
    else place ++ [part]) []

def State.outside (s : State) (parts : List String) : Except SystemError Found :=
  let place := settled parts
  let path := Text.join "/" place
  match s.world.tree.node? ("" :: place) with
  | some (.file _) => .ok (.file ("" :: place))
  | _ =>
      if path = "" || usualDirectories.contains path then .ok (.directory ("" :: place))
      else match descriptorDevice? path with
        | some descriptor =>
            match s.channel? descriptor with
            | some channel => .ok (.device channel)
            | none => .error .notFound
        | none =>
            if path = "dev/null" then .ok (.device .nowhere)
            else if path = "dev/full" then .ok (.device .full)
            else if usualFiles.contains path then .ok (.file ("" :: place))
            else if programDirectories.contains (Text.join "/" place.dropLast) &&
                programNames.contains (place.getLast?.getD "") then .ok .program
            else
              let above := Text.join "/" place.dropLast
              if usualFiles.contains above || (descriptorDevice? above).isSome ||
                  above = "dev/null" then .error .notDirectory
              else .error .notFound

/-- Follows steps below the top of the tree. `left` is what a path means that leaves the tree. -/
def followBelow (tree : FileTree) (left : List String → Except SystemError Found)
    (place : List String) : List String → Except SystemError Found
  | [] =>
      match tree.node? place with
      | some (.file _) => .ok (.file place)
      | some .directory => .ok (.directory place)
      | none => .error .notFound
  | part :: parts =>
      match tree.node? place with
      | none => .error .notFound
      | some (.file _) => .error .notDirectory
      | some .directory =>
          if part = "" || part = "." then followBelow tree left place parts
          else if part = ".." then
            if place.isEmpty then left parts else followBelow tree left place.dropLast parts
          else followBelow tree left (place ++ [part]) parts

def State.find (s : State) (raw : String) : Except SystemError Found :=
  let path := Text.ofRaw raw
  let parts := Path.parts path
  if path.isEmpty then .error .notFound
  else if longestPath < raw.length ||
      (Path.parts raw).any fun part => longestName < part.length then .error .nameTooLong
  else
    let tree := s.world.tree
    let absolute := if tree.isAt path then path else s.absolute path
    let left (parts : List String) : Except SystemError Found :=
      if (settled parts).isEmpty then .ok (.directory ["", tree.mount, ".."]) else .error .notFound
    if tree.isAt absolute then
      followBelow tree left [] (Path.parts (absolute.drop (tree.mount.length + 1)).toString)
    else if Path.isAbsolute absolute then
      match s.outside (Path.parts absolute) with
      | .ok (.file place) =>
          if parts.getLast? = some "" then .error .notDirectory else .ok (.file place)
      | found => found
    else followBelow tree left tree.start parts

inductive Access where
  | read
  /-- Makes the file empty. -/
  | write
  /-- Makes a new file only. -/
  | fresh
  | append
  | both
deriving DecidableEq, Repr, Inhabited

namespace Access

def reads (access : Access) : Bool := access == .read || access == .both

def writes (access : Access) : Bool := access != .read

end Access

def State.newPlace (s : State) (raw : String) : Except SystemError (List String) :=
  let parts := Path.parts raw
  let name := parts.getLast?.getD ""
  let above := raw.length - name.length
  match if above = 0 then s.find "." else s.find (raw.take above).toString with
  | .ok (.directory place) => if name.isEmpty then .error .isDirectory else .ok (place ++ [Text.ofRaw name])
  | .ok _ => .error .notDirectory
  | .error e => .error e

def State.openPath (s : State) (raw : String) (access : Access) :
    Except SystemError (Channel × State) :=
  let opened (s : State) (place : List String) : Except SystemError (Channel × State) :=
    let (id, world) := s.world.newFile
      ⟨place, 0, access.reads, access.writes, access == .append⟩
    .ok (.file id, { s with world := world })
  let emptied (place : List String) : State :=
    { s with world := { s.world with tree := s.world.tree.set place (.file []) } }
  match s.find raw with
  | .ok (.file place) =>
      match access with
      | .fresh => .error .exists
      | .write => opened (emptied place) place
      | _ => opened s place
  | .ok (.directory _) =>
      if access.writes then .error (if access == .fresh then .exists else .isDirectory)
      else .ok (.directory, s)
  | .ok (.device channel) => .ok (channel, s)
  | .ok .program => if access.writes then .error .denied else .ok (.nowhere, s)
  | .error .notFound =>
      if !access.writes || raw.isEmpty then .error .notFound
      else match s.newPlace raw with
        | .ok place => opened (emptied place) place
        | .error e => .error e
  | .error e => .error e

def State.namesIn (s : State) (place : List String) : List String :=
  let tree := s.world.tree
  if place.head? = some "" && place.length = 1 then
    usualDirectories.filter fun path => !path.contains '/'
  else
    tree.nodes.filterMap fun (other, _) =>
      if !other.isEmpty && other.dropLast = place then other.getLast? else none

end Signpost.Program
