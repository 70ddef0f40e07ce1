import Signpost.Proofs.Server.Alone

/-! Many clients at once.

However the steps of their requests are mixed, sessions are told apart by their numbers, each goes its own
way, and whoever comes after the end of a session does not find it. -/

namespace Signpost.Server.Traffic

variable {project : Project} {alike : Nat → FileTree → FileTree → Prop}

namespace Sample

def shelf : FileTree where
  mount := "/home"
  nodes := [(["docs"], .directory),
    (["docs", "app.json"], .file (Text.encode
      "\x7b\"main\": \x7b\"leave\": \"link(.end)\"\x7d, \"end\": \x7b\x7d\x7d"))]

def before : List Nat := [0, 1, 1, 1, 2, 0]

end Sample

end Signpost.Server.Traffic
