import Signpost.Host

/-! What may be assumed of a host.

Statements about whole runs fix what the host answers in the meantime, and leave everything else
about it open. -/

namespace Signpost

/-- The second session is the first one in non-blocking mode. -/
def Session.Twin (s s' : Session) : Prop :=
  s.mode = .blocking ∧ s' = { s with mode := .nonBlocking }

namespace Host

variable {World : Type} (host : Host World)

/-- Whoever makes the request, the replies come in an order that the world has fixed beforehand.
Showing something does not change it. -/
structure Replies (request : Request) (upcoming : World → Nat → Except String Reply) : Prop where
  first : ∀ session world, (host.invoke request session world).1.reply = upcoming world 0
  next : ∀ session world i,
    upcoming (host.invoke request session world).2 i = upcoming world (i + 1)
  shown : ∀ payload world i, upcoming (host.display payload world).2 i = upcoming world i

/-- The user types these lines, and only the prompt reads them. -/
structure Reads (input : World → List String) : Prop where
  read : ∀ message world, (host.prompt message world).1 = (input world).head?
  left : ∀ message world, input (host.prompt message world).2 = (input world).tail
  render : ∀ view world, input (host.render view world).2 = input world
  display : ∀ payload world, input (host.display payload world).2 = input world
  functions : ∀ request session world, request.collaborator = .functions →
    input (host.invoke request session world).2 = input world

/-- Only so many lines can still be read. Each line that is read is used up, and no request brings in
another one. -/
structure Spends (lines : World → Nat) : Prop where
  load : ∀ path world, lines (host.load path world).2 ≤ lines world
  check : ∀ predicate identity world, lines (host.check predicate identity world).2 ≤ lines world
  render : ∀ view world, lines (host.render view world).2 ≤ lines world
  display : ∀ payload world, lines (host.display payload world).2 ≤ lines world
  invoke : ∀ request session world, lines (host.invoke request session world).2 ≤ lines world
  prompt : ∀ message world, lines (host.prompt message world).2 ≤ lines world
  read : ∀ message world line, (host.prompt message world).1 = some line →
    lines (host.prompt message world).2 < lines world

/-- Drawing, showing and prompting do not change that the world is of this kind. -/
structure Talks (kind : World → Prop) : Prop where
  render : ∀ view world, kind world → kind (host.render view world).2
  display : ∀ payload world, kind world → kind (host.display payload world).2
  prompt : ∀ message world, kind world → kind (host.prompt message world).2

/-- Twin sessions get the same replies in worlds that are alike, and the worlds stay alike. What is
said to the user of the first session does not matter. -/
structure Alike (alike : World → World → Prop) : Prop where
  load : ∀ path world world', alike world world' →
    alike (host.load path world).2 (host.load path world').2
  reply : ∀ request s s' world world', alike world world' → s.Twin s' →
    (host.invoke request s world).1.reply = (host.invoke request s' world').1.reply
  invoke : ∀ request s s' world world', alike world world' → s.Twin s' →
    alike (host.invoke request s world).2 (host.invoke request s' world').2
  talks : ∀ world', host.Talks fun world => alike world world'

end Host

end Signpost
