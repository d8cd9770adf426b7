import HubBridge.Session.Basic

/-!
# A link that keeps record

The far end of a link, as a rehearsal of it sees the world: which datagrams reached it, and which
were lost on the way by a script.
-/

namespace HubBridge

/-- What was offered to a link and what reached its far end. -/
structure Wire where
  /-- How many datagrams were offered. -/
  offered : Nat
  /-- The datagrams that reached the far end, oldest first. -/
  arrived : List ByteArray

namespace Wire

def idle : Wire := ⟨0, []⟩

/-- A link on which the `n`-th datagram, counted from 1, fails if `faults n` has a cause. -/
def link (faults : Nat → Option String) : Link (StateM Wire) := fun datagram =>
  modifyGet fun w =>
    match faults (w.offered + 1) with
    | none => (none, ⟨w.offered + 1, w.arrived ++ [datagram]⟩)
    | some cause => (some cause, { w with offered := w.offered + 1 })

end Wire

end HubBridge
