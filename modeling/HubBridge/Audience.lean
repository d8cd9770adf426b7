import HubBridge.Sink

/-!
# The observers

Every event that is published goes to each observer there is, in the order of their numbers. One whose
sink fails does not keep it from the others.
-/

namespace HubBridge

/-- The number of an observer. They are counted from 1 on, in 64 bits. -/
structure ObserverId where
  number : UInt64
  deriving DecidableEq, Repr

def ObserverId.toText (id : ObserverId) : String := "observer-" ++ toString id.number.toNat

structure Audience (κ : Type) where
  /-- The number that was given out last. -/
  joined : UInt64
  /-- In the order of their numbers. -/
  members : List (ObserverId × κ)

namespace Audience

variable {κ : Type}

def empty : Audience κ := ⟨0, []⟩

def nextId (a : Audience κ) : ObserverId := ⟨a.joined + 1⟩

/-- The members with one more in its place, which is that of a member of the same number if there is
one. -/
def seat (id : ObserverId) (key : κ) : List (ObserverId × κ) → List (ObserverId × κ)
  | [] => [(id, key)]
  | member :: members =>
    if member.1.number < id.number then member :: seat id key members
    else if member.1 = id then (id, key) :: members
    else (id, key) :: member :: members

def add (a : Audience κ) (key : κ) : Audience κ × ObserverId :=
  (⟨a.joined + 1, seat a.nextId key a.members⟩, a.nextId)

def contains (a : Audience κ) (id : ObserverId) : Bool := a.members.any (·.1 = id)

/-- An observer leaves; the answer is whether it was there. -/
def remove (a : Audience κ) (id : ObserverId) : Audience κ × Bool :=
  ({ a with members := a.members.filter (·.1 ≠ id) }, a.contains id)

def size (a : Audience κ) : Nat := a.members.length

/-- Hands an event to every observer; the answer is how many took it. -/
def publish [DecidableEq κ] (a : Audience κ) (sinks : Sinks κ) (e : Event) : Sinks κ × Nat :=
  a.members.foldl (fun (sinks, taken) (_, key) =>
    match sinks.deliver key e with
    | (sinks, .ok ()) => (sinks, taken + 1)
    | (sinks, .error _) => (sinks, taken)) (sinks, 0)

end Audience

end HubBridge
