import HubBridge.Event
import HubBridge.Failure

/-!
# Where events go

A sink takes events for one receiver: the stream of an observer, the one-shot slot of a caller that
waits for a reply, or an end that is out of order. `Sinks` keeps them by key, so that several parts
of the bridge can share one.
-/

namespace HubBridge

inductive SinkFault
  | disconnected
  | alreadyDelivered
  | unexpected (event : String)
  deriving DecidableEq, Repr

namespace SinkFault

def message : SinkFault → String
  | disconnected => "Observer disconnected"
  | alreadyDelivered => "Reply already delivered"
  | unexpected event => "Unexpected " ++ event ++ " event for reply sink"

end SinkFault

instance decidableEqExcept {ε α : Type} [DecidableEq ε] [DecidableEq α] :
    DecidableEq (Except ε α)
  | .error a, .error b => decidable_of_iff (a = b) ⟨congrArg Except.error, Except.error.inj⟩
  | .ok a, .ok b => decidable_of_iff (a = b) ⟨congrArg Except.ok, Except.ok.inj⟩
  | .error _, .ok _ | .ok _, .error _ => isFalse nofun

/-- How a command ended, as its caller learns it. -/
abbrev Outcome := Except Failure Reply

/-- The outcome that an event tells, if it ends a command. -/
def Event.outcome? : Event → Option Outcome
  | .commandFeedback m id target status rawAction _ => some (.ok ⟨m, id, target, status, rawAction⟩)
  | .commandError m id .timeout _ => some (.error (.timeout m id))
  | .commandError m id .transport error => some (.error (.sendFailed m id error))
  | _ => none

/-- What became of the one outcome that a reply sink can take. -/
inductive Slot
  | waiting
  | answered (outcome : Outcome)
  /-- It came when nobody was there to take it. -/
  | lost

/-- Takes events for one receiver, which may have gone away. -/
inductive Sink
  | channel (connected : Bool) (inbox : List Event)
  | reply (connected : Bool) (slot : Slot)
  | broken

namespace Sink

def stream : Sink := channel true []

def oneShot : Sink := reply true .waiting

/-- Hands an event to the sink. A slot refuses what is no outcome before it looks at anything else,
and is used up by the first outcome even if its receiver has gone. -/
def deliver (sink : Sink) (e : Event) : Sink × Except SinkFault Unit :=
  match sink with
  | channel true inbox => (channel true (inbox ++ [e]), .ok ())
  | channel false inbox => (channel false inbox, .error .disconnected)
  | reply connected slot =>
    match e.outcome?, slot with
    | none, _ => (reply connected slot, .error (.unexpected e.name))
    | some outcome, .waiting =>
      if connected then (reply true (.answered outcome), .ok ())
      else (reply false .lost, .error .disconnected)
    | some _, _ => (reply connected slot, .error .alreadyDelivered)
  | broken => (broken, .error .disconnected)

def disconnect : Sink → Sink
  | channel _ inbox => channel false inbox
  | reply _ slot => reply false slot
  | broken => broken

def inbox : Sink → List Event
  | channel _ events => events
  | _ => []

/-- The stream after its receiver took what it held. -/
def drained : Sink → Sink
  | channel connected _ => channel connected []
  | sink => sink

def outcome? : Sink → Option Outcome
  | reply _ (.answered outcome) => some outcome
  | _ => none

end Sink

structure Sinks (κ : Type) where
  entries : List (κ × Sink)

namespace Sinks

variable {κ : Type} [DecidableEq κ]

def empty : Sinks κ := ⟨[]⟩

def get? (s : Sinks κ) (key : κ) : Option Sink :=
  (s.entries.find? (·.1 = key)).map (·.2)

/-- Puts a sink under a key, in place of the one that was there. -/
def insert (s : Sinks κ) (key : κ) (sink : Sink) : Sinks κ :=
  if s.entries.any (·.1 = key) then
    ⟨s.entries.map fun entry => if entry.1 = key then (key, sink) else entry⟩
  else ⟨s.entries ++ [(key, sink)]⟩

def erase (s : Sinks κ) (key : κ) : Sinks κ := ⟨s.entries.filter (·.1 ≠ key)⟩

def modify (s : Sinks κ) (key : κ) (f : Sink → Sink) : Sinks κ :=
  ⟨s.entries.map fun entry => if entry.1 = key then (key, f entry.2) else entry⟩

@[simp]
theorem get?_empty (key : κ) : (empty : Sinks κ).get? key = none := rfl

@[simp]
theorem get?_insert_self (s : Sinks κ) (key : κ) (sink : Sink) :
    (s.insert key sink).get? key = some sink := by
  obtain ⟨entries⟩ := s
  by_cases h : entries.any (·.1 = key)
  · simp only [insert, get?, h, if_true]
    induction entries with
    | nil => simp at h
    | cons entry rest ih =>
      by_cases hk : entry.1 = key
      · simp [hk]
      · have : rest.any (·.1 = key) = true := by simpa [hk] using h
        simpa [hk] using ih this
  · have hn : entries.find? (·.1 = key) = none := by
      rw [List.find?_eq_none]
      exact fun entry hm hk => h (List.any_eq_true.2 ⟨entry, hm, hk⟩)
    simp [insert, get?, h, List.find?_append, hn]

theorem get?_insert_of_ne (s : Sinks κ) {key other : κ} (h : key ≠ other) (sink : Sink) :
    (s.insert key sink).get? other = s.get? other := by
  obtain ⟨entries⟩ := s
  by_cases ha : entries.any (·.1 = key)
  · simp only [insert, get?, ha, if_true]
    clear ha
    induction entries with
    | nil => rfl
    | cons entry rest ih =>
      by_cases hk : entry.1 = key
      · simpa [hk, h] using ih
      · by_cases ho : entry.1 = other
        · simp [ho, Ne.symm h]
        · simpa [hk, ho, List.find?_cons] using ih
  · simp [insert, get?, ha, List.find?_append, h]

@[simp]
theorem get?_erase_self (s : Sinks κ) (key : κ) : (s.erase key).get? key = none := by
  simp [erase, get?, List.find?_eq_none]

theorem get?_erase_of_ne (s : Sinks κ) {key other : κ} (h : key ≠ other) :
    (s.erase key).get? other = s.get? other := by
  obtain ⟨entries⟩ := s
  simp only [erase, get?]
  induction entries with
  | nil => rfl
  | cons entry rest ih =>
    by_cases hk : entry.1 = key
    · have : entry.1 ≠ other := fun e => h (hk.symm.trans e)
      simpa [List.filter_cons, hk, h] using ih
    · by_cases ho : entry.1 = other <;> simp_all

/-- Hands an event to the sink of a key; a sink that is gone is one whose receiver is gone. -/
def deliver (s : Sinks κ) (key : κ) (e : Event) : Sinks κ × Except SinkFault Unit :=
  match s.get? key with
  | none => (s, .error .disconnected)
  | some sink =>
    let (sink, answer) := sink.deliver e
    (s.insert key sink, answer)

end Sinks

end HubBridge
