import HubBridge.Sink
import Std.Data.TreeMap

/-!
# Commands that wait for a reply

Each tracked command has one entry under its id and one alarm. Whatever ends the entry first, a
reply, a failed send, an expiry or the alarm, takes it out and makes the one call on its requester.
-/

namespace HubBridge

/-- A command that waits for its reply. -/
structure PendingCommand (κ : Type) where
  command : Command
  requester : κ
  deadline : Nat
  alarm : Nat

/-- Rings once at its time for an id, whichever entry then holds the id. -/
structure Alarm where
  serial : Nat
  id : CorrelationId
  due : Nat
  deriving DecidableEq, Repr

/-- Alarms are ordered by their time, and those of one time by their age. -/
def Alarm.before (a b : Alarm) : Bool := a.due < b.due || (a.due == b.due && a.serial ≤ b.serial)

/-- What is told to the requester of an entry that ends. -/
structure Delivery (κ : Type) where
  requester : κ
  event : Event

def timeoutText : String := "No FEEDBACK from hub"

structure Pending (κ : Type) where
  entries : Std.TreeMap CorrelationId (PendingCommand κ)
  /-- The alarms that are set, oldest first. -/
  alarms : List Alarm
  nextSerial : Nat

namespace Pending

variable {κ : Type}

def empty : Pending κ := ⟨∅, [], 0⟩

def get? (p : Pending κ) (id : CorrelationId) : Option (PendingCommand κ) := p.entries[id]?

def contains (p : Pending κ) (id : CorrelationId) : Bool := (p.get? id).isSome

def ids (p : Pending κ) : List CorrelationId := p.entries.keys

@[simp]
theorem get?_empty (id : CorrelationId) : (empty : Pending κ).get? id = none := by
  simp [empty, get?]

def size (p : Pending κ) : Nat := p.ids.length

/-- Enters a command at time `now` and sets its alarm. An id that waits already is refused. -/
def register (p : Pending κ) (now timeout : Nat) (command : Command) (requester : κ) :
    Except Failure (Pending κ) :=
  if p.contains command.id then .error (.duplicateId command.id)
  else
    let deadline := now + timeout
    .ok
      { entries := p.entries.insert command.id ⟨command, requester, deadline, p.nextSerial⟩
        alarms := p.alarms ++ [⟨p.nextSerial, command.id, deadline⟩]
        nextSerial := p.nextSerial + 1 }

/-- The table without an entry, whose alarm stays set. -/
def drop (p : Pending κ) (id : CorrelationId) : Pending κ :=
  { p with entries := p.entries.erase id }

def cancel (p : Pending κ) (serial : Nat) : Pending κ :=
  { p with alarms := p.alarms.filter (·.serial ≠ serial) }

@[simp]
theorem get?_drop_self (p : Pending κ) (id : CorrelationId) : (p.drop id).get? id = none := by
  simp [drop, get?]

theorem get?_drop_of_ne (p : Pending κ) {id other : CorrelationId} (h : id ≠ other) :
    (p.drop id).get? other = p.get? other := by
  simp [drop, get?, Std.TreeMap.getElem?_erase, h]

@[simp]
theorem get?_cancel (p : Pending κ) (serial : Nat) (id : CorrelationId) :
    (p.cancel serial).get? id = p.get? id := rfl

/-- Ends the entry of an id with this event and cancels its alarm. -/
def resolve (p : Pending κ) (id : CorrelationId) (e : Event) : Pending κ × Option (Delivery κ) :=
  match p.get? id with
  | none => (p, none)
  | some entry => ((p.drop id).cancel entry.alarm, some ⟨entry.requester, e⟩)

/-- Ends the entry of an id with a timeout. The alarm stays set, and when it rings it does so for
whatever holds the id by then. -/
def expire (p : Pending κ) (id : CorrelationId) : Pending κ × Option (Delivery κ) :=
  match p.get? id with
  | none => (p, none)
  | some entry =>
    (p.drop id,
      some ⟨entry.requester, .commandError entry.command.moduleId id .timeout timeoutText⟩)

/-- Ends the entry of an id whose datagram was not sent. -/
def fail (p : Pending κ) (id : CorrelationId) (cause : String) : Pending κ × Option (Delivery κ) :=
  match p.get? id with
  | none => (p, none)
  | some entry =>
    ((p.drop id).cancel entry.alarm,
      some ⟨entry.requester, .commandError entry.command.moduleId id .transport cause⟩)

def ring (p : Pending κ) (a : Alarm) : Pending κ × Option (Delivery κ) :=
  (p.cancel a.serial).expire a.id

def nextAlarm? (p : Pending κ) : Option Alarm :=
  p.alarms.foldl (fun best a => match best with
    | none => some a
    | some b => if b.before a then some b else some a) none

/-- The alarms that ring up to a time, in their order. -/
def dueAlarms (p : Pending κ) (time : Nat) : List Alarm :=
  (p.alarms.filter (·.due ≤ time)).mergeSort Alarm.before

/-- All that is due up to a time happens, in the order of time. -/
def advance (p : Pending κ) (time : Nat) : Pending κ × List (Delivery κ) :=
  (p.dueAlarms time).foldl (fun (p, deliveries) a =>
    let (p, delivery) := p.ring a
    (p, deliveries ++ delivery.toList)) (p, [])

def isRequester [DecidableEq κ] (p : Pending κ) (key : κ) : Bool :=
  p.entries.values.any (·.requester = key)

end Pending

/-- Makes the call on a requester; whether its sink takes the event does not matter. -/
def Sinks.perform {κ : Type} [DecidableEq κ] (s : Sinks κ) (d : Delivery κ) : Sinks κ :=
  (s.deliver d.requester d.event).1

end HubBridge
