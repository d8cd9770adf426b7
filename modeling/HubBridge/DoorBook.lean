import HubBridge.Status
import Std.Data.TreeMap

/-!
# What is known of all modules

`DoorBook` holds the record of each door that was ever reported on, `Liveness` when each module was
last heard of.
-/

namespace HubBridge

structure DoorBook where
  records : Std.TreeMap ModuleId Door

namespace DoorBook

def empty : DoorBook := ⟨∅⟩

/-- The record of a module's door; one that was never reported on is all unknown. -/
def door (b : DoorBook) (m : ModuleId) : Door := b.records.getD m (.unseen m)

def apply (b : DoorBook) (m : ModuleId) (status : Status) : DoorBook :=
  ⟨b.records.insert m ((b.door m).apply status)⟩

/-- The doors that were reported on, in the order of their modules. -/
def doors (b : DoorBook) : List Door := b.records.values

@[simp]
theorem door_empty (m : ModuleId) : empty.door m = .unseen m := by
  simp [empty, door]

@[simp]
theorem door_apply_self (b : DoorBook) (m : ModuleId) (status : Status) :
    (b.apply m status).door m = (b.door m).apply status := by
  simp [apply, door]

theorem door_apply_of_ne (b : DoorBook) {m other : ModuleId} (h : m ≠ other) (status : Status) :
    (b.apply m status).door other = b.door other := by
  simp [apply, door, Std.TreeMap.getD_insert, h]

end DoorBook

/-- When each module gave its last sign of life, in milliseconds of the wall clock. -/
structure Liveness where
  lastSeen : Std.TreeMap ModuleId Int

namespace Liveness

def empty : Liveness := ⟨∅⟩

/-- A sign of life; the last one counts, even if its time lies before that of another. -/
def mark (l : Liveness) (m : ModuleId) (time : Int) : Liveness := ⟨l.lastSeen.insert m time⟩

def lastSeen? (l : Liveness) (m : ModuleId) : Option Int := l.lastSeen[m]?

@[simp]
theorem lastSeen?_empty (m : ModuleId) : empty.lastSeen? m = none := by
  simp [empty, lastSeen?]

theorem lastSeen?_mark (l : Liveness) (m other : ModuleId) (time : Int) :
    (l.mark m time).lastSeen? other = if m = other then some time else l.lastSeen? other := by
  simp [mark, lastSeen?, Std.TreeMap.getElem?_insert]

/-- The longest window that is measured, in milliseconds. -/
def longestWindow : Nat := 9223372036854775807

/-- The window in which a module counts as online, in milliseconds. -/
def onlineWindow : Nat := 10000

/-- Whether the module was heard of at most `window` before `now`. A longer window than can be
measured holds every module that was ever heard of. -/
def isOnline (l : Liveness) (m : ModuleId) (window : Nat) (now : Int) : Bool :=
  match l.lastSeen? m with
  | none => false
  | some time => longestWindow < window || now - time ≤ window

end Liveness

end HubBridge
