import HubBridge.Identifier

/-!
# Statuses and doors

A status is what one report says about a door; a `Door` is what is known of it after the reports so
far.
-/

namespace HubBridge

inductive Status
  | locked
  | unlocked
  | opened
  | unknown
  deriving DecidableEq, Repr

namespace Status

def name : Status → String
  | locked => "LOCKED"
  | unlocked => "UNLOCKED"
  | opened => "OPEN"
  | unknown => "UNKNOWN"

def all : List Status := [locked, unlocked, opened, unknown]

def ofName? (s : String) : Option Status := all.find? (·.name == s)

/-- Whether the lock is engaged, where the status tells. -/
def lockState : Status → Option Bool
  | locked => some true
  | unlocked => some false
  | opened | unknown => none

def isKnown : Status → Bool
  | unknown => false
  | _ => true

end Status

/-- What is known of one door: whether it stands open and whether its lock is engaged. -/
structure Door where
  moduleId : ModuleId
  isOpen : Option Bool
  isLocked : Option Bool
  deriving DecidableEq, Repr

namespace Door

def unseen (moduleId : ModuleId) : Door := ⟨moduleId, none, none⟩

/-- The door after one more report. A reported lock position implies a closed door, an open door
says nothing of its lock, and an unknown status takes back all that was known. -/
def apply (d : Door) : Status → Door
  | .locked => { d with isLocked := some true, isOpen := some false }
  | .unlocked => { d with isLocked := some false, isOpen := some false }
  | .opened => { d with isOpen := some true }
  | .unknown => { d with isLocked := none, isOpen := none }

end Door

end HubBridge
