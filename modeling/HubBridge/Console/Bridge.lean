import HubBridge.Console.Order
import HubBridge.Session.Calls

/-!
# The bridge at the console

A session with one observer, whose events are printed as they come, and the orders of one person.
Each operation gives the lines to print.
-/

namespace HubBridge.Console

structure Bridge where
  session : Session
  observer : ObserverId

namespace Bridge

/-- The bridge before its first order. -/
def start (timing : Timing) : Bridge :=
  let (session, observer) := (Session.start timing).connect
  ⟨session, observer⟩

variable {m : Type → Type} [Monad m]

/-- The line that the result of a call is worth. Only a door's information is printed; the others
show in the events. -/
def resultLine? : CallResult → Option String
  | .info (some info) => some info.toLine
  | _ => none

/-- What there is to print: the events since the last time, and what calls have found out. -/
def flush (b : Bridge) : Bridge × List String :=
  let events := (b.session.stream b.observer).map Event.toLine
  let results := b.session.results.filterMap fun (_, result) => resultLine? result
  ({ b with session := (b.session.drain b.observer).forget }, events ++ results)

def step (send : Link m) (b : Bridge) (input : Session.Input) : m (Bridge × List String) := do
  let (session, _) ← b.session.step send input
  pure { b with session }.flush

/-- The doors that were reported on, a line for each. -/
def doorLines (b : Bridge) (now : Int) : List String :=
  b.session.doors.doors.map fun door => door.toLine (b.session.isOnline door.moduleId now)

/-- Carries out an order; nothing comes back if it was to quit. -/
def obey (send : Link m) (b : Bridge) (now : Int) : Order → m (Option (Bridge × List String))
  | .status moduleId => do pure (some (← b.step send (.submit b.observer (.status moduleId))))
  | .send request => do pure (some (← b.step send (.submit b.observer request)))
  | .lock moduleId => do pure (some (← b.step send (.call (.actuate moduleId true))))
  | .unlock moduleId => do pure (some (← b.step send (.call (.actuate moduleId false))))
  | .info moduleId => do pure (some (← b.step send (.call (.info moduleId))))
  | .raw text => do pure (some (← b.step send (.raw text)))
  | .doors => pure (some (b, b.doorLines now))
  | .help => pure (some (b, helpLines))
  | .quit => pure none

/-- One line at the console. A line that is no order changes nothing. -/
def line (send : Link m) (b : Bridge) (now : Int) (text : String) :
    m (Option (Bridge × List String)) :=
  match Order.ofLine text with
  | some (.ok order) => b.obey send now order
  | some (.error _) | none => pure (some (b, []))

end Bridge

end HubBridge.Console
