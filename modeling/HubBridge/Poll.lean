import HubBridge.Failure
import HubBridge.Status

/-!
# Polling until a lock has moved

A module that acknowledges a `LOCK` has not moved its lock yet. The poll asks for its status again
and again until the door's record shows the lock where it should be, or until the attempts are used
up, which is an outcome like the other and no failure.
-/

namespace HubBridge

/-- How often a poll asks and how long it waits for each answer, in milliseconds. -/
structure PollSettings where
  interval : Nat
  maxAttempts : UInt32
  deriving DecidableEq, Repr

/-- The longest time that a timer can be set to: thirty years of 365 days. The limit is that of the
timers which a poll waits with; the poll itself has none. -/
def PollSettings.longestWait : Nat := 30 * 365 * 24 * 60 * 60 * 1000

/-- How long a poll waits for an answer: the interval, which the timer cuts off at its own limit. -/
def PollSettings.wait (settings : PollSettings) : Nat :=
  min settings.interval PollSettings.longestWait

/-- Twenty attempts, one every half second. -/
def PollSettings.default : PollSettings := ⟨500, 20⟩

inductive PollEnd
  | converged
  | exhausted
  deriving DecidableEq, Repr

def PollEnd.name : PollEnd → String
  | converged => "CONVERGED"
  | exhausted => "EXHAUSTED"

structure Convergence where
  moduleId : ModuleId
  expected : Status
  state : PollEnd
  /-- The queries that were issued. -/
  attempts : Nat
  deriving DecidableEq, Repr

def Convergence.converged (c : Convergence) : Bool := c.state == .converged

/-- A poll that goes on. -/
structure Poll where
  moduleId : ModuleId
  expected : Status
  /-- The lock position that is waited for. -/
  want : Bool
  attempts : Nat
  deriving DecidableEq, Repr

namespace Poll

def queried (p : Poll) : Poll := { p with attempts := p.attempts + 1 }

def outcome (p : Poll) (state : PollEnd) : Convergence :=
  ⟨p.moduleId, p.expected, state, p.attempts⟩

/-- Looks at the lock after a wait: the outcome, unless the poll goes on. The lock counts before the
attempts do. -/
def check (p : Poll) (limit : UInt32) (lockState : Option Bool) : Option Convergence :=
  if lockState = some p.want then some (p.outcome .converged)
  else if limit.toNat ≤ p.attempts then some (p.outcome .exhausted)
  else none

structure Probe (m : Type → Type) where
  /-- Issues one status query. Its answer comes by way of the door's record. -/
  query : ModuleId → m (Except Failure Unit)
  lockState : ModuleId → m (Option Bool)
  sleep : Nat → m Unit

variable {m : Type → Type} [Monad m]

/-- Goes on with a poll that has so many attempts left. A query that fails is an attempt as well. -/
def runFrom (probe : Probe m) (settings : PollSettings) : Nat → Poll → m Convergence
  | 0, p => pure (p.outcome .exhausted)
  | left + 1, p => do
    let _ ← probe.query p.moduleId
    let p := p.queried
    probe.sleep settings.wait
    match p.check settings.maxAttempts (← probe.lockState p.moduleId) with
    | some outcome => pure outcome
    | none => runFrom probe settings left p

/-- Polls a module until its lock is where `expected` has it. A status without a lock position ends
the poll before it begins; every other poll asks at least once. -/
def run (probe : Probe m) (settings : PollSettings) (moduleId : ModuleId) (expected : Status) :
    m Convergence :=
  match expected.lockState with
  | none => pure ⟨moduleId, expected, .exhausted, 0⟩
  | some want =>
    runFrom probe settings (max 1 settings.maxAttempts.toNat) ⟨moduleId, expected, want, 0⟩

/-! ### Scripted probes -/

inductive ProbeStep
  | query (moduleId : ModuleId) (time : Nat)
  | check (moduleId : ModuleId) (time : Nat) (lockState : Option Bool)
  deriving DecidableEq, Repr

/-- The state of a scripted probe: its clock, the queries so far, and all steps in order. -/
structure Rehearsal where
  clock : Nat
  queries : Nat
  steps : List ProbeStep
  deriving DecidableEq, Repr

def Rehearsal.initial : Rehearsal := ⟨0, 0, []⟩

/-- A probe on a clock of its own: after the `n`-th query the lock reads `readings n`, and that
query fails if `failures n` has a failure. -/
def scripted (readings : Nat → Option Bool) (failures : Nat → Option Failure) :
    Probe (StateM Rehearsal) where
  query moduleId := modifyGet fun r =>
    ((match failures (r.queries + 1) with
      | some failure => .error failure
      | none => .ok ()),
      { r with queries := r.queries + 1, steps := r.steps ++ [.query moduleId r.clock] })
  lockState moduleId := modifyGet fun r =>
    let reading := readings r.queries
    (reading, { r with steps := r.steps ++ [.check moduleId r.clock reading] })
  sleep ms := modify fun r => { r with clock := r.clock + ms }

end Poll

end HubBridge
