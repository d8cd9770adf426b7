import HubBridge.Audience
import HubBridge.DoorBook
import HubBridge.Pending
import HubBridge.Settings

/-!
# The state of a session

A session is the one link between the hub and the observers: the ids it gives out, the commands that
wait for a reply, the observers, what is known of the doors, and the calls that are under way. All
sending goes through a `Link`, of which nothing is known but whether it took a datagram.
-/

namespace HubBridge

/-- Sends one datagram to the hub; the answer is the cause if that failed. -/
abbrev Link (m : Type → Type) := ByteArray → m (Option String)

inductive Party
  | observer (id : ObserverId)
  | call (number : Nat)
  deriving DecidableEq, Repr

structure Actuation where
  reply : Reply
  /-- Present if the module only acknowledged the command, so that its lock was polled. -/
  convergence : Option Convergence
  deriving DecidableEq, Repr

inductive Purpose
  | command (request : Request)
  | actuate (moduleId : ModuleId) (lock : Bool)
  | info (moduleId : ModuleId)
  deriving DecidableEq, Repr

/-- The request that a call begins with. -/
def Purpose.request : Purpose → Request
  | command request => request
  | actuate m true => ⟨m, .default, lockAction⟩
  | actuate m false => ⟨m, .default, unlockAction⟩
  | info m => .status m

inductive CallResult
  | reply (outcome : Outcome)
  | actuation (outcome : Except Failure Actuation)
  | info (info : Option DoorSnapshot)
  deriving DecidableEq

/-- The result of a call that needs no polling. A door's information is just absent if the query
failed. -/
def Purpose.result (purpose : Purpose) (outcome : Outcome) : CallResult :=
  match purpose with
  | command _ => .reply outcome
  | actuate .. => .actuation (outcome.map fun reply => ⟨reply, none⟩)
  | info _ => .info (outcome.toOption.map DoorSnapshot.ofReply)

/-- How far a call has come. -/
inductive CallStage
  | awaiting
  | polling (reply : Reply) (poll : Poll) (wake : Nat)
  | finished (result : CallResult)
  deriving DecidableEq

/-- A call that waits for the hub, or its result. -/
structure Call where
  number : Nat
  purpose : Purpose
  stage : CallStage
  deriving DecidableEq

/-- How often a call can still wake, if a poll has so many attempts. -/
def Call.chances (maxAttempts : UInt32) (call : Call) : Nat :=
  match call.stage with
  | .polling _ poll _ => maxAttempts.toNat - poll.attempts + 1
  | .awaiting => maxAttempts.toNat + 2
  | .finished _ => 0

structure Session where
  timing : Timing
  /-- Milliseconds since the session began. -/
  clock : Nat
  nextId : CorrelationId
  pending : Pending Party
  audience : Audience Party
  sinks : Sinks Party
  doors : DoorBook
  liveness : Liveness
  calls : List Call
  /-- How many calls there have been. -/
  called : Nat
  /-- Whether datagrams are still read. -/
  listening : Bool

namespace Session

def start (timing : Timing) : Session :=
  { timing, clock := 0, nextId := .first, pending := .empty, audience := .empty, sinks := .empty
    doors := .empty, liveness := .empty, calls := [], called := 0, listening := true }

/-! ### Observers -/

/-- A new observer, with a stream of its own. -/
def connect (s : Session) : Session × ObserverId :=
  let id := s.audience.nextId
  ({ s with
      audience := (s.audience.add (.observer id)).1
      sinks := s.sinks.insert (.observer id) .stream }, id)

/-- An observer leaves and its stream with it. Its commands go on, but nobody hears how they end. -/
def disconnect (s : Session) (id : ObserverId) : Session :=
  { s with audience := (s.audience.remove id).1, sinks := s.sinks.erase (.observer id) }

/-- What an observer has been told and has not yet taken. -/
def stream (s : Session) (id : ObserverId) : List Event :=
  ((s.sinks.get? (.observer id)).map Sink.inbox).getD []

def drain (s : Session) (id : ObserverId) : Session :=
  { s with sinks := s.sinks.modify (.observer id) Sink.drained }

def tell (s : Session) (delivery : Option (Delivery Party)) : Session :=
  match delivery with
  | none => s
  | some d => { s with sinks := s.sinks.perform d }

def publish (s : Session) (e : Event) : Session :=
  { s with sinks := (s.audience.publish s.sinks e).1 }

/-! ### Datagrams -/

/-- One message of the hub, heard at wall-clock time `time`. A reply ends its command, if that still
waits, and is published either way. -/
def handle (s : Session) (time : Int) : Message → Session
  | .feedback m id target rawAction raw =>
    let reading := Reading.ofAction rawAction
    let s := if reading.updatesDoor then { s with doors := s.doors.apply m reading.status } else s
    let feedback := Event.commandFeedback m id target reading.status rawAction raw
    let (pending, delivery) := s.pending.resolve id feedback
    let s := { s with pending }.tell delivery
    (s.publish (.doorFeedback m target reading.status rawAction)).publish feedback
  | .event m target rawEvent raw =>
    let reading := Reading.ofEvent rawEvent
    let s := if reading.updatesDoor then { s with doors := s.doors.apply m reading.status } else s
    s.publish (.hubEvent m target rawEvent reading.status raw)
  | .heartbeat m raw =>
    { s with liveness := s.liveness.mark m time }.publish (.hubHeartbeat m raw)
  | .hello m raw => { s with liveness := s.liveness.mark m time }.publish (.hubHello m raw)
  | .raw raw => s.publish (.hubRaw raw)

def isOnline (s : Session) (m : ModuleId) (now : Int) : Bool :=
  s.liveness.isOnline m Liveness.onlineWindow now

/-! ### Sending -/

/-- The first half of a command: it gets the next id and, if somebody asked for it, its entry, so
that a fast reply finds it. -/
def reserve (s : Session) (request : Request) (requester : Option Party) :
    Session × Command × Except Failure Unit :=
  let command := request.toCommand s.nextId
  let s := { s with nextId := s.nextId.next }
  match requester with
  | none => (s, command, .ok ())
  | some party =>
    match s.pending.register s.clock s.timing.replyTimeout command party with
    | .ok pending => ({ s with pending }, command, .ok ())
    | .error failure => (s, command, .error failure)

/-- The second half of a command: if it could not be sent, its entry ends. -/
def settle (s : Session) (id : CorrelationId) (cause : Option String) :
    Session × Except Failure CorrelationId :=
  match cause with
  | none => (s, .ok id)
  | some cause =>
    let failure := Failure.transport cause
    let (pending, delivery) := s.pending.fail id failure.message
    ({ s with pending }.tell delivery, .error failure)

variable {m : Type → Type} [Monad m]

/-- Sends a command; its end is told to the requester, if there is one. -/
def dispatch (send : Link m) (s : Session) (request : Request) (requester : Option Party) :
    m (Session × Except Failure CorrelationId) :=
  match s.reserve request requester with
  | (s, _, .error failure) => pure (s, .error failure)
  | (s, command, .ok ()) => do pure (s.settle command.id (← send command.encode))

def sendRaw (send : Link m) (text : String) : m (Except Failure Unit) := do
  match ← send (encodeRaw text) with
  | none => pure (.ok ())
  | some cause => pure (.error (.transport cause))

end Session

end HubBridge
