import HubBridge.Session.Basic

/-!
# Calls and time

A call sends a command and goes on when its outcome is there; a lock or unlock call that was only
acknowledged then polls the module. Time passes in `advance`, which lets everything happen that is
due on the way, in order.
-/

namespace HubBridge.Session

variable {m : Type → Type} [Monad m]

/-- The session with a call in place of the one of its number. -/
def setCall (s : Session) (call : Call) : Session :=
  { s with calls := s.calls.map fun c => if c.number = call.number then call else c }

/-- A call ends, and nothing more is kept for it than its result. -/
def finish (s : Session) (call : Call) (result : CallResult) : Session :=
  { s.setCall { call with stage := .finished result } with
    sinks := s.sinks.erase (.call call.number) }

/-- Issues the next query of a poll and waits for its answer. A query that cannot be sent counts
like any other. -/
def query (send : Link m) (s : Session) (call : Call) (reply : Reply) (poll : Poll) :
    m Session := do
  let (s, _) ← s.dispatch send (.status poll.moduleId) none
  let wake := s.clock + s.timing.poll.wait
  pure (s.setCall { call with stage := .polling reply poll.queried wake })

/-- A call learns how its command ended. One that was to move a lock and got a bare acknowledgement
polls the module that answered. -/
def conclude (send : Link m) (s : Session) (call : Call) (outcome : Outcome) : m Session :=
  match call.purpose, outcome with
  | .actuate .., .ok reply =>
    match acknowledged reply.rawAction with
    | none => pure (s.finish call (call.purpose.result outcome))
    | some expected =>
      match expected.lockState with
      | none =>
        pure (s.finish call
          (.actuation (.ok ⟨reply, some ⟨reply.moduleId, expected, .exhausted, 0⟩⟩)))
      | some want => s.query send call reply ⟨reply.moduleId, expected, want, 0⟩
  | _, _ => pure (s.finish call (call.purpose.result outcome))

/-- A call that waits goes on if its outcome is there. -/
def resume (send : Link m) (s : Session) (call : Call) : m Session :=
  match call.stage, (s.sinks.get? (.call call.number)).bind Sink.outcome? with
  | .awaiting, some outcome => s.conclude send call outcome
  | _, _ => pure s

/-- Every call that waits goes on if its outcome is there. -/
def resumeAll (send : Link m) (s : Session) : m Session :=
  s.calls.foldlM (fun s call => s.resume send call) s

/-- A datagram of the hub arrives, which a session that no longer listens does not read. -/
def receive (send : Link m) (s : Session) (time : Int) (bytes : ByteArray) : m Session :=
  if s.listening then (s.handle time (.ofDatagram bytes)).resumeAll send else pure s

/-- Begins a call; the answer is its number. -/
def call (send : Link m) (s : Session) (purpose : Purpose) : m (Session × Nat) := do
  let number := s.called + 1
  let call : Call := ⟨number, purpose, .awaiting⟩
  let s :=
    { s with
      called := number
      calls := s.calls ++ [call]
      sinks := s.sinks.insert (.call number) .oneShot }
  match ← s.dispatch send purpose.request (some (.call number)) with
  | (s, .ok _) => pure (s, number)
  | (s, .error failure) => pure (s.finish call (purpose.result (.error failure)), number)

def results (s : Session) : List (Nat × CallResult) :=
  s.calls.filterMap fun call => match call.stage with
    | .finished result => some (call.number, result)
    | _ => none

def forget (s : Session) : Session :=
  { s with calls := s.calls.filter fun call => match call.stage with
    | .finished _ => false
    | _ => true }

/-! ### Time -/

inductive Due
  | alarm (alarm : Alarm)
  | wake (call : Call) (reply : Reply) (poll : Poll) (time : Nat)

def Due.time : Due → Nat
  | alarm a => a.due
  | wake _ _ _ time => time

def nextWake? (s : Session) : Option Due :=
  s.calls.foldl (fun best call => match call.stage with
    | .polling reply poll time =>
      let candidate := Due.wake call reply poll time
      match best with
      | none => some candidate
      | some due => if due.time ≤ time then some due else some candidate
    | _ => best) none

/-- What happens next; of an alarm and a call of one time, the alarm comes first. -/
def nextDue? (s : Session) : Option Due :=
  match s.pending.nextAlarm?, s.nextWake? with
  | some a, some due => if a.due ≤ due.time then some (.alarm a) else some due
  | some a, none => some (.alarm a)
  | none, due => due

/-- Lets one thing happen at its time: an alarm ends its command, a poll looks at the lock. -/
def fire (send : Link m) (s : Session) (due : Due) : m Session :=
  let s := { s with clock := max s.clock due.time }
  match due with
  | .alarm a =>
    let (pending, delivery) := s.pending.ring a
    ({ s with pending }.tell delivery).resumeAll send
  | .wake call reply poll _ =>
    match poll.check s.timing.poll.maxAttempts (s.doors.door poll.moduleId).isLocked with
    | some outcome => pure (s.finish call (.actuation (.ok ⟨reply, some outcome⟩)))
    | none => s.query send call reply poll

/-- How many things can still happen without anything new from outside: each alarm once, and each
poll once for every attempt it has left. -/
def dueBound (s : Session) : Nat :=
  s.calls.foldl (fun n call => n + call.chances s.timing.poll.maxAttempts)
    s.pending.alarms.length

/-- Lets all happen that is due up to a time, at most `bound` things. -/
def fireUntil (send : Link m) (time : Nat) : Nat → Session → m Session
  | 0, s => pure s
  | bound + 1, s =>
    match s.nextDue? with
    | none => pure s
    | some due =>
      if due.time ≤ time then do fireUntil send time bound (← s.fire send due)
      else pure s

def advance (send : Link m) (s : Session) (ms : Nat) : m Session := do
  let time := s.clock + ms
  let s ← fireUntil send time s.dueBound s
  pure { s with clock := time }

/-- Datagrams are no longer read. Commands still wait for their time and new ones can be sent. -/
def shutdown (s : Session) : Session := { s with listening := false }

/-! ### Steps -/

inductive Input
  | datagram (time : Int) (bytes : ByteArray)
  | connect
  | disconnect (id : ObserverId)
  | submit (id : ObserverId) (request : Request)
  | untracked (request : Request)
  | raw (text : String)
  | call (purpose : Purpose)
  | advance (ms : Nat)
  | shutdown

/-- What whoever caused a step is told at once. -/
inductive Answer
  | nothing
  | observer (id : ObserverId)
  | sent (result : Except Failure CorrelationId)
  | sentRaw (result : Except Failure Unit)
  | called (number : Nat)

def act (send : Link m) (s : Session) : Input → m (Session × Answer)
  | .datagram time bytes => do pure (← s.receive send time bytes, .nothing)
  | .connect =>
    let (s, id) := s.connect
    pure (s, .observer id)
  | .disconnect id => pure (s.disconnect id, .nothing)
  | .submit id request => do
    let (s, result) ← s.dispatch send request (some (.observer id))
    pure (s, .sent result)
  | .untracked request => do
    let (s, result) ← s.dispatch send request none
    pure (s, .sent result)
  | .raw text => do pure (s, .sentRaw (← sendRaw send text))
  | .call purpose => do
    let (s, number) ← s.call send purpose
    pure (s, .called number)
  | .advance ms => do pure (← s.advance send ms, .nothing)
  | .shutdown => pure (s.shutdown, .nothing)

/-- One thing happens to the session, and then all that is due at once. -/
def step (send : Link m) (s : Session) (input : Input) : m (Session × Answer) := do
  let (s, answer) ← s.act send input
  pure (← s.advance send 0, answer)

def run (send : Link m) (s : Session) (inputs : List Input) : m Session :=
  inputs.foldlM (fun s input => do pure (← s.step send input).1) s

end HubBridge.Session
