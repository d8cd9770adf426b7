import HubBridge.Proofs.SessionMoves

/-!
# A session at work, turn by turn

Sending takes time: while a datagram is on its way out, others arrive, alarms ring and callers go on.
A `Desk` is a session with the one command that may be on its way out, and the log of all that
happened; a `Turn` is the least that can happen next. A session that sends at once is one where nothing
falls in between, so what holds after all turns holds after every history.
-/

namespace HubBridge.Proofs

/-- On whose account a command is sent. -/
inductive Errand
  | submission (observer : Option ObserverId)
  | opening (call : Call)
  | query (call : Call) (reply : Reply) (poll : Poll)

namespace Errand

def requester : Errand → Option Party
  | submission observer => observer.map .observer
  | opening call => some (.call call.number)
  | query .. => none

/-- The call that cannot go on until the command is out. -/
def caller : Errand → Option Nat
  | submission _ => none
  | opening call | query call .. => some call.number

/-- What follows for the caller once it knows whether the command is out. -/
def proceed (s : Session) (result : Except Failure CorrelationId) : Errand → Session
  | submission _ => s
  | opening call => match result with
    | .ok _ => s
    | .error failure => s.finish call (call.purpose.result (.error failure))
  | query call reply poll =>
    s.setCall { call with stage := .polling reply poll.queried (s.clock + s.timing.poll.wait) }

end Errand

/-- A command that has its id and whose datagram is neither sent nor lost yet. -/
structure Flight where
  command : Command
  errand : Errand

inductive Occurrence
  | heard (time : Int) (bytes : ByteArray)
  | rang (alarm : Alarm)
  | joined (observer : ObserverId)
  | issued (command : Command)
  /-- The datagram of a command left, or failed for a cause. -/
  | sent (command : Command) (cause : Option String)
  | wrote (text : String) (cause : Option String)

structure Desk (σ : Type) where
  session : Session
  world : σ
  flight : Option Flight
  log : List Occurrence

namespace Desk

variable {σ : Type}

def start (timing : Timing) (world : σ) : Desk σ := ⟨.start timing, world, none, []⟩

def hear (d : Desk σ) (time : Int) (bytes : ByteArray) : Desk σ :=
  { d with session := d.session.handle time (.ofDatagram bytes), log := d.log ++ [.heard time bytes] }

def ring (d : Desk σ) (alarm : Alarm) : Desk σ :=
  { d with session := rung d.session alarm, log := d.log ++ [.rang alarm] }

/-- A new observer has come, which has the next number. -/
def joined (d : Desk σ) : Desk σ :=
  { d with session := d.session.connect.1, log := d.log ++ [.joined d.session.connect.2] }

def write (send : Link (StateM σ)) (d : Desk σ) (text : String) : Desk σ :=
  let out := (send (encodeRaw text)).run d.world
  { d with world := out.2, log := d.log ++ [.wrote text out.1] }

/-- A command gets its id and its entry, and is on its way out unless it was refused. -/
def launch (d : Desk σ) (request : Request) (errand : Errand) : Desk σ :=
  match d.session.reserve request errand.requester with
  | (s, command, .ok ()) =>
    { d with session := s, flight := some ⟨command, errand⟩, log := d.log ++ [.issued command] }
  | (s, command, .error failure) =>
    { d with session := errand.proceed s (.error failure), log := d.log ++ [.issued command] }

/-- The command on its way out is sent or lost, and whoever sent it goes on. -/
def land (send : Link (StateM σ)) (d : Desk σ) (flight : Flight) : Desk σ :=
  let out := (send flight.command.encode).run d.world
  let settled := d.session.settle flight.command.id out.1
  { session := flight.errand.proceed settled.1 settled.2, world := out.2, flight := none
    log := d.log ++ [.sent flight.command out.1] }

def call (d : Desk σ) (purpose : Purpose) : Desk σ :=
  { d with session := opened d.session purpose }.launch purpose.request
    (.opening (begun d.session purpose))

/-- The call waits for its own command to be out. -/
def Busy (d : Desk σ) (call : Call) : Prop :=
  ∃ flight, d.flight = some flight ∧ flight.errand.caller = some call.number

end Desk

/-- The poll that a call begins when it learns its outcome, if it does not end with that. -/
def inquiry (purpose : Purpose) (outcome : Outcome) : Option (Reply × Poll) :=
  match purpose, outcome with
  | .actuate .., .ok reply =>
    (acknowledged reply.rawAction).bind fun expected =>
      expected.lockState.map fun want => (reply, ⟨reply.moduleId, expected, want, 0⟩)
  | _, _ => none

variable {σ : Type} (send : Link (StateM σ))

/-- The least that can happen to a session. Only one command can be on its way out at a time; nothing
else waits for it. -/
inductive Turn : Desk σ → Desk σ → Prop
  | connect (d : Desk σ) : Turn d d.joined
  | disconnect (d : Desk σ) (id : ObserverId) :
      Turn d { d with session := d.session.disconnect id }
  | shutdown (d : Desk σ) : Turn d { d with session := d.session.shutdown }
  | pass (d : Desk σ) (time : Nat) (htime : d.session.clock ≤ time) :
      Turn d { d with session := { d.session with clock := time } }
  | hear (d : Desk σ) (time : Int) (bytes : ByteArray) (hlistens : d.session.listening = true) :
      Turn d (d.hear time bytes)
  | ring (d : Desk σ) (alarm : Alarm) (hset : alarm ∈ d.session.pending.alarms)
      (hdue : alarm.due ≤ d.session.clock) : Turn d (d.ring alarm)
  | write (d : Desk σ) (text : String) (hfree : d.flight = none) : Turn d (d.write send text)
  | submit (d : Desk σ) (request : Request) (observer : Option ObserverId)
      (hfree : d.flight = none) : Turn d (d.launch request (.submission observer))
  | call (d : Desk σ) (purpose : Purpose) (hfree : d.flight = none) : Turn d (d.call purpose)
  | land (d : Desk σ) (flight : Flight) (hflight : d.flight = some flight) :
      Turn d (d.land send flight)
  /-- A call ends with the outcome that it finds. -/
  | learn (d : Desk σ) (call : Call) (outcome : Outcome) (hcall : call ∈ d.session.calls)
      (hstage : call.stage = .awaiting) (hbusy : ¬d.Busy call)
      (houtcome : (d.session.sinks.get? (.call call.number)).bind Sink.outcome? = some outcome)
      (hends : inquiry call.purpose outcome = none) :
      Turn d { d with session := d.session.finish call (call.purpose.result outcome) }
  /-- A call begins to poll for the outcome that it finds. -/
  | inquire (d : Desk σ) (call : Call) (outcome : Outcome) (reply : Reply) (poll : Poll)
      (hcall : call ∈ d.session.calls) (hstage : call.stage = .awaiting) (hfree : d.flight = none)
      (houtcome : (d.session.sinks.get? (.call call.number)).bind Sink.outcome? = some outcome)
      (hpolls : inquiry call.purpose outcome = some (reply, poll)) :
      Turn d (d.launch (.status poll.moduleId) (.query call reply poll))
  /-- A poll asks again. It looked at the lock when it woke, which may have moved since. -/
  | ask (d : Desk σ) (call : Call) (reply : Reply) (poll : Poll) (wake : Nat)
      (hcall : call ∈ d.session.calls) (hstage : call.stage = .polling reply poll wake)
      (hfree : d.flight = none) (hdue : wake ≤ d.session.clock)
      (hleft : poll.attempts < d.session.timing.poll.maxAttempts.toNat) :
      Turn d (d.launch (.status poll.moduleId) (.query call reply poll))
  /-- A poll ends. -/
  | check (d : Desk σ) (call : Call) (reply : Reply) (poll : Poll) (wake : Nat) (c : Convergence)
      (hcall : call ∈ d.session.calls) (hstage : call.stage = .polling reply poll wake)
      (hbusy : ¬d.Busy call) (hdue : wake ≤ d.session.clock)
      (hcheck : poll.check d.session.timing.poll.maxAttempts
        (d.session.doors.door poll.moduleId).isLocked = some c) :
      Turn d { d with session := d.session.finish call (.actuation (.ok ⟨reply, some c⟩)) }

abbrev Turns : Desk σ → Desk σ → Prop := Relation.ReflTransGen (Turn send)

variable {send}

lemma Turns.keeps {motive : Desk σ → Prop} (turn : ∀ x y, Turn send x y → motive x → motive y)
    {x y : Desk σ} (h : Turns send x y) (hx : motive x) : motive y := by
  induction h with
  | refl => exact hx
  | tail _ hturn ih => exact turn _ _ hturn ih

/-! ### The log -/

/-- The commands that got an id, oldest first. -/
def issued (log : List Occurrence) : List Command :=
  log.filterMap fun
    | .issued command => some command
    | _ => none

lemma issued_append (log later : List Occurrence) :
    issued (log ++ later) = issued log ++ issued later := List.filterMap_append

namespace Desk

lemma launch_log (d : Desk σ) (request : Request) (errand : Errand) :
    (d.launch request errand).log = d.log ++ [.issued (request.toCommand d.session.nextId)] := by
  unfold launch Session.reserve
  cases errand.requester with
  | none => rfl
  | some party =>
    dsimp only
    cases d.session.pending.register d.session.clock d.session.timing.replyTimeout
      (request.toCommand d.session.nextId) party with
    | ok pending => rfl
    | error failure => rfl

end Desk

/-- What is written in the log stays there. -/
lemma Turn.log_prefix {d e : Desk σ} (h : Turn send d e) : d.log <+: e.log := by
  cases h with
  | connect => exact List.prefix_append _ _
  | disconnect id => exact List.prefix_rfl
  | shutdown => exact List.prefix_rfl
  | pass time htime => exact List.prefix_rfl
  | hear time bytes hlistens => exact List.prefix_append _ _
  | ring alarm hset hdue => exact List.prefix_append _ _
  | write text hfree => exact List.prefix_append _ _
  | submit request observer hfree =>
    rw [Desk.launch_log]
    exact List.prefix_append _ _
  | call purpose hfree =>
    rw [Desk.call, Desk.launch_log]
    exact List.prefix_append _ _
  | land flight hflight => exact List.prefix_append _ _
  | learn call outcome hcall hstage hbusy houtcome hends => exact List.prefix_rfl
  | inquire call outcome reply poll hcall hstage hfree houtcome hpolls =>
    rw [Desk.launch_log]
    exact List.prefix_append _ _
  | ask call reply poll wake hcall hstage hfree hdue hleft =>
    rw [Desk.launch_log]
    exact List.prefix_append _ _
  | check call reply poll wake c hcall hstage hbusy hdue hcheck => exact List.prefix_rfl

lemma Turns.log_prefix {d e : Desk σ} (h : Turns send d e) : d.log <+: e.log :=
  h.keeps (motive := fun x => d.log <+: x.log) (fun _ _ hturn hx => hx.trans hturn.log_prefix)
    List.prefix_rfl

/-! ### Moves as turns -/

/-- No datagram is heard meanwhile, and at most so many commands begin. -/
structure Slight (commands : Nat) (more : List Occurrence) : Prop where
  unheard : ∀ time bytes, .heard time bytes ∉ more
  few : (issued more).length ≤ commands

lemma Slight.issue {more : List Occurrence} (h : Slight 0 more) (command : Command) :
    Slight 1 ([.issued command] ++ more) where
  unheard time bytes hmem := h.unheard time bytes ((List.mem_cons.mp hmem).resolve_left (nomatch ·))
  few := Nat.succ_le_succ h.few

variable (send) in
/-- A command that is launched lands at once, as it does if it is sent with nothing in between. -/
lemma landed_turns (s : Session) (w : σ) (log : List Occurrence) (request : Request)
    (errand : Errand) :
    let d := Desk.launch ⟨s, w, none, log⟩ request errand
    let out := (s.dispatch send request errand.requester).run w
    ∃ more, Turns send d ⟨errand.proceed out.1.1 out.1.2, out.2, none, d.log ++ more⟩ ∧
      Slight 0 more := by
  dsimp only
  rw [dispatch_run]
  unfold Desk.launch
  dsimp only
  rcases s.reserve request errand.requester with ⟨t, command, failure | ⟨⟩⟩
  · refine ⟨[], ?_, by simp, Nat.le_refl _⟩
    rw [List.append_nil]
  · exact ⟨[.sent command ((send command.encode).run w).1],
      .single (.land _ ⟨command, errand⟩ rfl), by simp, Nat.le_refl _⟩

lemma launch_turns {x : Desk σ} {s : Session} {w : σ} {log : List Occurrence} {request : Request}
    (errand : Errand) (hturn : Turn send x (Desk.launch ⟨s, w, none, log⟩ request errand)) :
    let out := (s.dispatch send request errand.requester).run w
    ∃ more, Turns send x ⟨errand.proceed out.1.1 out.1.2, out.2, none, log ++ more⟩ ∧
      Slight 1 more := by
  obtain ⟨more, hturns, hslight⟩ := landed_turns send s w log request errand
  rw [Desk.launch_log, List.append_assoc] at hturns
  exact ⟨_, .head hturn hturns, hslight.issue _⟩

variable (send) in
/-- A call whose command is sent at once has begun with nothing in between. -/
lemma call_turns (s : Session) (w : σ) (log : List Occurrence) (purpose : Purpose) :
    let d := Desk.call ⟨s, w, none, log⟩ purpose
    let out := (s.call send purpose).run w
    ∃ more, Turns send d ⟨out.1.1, out.2, none, d.log ++ more⟩ ∧ Slight 0 more := by
  obtain ⟨more, hturns, hslight⟩ := landed_turns send (opened s purpose) w log purpose.request
    (.opening (begun s purpose))
  refine ⟨more, ?_, hslight⟩
  rw [call_run]
  dsimp only [Errand.requester, begun] at hturns ⊢
  generalize ((opened s purpose).dispatch send purpose.request _).run w = out at hturns ⊢
  obtain ⟨⟨t, result⟩, w'⟩ := out
  cases result with
  | ok id => exact hturns
  | error failure => exact hturns

lemma sendRaw_run (w : σ) (text : String) :
    ((Session.sendRaw send text).run w).2 = ((send (encodeRaw text)).run w).2 := by
  unfold Session.sendRaw
  rw [StateT.run_bind]
  rcases (send (encodeRaw text)).run w with ⟨cause | cause, w'⟩ <;> rfl

lemma conclude_eq (s : Session) (w : σ) (call : Call) (outcome : Outcome) :
    (s.conclude send call outcome).run w = match inquiry call.purpose outcome with
      | some (reply, poll) => (s.query send call reply poll).run w
      | none => (s.finish call (call.purpose.result outcome), w) := by
  rcases conclude_run send s w call outcome with
    ⟨m, lock, reply, expected, want, hp, rfl, ha, hl, h⟩ | ⟨hnone, h⟩
  · rw [h, hp]
    simp only [inquiry, ha, Option.bind_some, hl, Option.map_some]
  · have hinquiry : inquiry call.purpose outcome = none := by
      unfold inquiry
      split
      · rename_i m lock reply hp
        rw [hnone m lock reply hp rfl, Option.bind_none]
      · rfl
    rw [h, hinquiry]

lemma mem_of_nextAlarm? {p : Pending Party} {alarm : Alarm} (h : p.nextAlarm? = some alarm) :
    alarm ∈ p.alarms := by
  revert alarm
  unfold Pending.nextAlarm?
  apply List.foldlRecOn p.alarms
    (motive := fun best => ∀ {alarm : Alarm}, best = some alarm → alarm ∈ p.alarms)
  · intro alarm h
    cases h
  · intro best hbest a ha alarm h
    cases best with
    | none =>
      cases h
      exact ha
    | some b =>
      dsimp only at h
      split at h
      · exact hbest h
      · cases h
        exact ha

lemma nextDue?_eq_alarm {s : Session} {alarm : Alarm} (h : s.nextDue? = some (.alarm alarm)) :
    alarm ∈ s.pending.alarms := by
  unfold Session.nextDue? at h
  split at h
  · rename_i a due hnext hwake
    split at h
    · cases h
      exact mem_of_nextAlarm? hnext
    · rw [Option.some_inj] at h
      subst h
      obtain ⟨_, _, _, _, _, _, heq⟩ := nextWake?_eq_some hwake
      cases heq
  · rename_i a hnext _
    cases h
    exact mem_of_nextAlarm? hnext
  · obtain ⟨_, _, _, _, _, _, heq⟩ := nextWake?_eq_some h
    cases heq

lemma Poll.left_of_check {poll : Poll} {limit : UInt32} {lockState : Option Bool}
    (h : poll.check limit lockState = none) : poll.attempts < limit.toNat := by
  unfold Poll.check at h
  split at h
  · cases h
  · split at h
    · cases h
    · omega

lemma unlogged {x : Desk σ} {s : Session} {w : σ} {log : List Occurrence}
    (h : Turns send x ⟨s, w, none, log⟩) :
    ∃ more, Turns send x ⟨s, w, none, log ++ more⟩ ∧ Slight 1 more := by
  refine ⟨[], ?_, by simp, Nat.zero_le _⟩
  rw [List.append_nil]
  exact h

/-- A move is made of turns that leave nothing on its way out, hear no datagram and begin at most one
command. -/
theorem Move.turns {x y : Session × σ} (h : Move send x y) (log : List Occurrence) :
    ∃ more, Turns send ⟨x.1, x.2, none, log⟩ ⟨y.1, y.2, none, log ++ more⟩ ∧ Slight 1 more := by
  cases h with
  | connect s w => exact ⟨_, .single (.connect ⟨s, w, none, log⟩), by simp, Nat.zero_le _⟩
  | disconnect s w id => exact unlogged (.single (.disconnect _ id))
  | shutdown s w => exact unlogged (.single (.shutdown _))
  | pass s w time htime => exact unlogged (.single (.pass _ time htime))
  | write s w text =>
    rw [sendRaw_run]
    exact ⟨_, .single (.write ⟨s, w, none, log⟩ text rfl), by simp, Nat.zero_le _⟩
  | submit s w request observer =>
    exact launch_turns (.submission observer)
      (.submit ⟨s, w, none, log⟩ request observer rfl)
  | call s w purpose =>
    obtain ⟨more, hturns, hslight⟩ := call_turns send s w log purpose
    rw [Desk.call, Desk.launch_log, List.append_assoc] at hturns
    have hturn : Turn send ⟨s, w, none, log⟩ (Desk.call ⟨s, w, none, log⟩ purpose) :=
      .call ⟨s, w, none, log⟩ purpose rfl
    exact ⟨_, .head hturn hturns, hslight.issue _⟩
  | resume s w call outcome hcall hstage houtcome =>
    rw [conclude_eq]
    cases hinquiry : inquiry call.purpose outcome with
    | none =>
      have hbusy : ¬(Desk.mk s w none log).Busy call := fun ⟨_, h, _⟩ => nomatch h
      exact unlogged
        (.single (.learn ⟨s, w, none, log⟩ call outcome hcall hstage hbusy houtcome hinquiry))
    | some begins =>
      obtain ⟨reply, poll⟩ := begins
      exact launch_turns (.query call reply poll)
        (.inquire ⟨s, w, none, log⟩ call outcome reply poll hcall hstage rfl houtcome hinquiry)
  | ring s w alarm hdue =>
    let later : Session := { s with clock := max s.clock alarm.due }
    have hpass : Turn send ⟨s, w, none, log⟩ ⟨later, w, none, log⟩ :=
      .pass ⟨s, w, none, log⟩ _ (Nat.le_max_left _ _)
    have hring : Turn send ⟨later, w, none, log⟩ (Desk.ring ⟨later, w, none, log⟩ alarm) :=
      .ring ⟨later, w, none, log⟩ alarm (nextDue?_eq_alarm hdue) (Nat.le_max_right _ _)
    have hrung : rung later alarm = rung s alarm := by
      unfold rung later
      rw [Nat.max_assoc, Nat.max_self]
    refine ⟨[.rang alarm], .tail (.single hpass) ?_, by simp, Nat.zero_le _⟩
    rw [Desk.ring, hrung] at hring
    exact hring
  | wake s w call reply poll time hdue =>
    obtain ⟨hcall, hstage⟩ := nextDue?_eq_wake hdue
    let later : Session := { s with clock := max s.clock time }
    have hpass : Turn send ⟨s, w, none, log⟩ ⟨later, w, none, log⟩ :=
      .pass ⟨s, w, none, log⟩ _ (Nat.le_max_left _ _)
    rw [fire_wake_run]
    cases hcheck : poll.check s.timing.poll.maxAttempts (s.doors.door poll.moduleId).isLocked with
    | some c =>
      have hbusy : ¬(Desk.mk later w none log).Busy call := fun ⟨_, h, _⟩ => nomatch h
      exact unlogged (.tail (.single hpass) (.check ⟨later, w, none, log⟩ call reply poll time c hcall
        hstage hbusy (Nat.le_max_right _ _) hcheck))
    | none =>
      obtain ⟨more, hturns, hfew⟩ := launch_turns (.query call reply poll)
        (.ask ⟨later, w, none, log⟩ call reply poll time hcall hstage rfl (Nat.le_max_right _ _)
          (Poll.left_of_check hcheck))
      exact ⟨more, .head hpass hturns, hfew⟩

/-- Every history of a session is made of turns, with nothing on its way out at its end. -/
theorem reached_turns (timing : Timing) (world : σ) (inputs : List Session.Input) :
    ∃ log, Turns send (.start timing world)
      ⟨(reached send timing world inputs).1, (reached send timing world inputs).2, none, log⟩ := by
  refine reached_induction (motive := fun x => ∃ log,
    Turns send (.start timing world) ⟨x.1, x.2, none, log⟩) ?_ ?_ ?_ inputs
  · exact ⟨[], .refl⟩
  · rintro s w time bytes hlistens ⟨log, hturns⟩
    have hturn : Turn send ⟨s, w, none, log⟩ (Desk.hear ⟨s, w, none, log⟩ time bytes) :=
      .hear _ time bytes hlistens
    refine ⟨log ++ [.heard time bytes], ?_⟩
    dsimp only [Desk.hear] at hturn hturns ⊢
    exact hturns.tail hturn
  · rintro x y hmove ⟨log, hturns⟩
    obtain ⟨more, hlater, -⟩ := hmove.turns log
    exact ⟨log ++ more, hturns.trans hlater⟩

end HubBridge.Proofs
