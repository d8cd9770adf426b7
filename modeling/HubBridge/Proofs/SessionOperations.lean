import HubBridge.Proofs.StatusText
import HubBridge.Session.Calls
import Mathlib.Tactic.Lemma

/-!
# The operations of a session

What each operation does to the session, and to the world behind its link, which may be anything that
keeps a state: so a datagram can be lost for any reason at all. Sending touches the ids, the waiting
commands and the sinks; a call that goes on changes nothing but itself and what it sends.
-/

namespace HubBridge.Proofs

variable {σ : Type} (send : Link (StateM σ))

/-! ### Sending -/

lemma dispatch_run (s : Session) (w : σ) (request : Request) (requester : Option Party) :
    (s.dispatch send request requester).run w =
      match s.reserve request requester with
      | (s, _, .error failure) => ((s, .error failure), w)
      | (s, command, .ok ()) =>
        (s.settle command.id ((send command.encode).run w).1, ((send command.encode).run w).2) := by
  unfold Session.dispatch
  rcases s.reserve request requester with ⟨s, command, failure | ⟨⟩⟩ <;> rfl

/-- Two sessions agree on all but the ids, the waiting commands and the sinks. -/
structure SameBooks (s t : Session) : Prop where
  timing : t.timing = s.timing
  clock : t.clock = s.clock
  audience : t.audience = s.audience
  doors : t.doors = s.doors
  liveness : t.liveness = s.liveness
  calls : t.calls = s.calls
  called : t.called = s.called
  listening : t.listening = s.listening

lemma SameBooks.trans {s t u : Session} (h₁ : SameBooks s t) (h₂ : SameBooks t u) : SameBooks s u :=
  ⟨h₂.timing.trans h₁.timing, h₂.clock.trans h₁.clock, h₂.audience.trans h₁.audience,
    h₂.doors.trans h₁.doors, h₂.liveness.trans h₁.liveness, h₂.calls.trans h₁.calls,
    h₂.called.trans h₁.called, h₂.listening.trans h₁.listening⟩

lemma sameBooks_tell (s : Session) (pending : Pending Party) (delivery : Option (Delivery Party)) :
    SameBooks s ({ s with pending }.tell delivery) := by
  cases delivery <;> constructor <;> rfl

lemma sameBooks_reserve (s : Session) (request : Request) (requester : Option Party) :
    SameBooks s (s.reserve request requester).1 := by
  unfold Session.reserve
  cases requester with
  | none => constructor <;> rfl
  | some party =>
    dsimp only
    split <;> constructor <;> rfl

lemma sameBooks_settle (s : Session) (id : CorrelationId) (cause : Option String) :
    SameBooks s (s.settle id cause).1 := by
  cases cause with
  | none => constructor <;> rfl
  | some cause => exact sameBooks_tell s _ _

/-- Sending touches nothing but the ids, the waiting commands and the sinks. -/
theorem sameBooks_dispatch (s : Session) (w : σ) (request : Request) (requester : Option Party) :
    SameBooks s ((s.dispatch send request requester).run w).1.1 := by
  have h := sameBooks_reserve s request requester
  rw [dispatch_run]
  rcases hr : s.reserve request requester with ⟨s', command, failure | ⟨⟩⟩
  · rw [hr] at h
    exact h
  · rw [hr] at h
    exact h.trans (sameBooks_settle s' command.id _)

/-! ### Calls -/

lemma numbers_setCall (s : Session) (call : Call) :
    (s.setCall call).calls.map Call.number = s.calls.map Call.number := by
  rw [Session.setCall, List.map_map]
  apply List.map_congr_left
  intro c _
  dsimp only [Function.comp]
  by_cases h : c.number = call.number
  · rw [if_pos h, h]
  · rw [if_neg h]

lemma mem_calls_setCall {s : Session} {call x : Call} (h : x ∈ (s.setCall call).calls) :
    x = call ∨ x ∈ s.calls ∧ x.number ≠ call.number := by
  obtain ⟨c, hc, hx⟩ := List.mem_map.mp h
  by_cases hn : c.number = call.number
  · rw [if_pos hn] at hx
    exact .inl hx.symm
  · rw [if_neg hn] at hx
    subst hx
    exact .inr ⟨hc, hn⟩

lemma setCall_keeps {s : Session} {call x : Call} (hx : x ∈ s.calls)
    (hn : x.number ≠ call.number) : x ∈ (s.setCall call).calls :=
  List.mem_map.mpr ⟨x, hx, if_neg hn⟩

/-- The session after one call has changed: every other call is as it was, and so is all that a
change of one call cannot touch. -/
structure Resumed (s t : Session) (call : Call) : Prop where
  timing : t.timing = s.timing
  called : t.called = s.called
  doors : t.doors = s.doors
  clock : t.clock = s.clock
  numbers : t.calls.map Call.number = s.calls.map Call.number
  others : ∀ x ∈ s.calls, x.number ≠ call.number → x ∈ t.calls

lemma finish_resumed (s : Session) (call : Call) (result : CallResult) :
    Resumed s (s.finish call result) call where
  timing := rfl
  called := rfl
  doors := rfl
  clock := rfl
  numbers := numbers_setCall s _
  others _ hx hn := setCall_keeps hx hn

lemma query_run (s : Session) (w : σ) (call : Call) (reply : Reply) (poll : Poll) :
    (s.query send call reply poll).run w =
      let x := (s.dispatch send (.status poll.moduleId) none).run w
      let wake := x.1.1.clock + x.1.1.timing.poll.wait
      (x.1.1.setCall { call with stage := .polling reply poll.queried wake }, x.2) :=
  rfl

lemma query_resumed (s : Session) (w : σ) (call : Call) (reply : Reply) (poll : Poll) :
    Resumed s ((s.query send call reply poll).run w).1 call := by
  rw [query_run]
  dsimp only
  have h := sameBooks_dispatch send s w (.status poll.moduleId) none
  refine ⟨h.timing, h.called, h.doors, h.clock, ?_, ?_⟩
  · rw [numbers_setCall, h.calls]
  · intro x hx hn
    apply setCall_keeps
    · rwa [h.calls]
    · exact hn

/-- A call that has learned its outcome ends, unless it was to move a lock and the reply only
acknowledges that: then it polls the module and waits for the position that the reply names. -/
lemma conclude_run (s : Session) (w : σ) (call : Call) (outcome : Outcome) :
    (∃ m lock reply expected want, call.purpose = .actuate m lock ∧ outcome = .ok reply ∧
        acknowledged reply.rawAction = some expected ∧ expected.lockState = some want ∧
        (s.conclude send call outcome).run w =
          (s.query send call reply ⟨reply.moduleId, expected, want, 0⟩).run w) ∨
      (∀ m lock reply, call.purpose = .actuate m lock → outcome = .ok reply →
          acknowledged reply.rawAction = none) ∧
        (s.conclude send call outcome).run w =
          (s.finish call (call.purpose.result outcome), w) := by
  unfold Session.conclude
  cases hp : call.purpose with
  | command request => exact .inr ⟨by simp, rfl⟩
  | info m => exact .inr ⟨by simp, rfl⟩
  | actuate m lock =>
    cases outcome with
    | error failure => exact .inr ⟨by simp, rfl⟩
    | ok reply =>
      dsimp only
      cases ha : acknowledged reply.rawAction with
      | none =>
        refine .inr ⟨?_, rfl⟩
        rintro m' lock' reply' - h
        cases h
        exact ha
      | some expected =>
        obtain ⟨locked, -, hexpected⟩ := acknowledged_eq_some.mp ha
        have hl := lockState_eq_some.mpr hexpected
        refine .inl ⟨m, lock, reply, expected, locked, rfl, rfl, ha, hl, ?_⟩
        dsimp only
        rw [hl]

lemma conclude_resumed (s : Session) (w : σ) (call : Call) (outcome : Outcome) :
    Resumed s ((s.conclude send call outcome).run w).1 call := by
  rcases conclude_run send s w call outcome with ⟨_, _, _, _, _, -, -, -, -, h⟩ | ⟨-, h⟩
  · rw [h]
    exact query_resumed send s w call _ _
  · rw [h]
    exact finish_resumed s call _

lemma resume_run (s : Session) (w : σ) (call : Call) :
    ((call.stage = .awaiting →
        (s.sinks.get? (.call call.number)).bind Sink.outcome? = none) ∧
      (s.resume send call).run w = (s, w)) ∨
      ∃ outcome, call.stage = .awaiting ∧
        (s.sinks.get? (.call call.number)).bind Sink.outcome? = some outcome ∧
        (s.resume send call).run w = (s.conclude send call outcome).run w := by
  unfold Session.resume
  cases call.stage with
  | awaiting =>
    cases (s.sinks.get? (.call call.number)).bind Sink.outcome? with
    | none => exact .inl ⟨fun _ => rfl, rfl⟩
    | some outcome => exact .inr ⟨outcome, rfl, rfl, rfl⟩
  | polling reply poll time => exact .inl ⟨(nomatch ·), rfl⟩
  | finished result => exact .inl ⟨(nomatch ·), rfl⟩

def begun (s : Session) (purpose : Purpose) : Call := ⟨s.called + 1, purpose, .awaiting⟩

/-- The session with one more call, for which nothing was sent yet. -/
def opened (s : Session) (purpose : Purpose) : Session :=
  { s with
    called := s.called + 1
    calls := s.calls ++ [begun s purpose]
    sinks := s.sinks.insert (.call (s.called + 1)) .oneShot }

lemma call_run (s : Session) (w : σ) (purpose : Purpose) :
    (s.call send purpose).run w =
      let x := ((opened s purpose).dispatch send purpose.request (some (.call (s.called + 1)))).run w
      match x.1.2 with
      | .ok _ => ((x.1.1, s.called + 1), x.2)
      | .error failure =>
        ((x.1.1.finish (begun s purpose) (purpose.result (.error failure)), s.called + 1), x.2) := by
  unfold Session.call opened begun
  dsimp only [StateT.run_bind]
  generalize (Session.dispatch send _ purpose.request _).run w = x
  obtain ⟨⟨s', result⟩, w'⟩ := x
  cases result <;> rfl

/-- A call begins, and ends at once if its command could not be sent. -/
lemma call_begins (s : Session) (w : σ) (purpose : Purpose) :
    ∃ t, SameBooks (opened s purpose) t ∧
      (((s.call send purpose).run w).1.1 = t ∨ ∃ failure,
        ((s.call send purpose).run w).1.1 =
          t.finish (begun s purpose) (purpose.result (.error failure))) := by
  have h := sameBooks_dispatch send (opened s purpose) w purpose.request
    (some (.call (s.called + 1)))
  rw [call_run]
  dsimp only
  generalize ((opened s purpose).dispatch send purpose.request _).run w = x at h
  obtain ⟨⟨t, result⟩, w'⟩ := x
  cases result with
  | ok id => exact ⟨t, h, .inl rfl⟩
  | error failure => exact ⟨t, h, .inr ⟨failure, rfl⟩⟩

/-! ### What comes due -/

/-- What wakes next is a call that polls. -/
lemma nextWake?_eq_some {s : Session} {due : Session.Due} (h : s.nextWake? = some due) :
    ∃ call ∈ s.calls, ∃ reply poll time,
      call.stage = .polling reply poll time ∧ due = .wake call reply poll time := by
  revert due
  unfold Session.nextWake?
  apply List.foldlRecOn s.calls (motive := fun best => ∀ {due : Session.Due}, best = some due →
    ∃ call ∈ s.calls, ∃ reply poll time,
      call.stage = .polling reply poll time ∧ due = .wake call reply poll time)
  · intro due h
    cases h
  · intro best hbest call hcall due h
    cases hstage : call.stage with
    | awaiting =>
      rw [hstage] at h
      exact hbest h
    | finished result =>
      rw [hstage] at h
      exact hbest h
    | polling reply poll time =>
      rw [hstage] at h
      dsimp only at h
      cases best with
      | none =>
        cases h
        exact ⟨call, hcall, reply, poll, time, hstage, rfl⟩
      | some first =>
        dsimp only at h
        by_cases hle : first.time ≤ time
        · rw [if_pos hle] at h
          exact hbest h
        · rw [if_neg hle] at h
          cases h
          exact ⟨call, hcall, reply, poll, time, hstage, rfl⟩

lemma nextDue?_eq_wake {s : Session} {call : Call} {reply : Reply} {poll : Poll} {time : Nat}
    (h : s.nextDue? = some (.wake call reply poll time)) :
    call ∈ s.calls ∧ call.stage = .polling reply poll time := by
  have hnext : s.nextWake? = some (.wake call reply poll time) := by
    unfold Session.nextDue? at h
    split at h
    · split at h
      · cases h
      · rename_i hwake _
        rw [hwake]
        exact h
    · cases h
    · exact h
  obtain ⟨c, hc, _, _, _, hstage, heq⟩ := nextWake?_eq_some hnext
  cases heq
  exact ⟨hc, hstage⟩

lemma fire_wake_run (s : Session) (w : σ) (call : Call) (reply : Reply) (poll : Poll) (time : Nat) :
    (s.fire send (.wake call reply poll time)).run w =
      match poll.check s.timing.poll.maxAttempts (s.doors.door poll.moduleId).isLocked with
      | some outcome =>
        (Session.finish { s with clock := max s.clock time } call
          (.actuation (.ok ⟨reply, some outcome⟩)), w)
      | none =>
        (Session.query send { s with clock := max s.clock time } call reply poll).run w := by
  unfold Session.fire
  dsimp only [Session.Due.time]
  cases poll.check s.timing.poll.maxAttempts (s.doors.door poll.moduleId).isLocked <;> rfl

lemma fire_wake_resumed (s : Session) (w : σ) (call : Call) (reply : Reply) (poll : Poll)
    (time : Nat) : Resumed { s with clock := max s.clock time }
      ((s.fire send (.wake call reply poll time)).run w).1 call := by
  rw [fire_wake_run]
  split
  · exact finish_resumed _ call _
  · exact query_resumed send _ w call reply poll

/-- The session at the time of an alarm, which rings; no call has noticed yet. -/
def rung (s : Session) (alarm : Alarm) : Session :=
  { s with
    clock := max s.clock alarm.due
    pending := (s.pending.ring alarm).1 }.tell (s.pending.ring alarm).2

lemma sameBooks_rung (s : Session) (alarm : Alarm) :
    SameBooks { s with clock := max s.clock alarm.due } (rung s alarm) :=
  sameBooks_tell { s with clock := max s.clock alarm.due } _ _

lemma fireUntil_run (time bound : Nat) (s : Session) (w : σ) :
    (Session.fireUntil send time (bound + 1) s).run w =
      match s.nextDue? with
      | none => (s, w)
      | some due =>
        if due.time ≤ time then
          let x := (s.fire send due).run w
          (Session.fireUntil send time bound x.1).run x.2
        else (s, w) := by
  rw [Session.fireUntil]
  cases s.nextDue? with
  | none => rfl
  | some due =>
    dsimp only
    split <;> rfl

/-! ### Messages -/

lemma handle_calls (s : Session) (time : Int) (message : Message) :
    (s.handle time message).calls = s.calls ∧ (s.handle time message).called = s.called := by
  cases message with
  | feedback m id target rawAction raw =>
    unfold Session.handle
    dsimp only [Session.publish]
    have h := fun t : Session => sameBooks_tell t (t.pending.resolve id
      (.commandFeedback m id target (Reading.ofAction rawAction).status rawAction raw)).1
    refine ⟨(h _ _).calls.trans ?_, (h _ _).called.trans ?_⟩ <;> split <;> rfl
  | event m target rawEvent raw =>
    unfold Session.handle
    dsimp only [Session.publish]
    constructor <;> split <;> rfl
  | heartbeat m raw => exact ⟨rfl, rfl⟩
  | hello m raw => exact ⟨rfl, rfl⟩
  | raw raw => exact ⟨rfl, rfl⟩

/-! ### The numbers of the calls -/

/-- No two calls share a number, and each was given out. -/
structure Numbered (s : Session) : Prop where
  nodup : (s.calls.map Call.number).Nodup
  le_called : ∀ call ∈ s.calls, call.number ≤ s.called

lemma Resumed.numbered {s t : Session} {call : Call} (h : Resumed s t call) (hs : Numbered s) :
    Numbered t := by
  constructor
  · rw [h.numbers]
    exact hs.nodup
  · intro x hx
    have hmem : x.number ∈ s.calls.map Call.number := by
      rw [← h.numbers]
      exact List.mem_map_of_mem hx
    obtain ⟨y, hy, heq⟩ := List.mem_map.mp hmem
    rw [h.called, ← heq]
    exact hs.le_called y hy

lemma SameBooks.numbered {s t : Session} (h : SameBooks s t) (hs : Numbered s) : Numbered t := by
  constructor
  · rw [h.calls]
    exact hs.nodup
  · rw [h.calls, h.called]
    exact hs.le_called

lemma numbered_opened {s : Session} (hs : Numbered s) (purpose : Purpose) :
    Numbered (opened s purpose) := by
  constructor
  · unfold opened begun
    rw [List.map_append, List.nodup_append]
    refine ⟨hs.nodup, by simp, ?_⟩
    intro n hn n' hn' heq
    obtain ⟨call, hcall, rfl⟩ := List.mem_map.mp hn
    have hle := hs.le_called call hcall
    have hfresh : n' = s.called + 1 := by simpa using hn'
    omega
  · intro call hcall
    unfold opened begun at hcall ⊢
    rcases List.mem_append.mp hcall with hcall | hcall
    · exact Nat.le_succ_of_le (hs.le_called call hcall)
    · rw [List.mem_singleton.mp hcall]

end HubBridge.Proofs
