import HubBridge.Proofs.OneResult

/-!
# What a history gives its calls

After every input of a history nothing due is left to do. So there each plain call has returned just
what the log tells of its command, and if it still waits, the log tells nothing and the time of the call
is not up. How long a history takes is told by its inputs, and so is who could have replied.
-/

namespace HubBridge.Proofs

variable {σ : Type} {send : Link (StateM σ)}

/-! ### The time of a history -/

def duration : Session.Input → Nat
  | .advance ms => ms
  | .datagram .. | .connect | .disconnect _ | .submit .. | .untracked _ | .raw _ | .call _
  | .shutdown => 0

/-- How long the inputs take one after the other. -/
def elapsed (inputs : List Session.Input) : Nat := (inputs.map duration).sum

lemma elapsed_append (inputs more : List Session.Input) :
    elapsed (inputs ++ more) = elapsed inputs + elapsed more := by
  unfold elapsed
  rw [List.map_append, List.sum_append]

variable (send) in
lemma clock_advance (s : Session) (w : σ) (ms : Nat) :
    ((s.advance send ms).run w).1.clock = s.clock + ms := by
  unfold Session.advance
  rw [StateT.run_bind]
  rfl

variable (send) in
lemma clock_act {s : Session} (hs : Numbered s) (w : σ) (input : Session.Input) :
    ((s.act send input).run w).1.1.clock = s.clock + duration input := by
  cases input with
  | datagram time bytes =>
    have hheard := heard_numbered hs (.datagram time bytes)
    have hclock := (resumeAll_moves send hheard w).2
    have hhandled : (s.handle time (.ofDatagram bytes)).clock = s.clock := by rw [handle_eq]
    unfold Session.act Session.receive
    unfold heard at hclock
    dsimp only at hclock ⊢
    by_cases hl : s.listening = true
    · simp only [hl, if_true] at hclock ⊢
      exact hclock.trans hhandled
    · simp only [hl]
      rfl
  | connect => rfl
  | disconnect id => rfl
  | submit id request => exact (sameBooks_dispatch send s w request (some (.observer id))).clock
  | untracked request => exact (sameBooks_dispatch send s w request none).clock
  | raw text => rfl
  | call purpose =>
    obtain ⟨t, hbooks, ht | ⟨failure, ht⟩⟩ := call_begins send s w purpose
    · exact (congrArg Session.clock ht).trans hbooks.clock
    · exact (congrArg Session.clock ht).trans hbooks.clock
  | advance ms => exact clock_advance send s w ms
  | shutdown => rfl

lemma clock_reached (timing : Timing) (world : σ) (inputs : List Session.Input) :
    (reached send timing world inputs).1.clock = elapsed inputs := by
  induction inputs using List.reverseRecOn with
  | nil => rfl
  | append_singleton inputs input ih =>
    rw [reached_concat, elapsed_append, ← ih]
    exact (clock_advance send _ _ 0).trans
      (clock_act send (reached_numbered send timing world inputs) _ input)

/-- What a call finds on the clock when it begins, and how long it was since. -/
lemma clock_since (timing : Timing) (world : σ) (before : List Session.Input) (purpose : Purpose)
    (after : List Session.Input) :
    (reached send timing world (before ++ .call purpose :: after)).1.clock =
      (reached send timing world before).1.clock + elapsed after := by
  rw [clock_reached, clock_reached, elapsed_append]
  exact congrArg _ (Nat.zero_add _)

lemma timing_reached (timing : Timing) (world : σ) (inputs : List Session.Input) :
    (reached send timing world inputs).1.timing = timing := by
  refine reached_induction (motive := fun x => x.1.timing = timing) rfl ?_ ?_ inputs
  · intro s w time bytes _ h
    dsimp only
    rw [handle_eq]
    exact h
  · intro x y hmove h
    exact hmove.timing.trans h

/-! ### The results -/

/-- Where a plain call stands of whose command so much is known. -/
def stageFor : Option Outcome → CallStage
  | none => .awaiting
  | some outcome => .finished (.reply outcome)

lemma stageFor_verdict {request : Request} {number : Nat} {id : CorrelationId} {deadline : Nat}
    {d : Desk σ} {later : List Occurrence} {stage : CallStage}
    (h : OneResult send request number id deadline d later stage) (hquiet : Quiet d) :
    stage = stageFor (verdict request.moduleId id later) := by
  rcases h.result with rfl | ⟨outcome, hverdict, rfl⟩
  · rw [(h.returns hquiet rfl).1]
    rfl
  · rw [hverdict]
    rfl

variable (send) in
/-- What a plain call has from a history that led to `d`, if it began at `x`, was followed by `after`,
and `later` has occurred since. -/
structure Served (timing : Timing) (request : Request) (x : Session) (after : List Session.Input)
    (d : Desk σ) (later : List Occurrence) : Prop where
  /-- It has returned what is known of its command, and waits only if nothing is. -/
  result : OneResult send request (x.called + 1) x.nextId (x.clock + timing.replyTimeout) d later
    (stageFor (verdict request.moduleId x.nextId later))
  /-- It waits no longer than its time. -/
  inTime : timing.replyTimeout ≤ elapsed after →
    (verdict request.moduleId x.nextId later).isSome = true
  /-- A reply comes from the hub, after the call has begun. -/
  reply : ∀ reply, verdict request.moduleId x.nextId later = some (.ok reply) →
    ∃ time bytes, .datagram time bytes ∈ after ∧
      answer x.nextId (.ofDatagram bytes) = some (.ok reply)

/-- A call is served wherever nothing due is left to do. -/
lemma Began.served {timing : Timing} {world : σ} {before after : List Session.Input}
    {request : Request} {d e : Desk σ} {later : List Occurrence}
    (h : Began send timing world before (.command request) after d e later)
    (hreached : Turns send (.start timing world) e) (hids : IdsSuffice e.log) (hquiet : Quiet e)
    (hclock : e.session.clock = (reached send timing world before).1.clock + elapsed after) :
    Served send timing request (reached send timing world before).1 after e later := by
  obtain ⟨later', stage, hlog, hstands, hid⟩ :=
    Asked.stands_after h.earlier h.free (.command request) h.turns hids
  obtain rfl : later = later' := List.append_cancel_left (h.log.symm.trans hlog)
  have hone := hstands.oneResult hreached hids hid
  obtain rfl := stageFor_verdict hone hquiet
  have hsession : d.session = (reached send timing world before).1 := congrArg Prod.fst h.place
  rw [hsession, timing_reached] at hone
  refine ⟨hone, ?_, ?_⟩
  · intro htime
    by_contra hnone
    rw [Bool.not_eq_true, Option.isSome_eq_false_iff, Option.isNone_iff_eq_none] at hnone
    have hstill := (hone.returns hquiet (by rw [hnone]; rfl)).2
    omega
  · intro reply hreply
    obtain ⟨time, bytes, hmem, hanswer⟩ := heard_of_verdict hreply
    exact ⟨time, bytes, h.heard time bytes hmem, hanswer⟩

/-- In every history, and by the one log of it, each plain call is served, as long as the history is too
short to use up the ids. -/
theorem plain_calls_served (timing : Timing) (world : σ) (inputs : List Session.Input)
    (hroom : inputs.length * (timing.poll.maxAttempts.toNat + 4) < UInt64.size - 1) :
    let y := reached send timing world inputs
    ∃ log, Turns send (.start timing world) ⟨y.1, y.2, none, log⟩ ∧
      ∀ before request after, inputs = before ++ .call (.command request) :: after →
        ∃ d later,
          Began send timing world before (.command request) after d ⟨y.1, y.2, none, log⟩ later ∧
          Served send timing request (reached send timing world before).1 after
            ⟨y.1, y.2, none, log⟩ later := by
  obtain ⟨log, hrecorded, hfew, hquiet⟩ := reached_quiet send timing world inputs
  have hids : IdsSuffice log := Nat.lt_of_le_of_lt hfew hroom
  refine ⟨log, hrecorded.turns, ?_⟩
  intro before request after hsplit
  obtain ⟨d, later, hbegan⟩ := hrecorded.calls before (.command request) after hsplit
  refine ⟨d, later, hbegan, hbegan.served hrecorded.turns hids (hquiet hroom) ?_⟩
  rw [hsplit]
  exact clock_since timing world before (.command request) after

-- a reply that comes when the time is up is too late
example : (reached (Wire.link fun _ => none) .default .idle
    [.call (.command (.status ⟨"D1"⟩)), .advance 5000,
      .datagram 0 "D1 FEEDBACK 1 D0 STATUS_LOCKED".toUTF8]).1.calls =
    [⟨1, .command (.status ⟨"D1"⟩), .finished (.reply (.error (.timeout ⟨"D1"⟩ .first)))⟩] := by
  decide +kernel

end HubBridge.Proofs
