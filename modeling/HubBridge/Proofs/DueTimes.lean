import HubBridge.Proofs.FreshIds
import Mathlib.Algebra.Ring.Nat

/-!
# All that is due happens

Time passes in `advance`, which lets one thing after the other happen, at most as many as `dueBound`
says. Each takes something off that number: an alarm that rings is gone, a poll has one attempt less,
a call that learns its outcome waits no more. So nothing that was due is left when time has passed.
-/

namespace HubBridge.Proofs

/-! ### What happens next -/

lemma nextAlarm?_concat (p : Pending Party) (alarms : List Alarm) (a : Alarm) :
    { p with alarms := alarms ++ [a] }.nextAlarm? =
      match { p with alarms }.nextAlarm? with
      | none => some a
      | some b => if b.before a then some b else some a := by
  unfold Pending.nextAlarm?
  dsimp only
  rw [List.foldl_append]
  rfl

lemma due_le_of_before {a b : Alarm} (h : a.before b = true) : a.due ≤ b.due := by
  simp only [Alarm.before, Bool.or_eq_true, Bool.and_eq_true, decide_eq_true_eq, beq_iff_eq] at h
  omega

lemma due_le_of_not_before {a b : Alarm} (h : ¬a.before b = true) : b.due ≤ a.due := by
  simp only [Alarm.before, Bool.or_eq_true, Bool.and_eq_true, decide_eq_true_eq, beq_iff_eq] at h
  omega

/-- The alarm that rings next does so no later than any other. -/
lemma exists_nextAlarm?_le {p : Pending Party} {a : Alarm} (ha : a ∈ p.alarms) :
    ∃ b, p.nextAlarm? = some b ∧ b.due ≤ a.due := by
  obtain ⟨entries, alarms, nextSerial⟩ := p
  induction alarms using List.reverseRecOn with
  | nil => cases ha
  | append_singleton alarms last ih =>
    rw [nextAlarm?_concat ⟨entries, alarms ++ [last], nextSerial⟩]
    rcases List.mem_append.mp ha with ha | ha
    · obtain ⟨b, hnext, hle⟩ := ih ha
      rw [hnext]
      dsimp only
      split
      · exact ⟨b, rfl, hle⟩
      · exact ⟨last, rfl, Nat.le_trans (due_le_of_not_before (by assumption)) hle⟩
    · obtain rfl := List.mem_singleton.mp ha
      split
      · exact ⟨a, rfl, Nat.le_refl _⟩
      · rename_i b _
        split
        · exact ⟨b, rfl, due_le_of_before (by assumption)⟩
        · exact ⟨a, rfl, Nat.le_refl _⟩

lemma nextWake?_concat (s : Session) (calls : List Call) (call : Call) :
    Session.nextWake? { s with calls := calls ++ [call] } =
      match call.stage with
      | .polling reply poll time =>
        match Session.nextWake? { s with calls } with
        | none => some (.wake call reply poll time)
        | some due => if due.time ≤ time then some due else some (.wake call reply poll time)
      | _ => Session.nextWake? { s with calls } := by
  obtain ⟨number, purpose, stage⟩ := call
  unfold Session.nextWake?
  dsimp only
  rw [List.foldl_append]
  cases stage <;> rfl

lemma exists_nextWake?_le {s : Session} {call : Call} (hcall : call ∈ s.calls) {reply : Reply}
    {poll : Poll} {time : Nat} (hstage : call.stage = .polling reply poll time) :
    ∃ due, s.nextWake? = some due ∧ due.time ≤ time := by
  suffices h : ∀ calls : List Call, call ∈ calls →
      ∃ due, Session.nextWake? { s with calls } = some due ∧ due.time ≤ time from h s.calls hcall
  intro calls hcall
  induction calls using List.reverseRecOn with
  | nil => cases hcall
  | append_singleton calls last ih =>
    rw [nextWake?_concat]
    rcases List.mem_append.mp hcall with hcall | hcall
    · obtain ⟨due, hnext, hle⟩ := ih hcall
      rw [hnext]
      split
      · rename_i reply' poll' time' _
        dsimp only
        split
        · exact ⟨due, rfl, hle⟩
        · refine ⟨_, rfl, ?_⟩
          change time' ≤ time
          omega
      · exact ⟨due, rfl, hle⟩
    · obtain rfl := List.mem_singleton.mp hcall
      rw [hstage]
      dsimp only
      split
      · exact ⟨_, rfl, Nat.le_refl _⟩
      · rename_i due _
        split
        · exact ⟨due, rfl, by assumption⟩
        · exact ⟨_, rfl, Nat.le_refl _⟩

/-- What happens next does so no later than any alarm rings. -/
lemma exists_nextDue?_le_alarm {s : Session} {a : Alarm} (ha : a ∈ s.pending.alarms) :
    ∃ due, s.nextDue? = some due ∧ due.time ≤ a.due := by
  obtain ⟨b, hnext, hle⟩ := exists_nextAlarm?_le ha
  unfold Session.nextDue?
  rw [hnext]
  cases s.nextWake? with
  | none => exact ⟨_, rfl, hle⟩
  | some due =>
    dsimp only
    split
    · exact ⟨_, rfl, hle⟩
    · exact ⟨due, rfl, by omega⟩

/-- What happens next does so no later than any poll wakes. -/
lemma exists_nextDue?_le_wake {s : Session} {call : Call} (hcall : call ∈ s.calls) {reply : Reply}
    {poll : Poll} {time : Nat} (hstage : call.stage = .polling reply poll time) :
    ∃ due, s.nextDue? = some due ∧ due.time ≤ time := by
  obtain ⟨due, hnext, hle⟩ := exists_nextWake?_le hcall hstage
  unfold Session.nextDue?
  rw [hnext]
  cases s.pending.nextAlarm? with
  | none => exact ⟨due, rfl, hle⟩
  | some a =>
    dsimp only
    split
    · rename_i hearlier
      exact ⟨_, rfl, Nat.le_trans hearlier hle⟩
    · exact ⟨due, rfl, hle⟩

/-! ### What is still to happen -/

lemma dueBound_eq (s : Session) : s.dueBound = s.pending.alarms.length +
    (s.calls.map (Call.chances s.timing.poll.maxAttempts)).sum := by
  have hsum : ∀ (calls : List Call) (n : Nat),
      calls.foldl (fun n call => n + call.chances s.timing.poll.maxAttempts) n =
        n + (calls.map (Call.chances s.timing.poll.maxAttempts)).sum := by
    intro calls
    induction calls with
    | nil => exact fun n => rfl
    | cons call calls ih =>
      intro n
      rw [List.foldl_cons, ih, List.map_cons, List.sum_cons, Nat.add_assoc]
  exact hsum s.calls _

/-- A call that takes the place of another brings its chances and takes those of the other. -/
lemma dueBound_setCall {s : Session} (hs : Numbered s) {x call : Call} (hx : x ∈ s.calls)
    (hn : x.number = call.number) :
    (s.setCall call).dueBound + x.chances s.timing.poll.maxAttempts =
      s.dueBound + call.chances s.timing.poll.maxAttempts := by
  obtain ⟨before, after, hcalls, hset⟩ := hs.calls_setCall hx hn
  rw [dueBound_eq, dueBound_eq, hset, hcalls]
  simp only [List.map_append, List.map_cons, List.sum_append, List.sum_cons]
  dsimp only [Session.setCall]
  omega

lemma dueBound_finish {s : Session} (hs : Numbered s) {call : Call} (hcall : call ∈ s.calls)
    (result : CallResult) :
    (s.finish call result).dueBound + call.chances s.timing.poll.maxAttempts = s.dueBound :=
  dueBound_setCall hs hcall rfl

lemma length_alarms_resolve_le (p : Pending Party) (id : CorrelationId) (e : Event) :
    (p.resolve id e).1.alarms.length ≤ p.alarms.length := by
  unfold Pending.resolve
  cases p.get? id with
  | none => exact Nat.le_refl _
  | some entry => exact List.length_filter_le _ _

lemma length_alarms_fail_le (p : Pending Party) (id : CorrelationId) (cause : String) :
    (p.fail id cause).1.alarms.length ≤ p.alarms.length := by
  unfold Pending.fail
  cases p.get? id with
  | none => exact Nat.le_refl _
  | some entry => exact List.length_filter_le _ _

/-- An alarm that rings is set no more. -/
lemma length_alarms_ring_lt {p : Pending Party} {a : Alarm} (ha : a ∈ p.alarms) :
    (p.ring a).1.alarms.length < p.alarms.length := by
  rw [alarms_ring]
  apply List.length_filter_lt_length_iff_exists.mpr
  exact ⟨a, ha, by simp⟩

variable {σ : Type} (send : Link (StateM σ))

lemma length_alarms_reserve_le (s : Session) (request : Request) (requester : Option Party) :
    (s.reserve request requester).1.pending.alarms.length ≤
      s.pending.alarms.length + requester.toList.length := by
  unfold Session.reserve
  cases requester with
  | none => exact Nat.le_refl _
  | some party =>
    dsimp only [Pending.register]
    split
    · rename_i h
      split at h
      · cases h
      · cases h
        exact Nat.le_of_eq List.length_append
    · exact Nat.le_add_right _ _

lemma length_alarms_settle_le (s : Session) (id : CorrelationId) (cause : Option String) :
    (s.settle id cause).1.pending.alarms.length ≤ s.pending.alarms.length := by
  cases cause with
  | none => exact Nat.le_refl _
  | some cause =>
    rw [settle_lost]
    exact length_alarms_fail_le _ _ _

/-- A command sets one alarm, and none if nobody asked for it. -/
lemma dueBound_dispatch_le (s : Session) (w : σ) (request : Request) (requester : Option Party) :
    ((s.dispatch send request requester).run w).1.1.dueBound ≤
      s.dueBound + requester.toList.length := by
  have hbooks := sameBooks_dispatch send s w request requester
  have halarms : ((s.dispatch send request requester).run w).1.1.pending.alarms.length ≤
      s.pending.alarms.length + requester.toList.length := by
    have hreserve := length_alarms_reserve_le s request requester
    rw [dispatch_run]
    rcases hr : s.reserve request requester with ⟨t, command, failure | ⟨⟩⟩
    · rw [hr] at hreserve
      exact hreserve
    · rw [hr] at hreserve
      exact Nat.le_trans (length_alarms_settle_le t command.id _) hreserve
  rw [dueBound_eq, dueBound_eq, hbooks.calls, hbooks.timing]
  omega

/-- A call that asks has the attempts left that its poll has then. -/
lemma dueBound_query_le {s : Session} (hs : Numbered s) (w : σ) {call : Call}
    (hcall : call ∈ s.calls) (reply : Reply) (poll : Poll) :
    ((s.query send call reply poll).run w).1.dueBound +
        call.chances s.timing.poll.maxAttempts ≤
      s.dueBound + (s.timing.poll.maxAttempts.toNat - (poll.attempts + 1) + 1) := by
  have hbooks := sameBooks_dispatch send s w (.status poll.moduleId) none
  have hle : ((s.dispatch send (.status poll.moduleId) none).run w).1.1.dueBound ≤ s.dueBound :=
    dueBound_dispatch_le send s w (.status poll.moduleId) none
  rw [query_run]
  dsimp only
  generalize ((s.dispatch send (.status poll.moduleId) none).run w).1.1 = t at hbooks hle
  have hmem : call ∈ t.calls := by
    rw [hbooks.calls]
    exact hcall
  have hset := dueBound_setCall (hbooks.numbered hs) hmem
    (show call.number = Call.number { call with
      stage := .polling reply poll.queried (t.clock + t.timing.poll.wait) } from rfl)
  rw [hbooks.timing] at hset ⊢
  change _ = t.dueBound + (s.timing.poll.maxAttempts.toNat - (poll.attempts + 1) + 1) at hset
  omega

/-- A call that learns its outcome has less to wait for. -/
lemma dueBound_conclude_lt {s : Session} (hs : Numbered s) (w : σ) {call : Call}
    (hcall : call ∈ s.calls) (hstage : call.stage = .awaiting) (outcome : Outcome) :
    ((s.conclude send call outcome).run w).1.dueBound < s.dueBound := by
  have hchances : call.chances s.timing.poll.maxAttempts =
      s.timing.poll.maxAttempts.toNat + 2 := by
    unfold Call.chances
    rw [hstage]
  rcases conclude_run send s w call outcome with
    ⟨m, lock, reply, expected, want, -, -, -, -, h⟩ | ⟨-, h⟩
  · have hquery := dueBound_query_le send hs w hcall reply ⟨reply.moduleId, expected, want, 0⟩
    rw [h]
    dsimp only at hquery
    omega
  · have hfinish := dueBound_finish hs hcall (call.purpose.result outcome)
    rw [h]
    dsimp only
    omega

lemma dueBound_resumeAll_le {s : Session} (hs : Numbered s) (w : σ) :
    ((s.resumeAll send).run w).1.dueBound ≤ s.dueBound := by
  apply resumeAll_induction send (motive := fun _ x => x.1.dueBound ≤ s.dueBound) hs w
  · exact Nat.le_refl _
  · exact fun _ _ _ _ _ h => h
  · intro call _ t v outcome ht hcall hstage _ hle
    have hlt := dueBound_conclude_lt send ht v hcall hstage outcome
    exact Nat.le_trans (Nat.le_of_lt hlt) hle

lemma dueBound_rung_lt {s : Session} {a : Alarm} (ha : a ∈ s.pending.alarms) :
    (rung s a).dueBound < s.dueBound := by
  have hbooks := sameBooks_rung s a
  rw [dueBound_eq, dueBound_eq, hbooks.calls, hbooks.timing]
  unfold rung
  rw [(pending_tell _ _).1]
  exact Nat.add_lt_add_right (length_alarms_ring_lt ha) _

/-- Whatever happens next, less is to happen after it. -/
theorem dueBound_fire_lt {s : Session} (hs : Numbered s) (w : σ) {due : Session.Due}
    (hdue : s.nextDue? = some due) : ((s.fire send due).run w).1.dueBound < s.dueBound := by
  cases due with
  | alarm a =>
    have hnumbered := (sameBooks_rung s a).numbered ⟨hs.nodup, hs.le_called⟩
    exact Nat.lt_of_le_of_lt (dueBound_resumeAll_le send hnumbered w)
      (dueBound_rung_lt (nextDue?_eq_alarm hdue))
  | wake call reply poll time =>
    obtain ⟨hcall, hstage⟩ := nextDue?_eq_wake hdue
    have hnow : Numbered { s with clock := max s.clock time } := ⟨hs.nodup, hs.le_called⟩
    have hsame : Session.dueBound { s with clock := max s.clock time } = s.dueBound := rfl
    have hchances : call.chances s.timing.poll.maxAttempts =
        s.timing.poll.maxAttempts.toNat - poll.attempts + 1 := by
      unfold Call.chances
      rw [hstage]
    rw [fire_wake_run]
    cases hcheck : poll.check s.timing.poll.maxAttempts (s.doors.door poll.moduleId).isLocked with
    | some c =>
      have hfinish := dueBound_finish hnow hcall (.actuation (.ok ⟨reply, some c⟩))
      dsimp only at hfinish ⊢
      omega
    | none =>
      have hleft := Poll.left_of_check hcheck
      have hquery := dueBound_query_le send hnow w hcall reply poll
      dsimp only at hquery ⊢
      omega

lemma dueBound_opened (s : Session) (purpose : Purpose) :
    (opened s purpose).dueBound = s.dueBound + (s.timing.poll.maxAttempts.toNat + 2) := by
  rw [dueBound_eq, dueBound_eq]
  unfold opened
  dsimp only
  rw [List.map_append, List.sum_append]
  exact (Nat.add_assoc _ _ _).symm

/-- A call brings an alarm, a look at its outcome, and a poll. -/
lemma dueBound_call_le {s : Session} (hs : Numbered s) (w : σ) (purpose : Purpose) :
    ((s.call send purpose).run w).1.1.dueBound ≤
      s.dueBound + (s.timing.poll.maxAttempts.toNat + 3) := by
  have hbooks := sameBooks_dispatch send (opened s purpose) w purpose.request
    (some (.call (s.called + 1)))
  have hle := dueBound_dispatch_le send (opened s purpose) w purpose.request
    (some (.call (s.called + 1)))
  rw [dueBound_opened, Option.toList_some, List.length_singleton] at hle
  rw [call_run]
  dsimp only
  generalize ((opened s purpose).dispatch send purpose.request _).run w = x at hbooks hle
  obtain ⟨⟨t, result⟩, w'⟩ := x
  dsimp only at hbooks hle ⊢
  cases result with
  | ok id =>
    dsimp only
    omega
  | error failure =>
    have hmem : begun s purpose ∈ t.calls := by
      rw [hbooks.calls]
      exact List.mem_append_right _ (List.mem_singleton.mpr rfl)
    have hfinish := dueBound_finish (hbooks.numbered (numbered_opened hs purpose)) hmem
      (purpose.result (.error failure))
    dsimp only
    omega

lemma dueBound_handle_le (s : Session) (time : Int) (message : Message) :
    (s.handle time message).dueBound ≤ s.dueBound := by
  have halarms : (replied s.pending message).1.alarms.length ≤ s.pending.alarms.length := by
    unfold replied
    cases replyEvent message with
    | none => exact Nat.le_refl _
    | some reply => exact length_alarms_resolve_le _ _ _
  rw [handle_eq, dueBound_eq, dueBound_eq]
  exact Nat.add_le_add_right halarms _

/-- As many things as are counted are enough: what is left is not due yet. -/
theorem fireUntil_rested {s : Session} (hs : Numbered s) (w : σ) (time bound : Nat)
    (hbound : s.dueBound ≤ bound) (due : Session.Due)
    (hdue : ((Session.fireUntil send time bound s).run w).1.nextDue? = some due) :
    time < due.time := by
  induction bound generalizing s w with
  | zero =>
    have hlt : _ < s.dueBound := dueBound_fire_lt send hs w hdue
    omega
  | succ bound ih =>
    rw [fireUntil_run] at hdue
    cases hnext : s.nextDue? with
    | none =>
      rw [hnext] at hdue
      dsimp only at hdue
      rw [hnext] at hdue
      cases hdue
    | some first =>
      rw [hnext] at hdue
      dsimp only at hdue
      by_cases hle : first.time ≤ time
      · rw [if_pos hle] at hdue
        have hlt := dueBound_fire_lt send hs w hnext
        exact ih ((fire_moves send hs w hnext).1.numbered hs) _ (by omega) hdue
      · rw [if_neg hle, hnext] at hdue
        cases hdue
        omega

/-- No alarm and no poll is due any more. -/
structure Rested (s : Session) : Prop where
  rung : ∀ alarm ∈ s.pending.alarms, s.clock < alarm.due
  woke : ∀ call ∈ s.calls, ∀ reply poll wake, call.stage = .polling reply poll wake →
    s.clock < wake

/-- When time has passed, all that was due has happened. -/
theorem advance_rested {s : Session} (hs : Numbered s) (w : σ) (ms : Nat) :
    Rested ((s.advance send ms).run w).1 := by
  have hleft := fireUntil_rested send hs w (s.clock + ms) s.dueBound (Nat.le_refl _)
  constructor
  · intro alarm halarm
    obtain ⟨due, hnext, hle⟩ := exists_nextDue?_le_alarm halarm
    exact Nat.lt_of_lt_of_le (hleft due hnext) hle
  · intro call hcall reply poll wake hstage
    obtain ⟨due, hnext, hle⟩ := exists_nextDue?_le_wake hcall hstage
    exact Nat.lt_of_lt_of_le (hleft due hnext) hle

end HubBridge.Proofs
