import HubBridge.Proofs.DueTimes
import HubBridge.Proofs.Histories
import HubBridge.Proofs.TurnEffects

/-!
# A session comes to rest

After every step of a history nothing is left to do at that time: no alarm is due, and no call waits
that has been told its outcome. A call is only told with its own entry, which is where the ids come in:
while they suffice, no other command ends that entry. Each input is granted so many commands that they
pay for all that follows from it, which bounds the commands of a history by its length.
-/

namespace HubBridge.Proofs

variable {σ : Type} {send : Link (StateM σ)}

/-- Nothing is left to do at this time: no command is on its way out, no alarm is due, and no call
waits that has been told its outcome. -/
structure Quiet (d : Desk σ) : Prop where
  landed : d.flight = none
  rung : ∀ alarm ∈ d.session.pending.alarms, d.session.clock < alarm.due
  looked : ∀ call ∈ d.session.calls, call.stage = .awaiting → outcomeAt d call.number = none

/-- Calls that wait have been told nothing, but for these. -/
def LookedBut (left : List Call) (s : Session) : Prop :=
  ∀ call ∈ s.calls, call.stage = .awaiting →
    (s.sinks.get? (.call call.number)).bind Sink.outcome? = none ∨ call ∈ left

lemma LookedBut.of_slots {left : List Call} {s t : Session} (h : LookedBut left s)
    (hcalls : ∀ call ∈ t.calls, call.stage = .awaiting → call ∈ s.calls ∧
      t.sinks.get? (.call call.number) = s.sinks.get? (.call call.number)) :
    LookedBut left t := by
  intro call hcall hstage
  obtain ⟨hmem, hslot⟩ := hcalls call hcall hstage
  rw [hslot]
  exact h call hmem hstage

/-- Sending a command that nobody or somebody else asked for tells a call nothing. -/
lemma slot_dispatch {s : Session} (hfree : s.pending.contains s.nextId = false) (w : σ)
    (request : Request) {requester : Option Party} {n : Nat} (hother : requester ≠ some (.call n)) :
    ((s.dispatch send request requester).run w).1.1.sinks.get? (.call n) =
      s.sinks.get? (.call n) := by
  rw [dispatch_run, reserve_eq hfree]
  dsimp only
  cases ((send (request.toCommand s.nextId).encode).run w).1 with
  | none => rfl
  | some cause =>
    rw [settle_lost]
    apply (fail_takesOut _ _ _).slot_same
    intro entry hentry hcaller
    rw [get?_enrolled_free (get?_eq_none hfree)] at hentry
    obtain ⟨party, hparty, rfl⟩ := Option.map_eq_some_iff.mp ((if_pos rfl).symm.trans hentry)
    obtain rfl : party = .call n := hcaller
    exact hother hparty

/-- A call that has looked waits no more, and the others wait as they did. -/
lemma LookedBut.goOn {call next : Call} {left : List Call} {s t : Session}
    (h : LookedBut (call :: left) s) (hcalls : t.calls = (s.setCall next).calls)
    (hnumber : next.number = call.number) (hstage : next.stage ≠ .awaiting)
    (hslot : ∀ n, n ≠ call.number → t.sinks.get? (.call n) = s.sinks.get? (.call n)) :
    LookedBut left t := by
  intro x hx hwaits
  rw [hcalls] at hx
  rcases mem_calls_setCall hx with rfl | ⟨hmem, hne⟩
  · exact absurd hwaits hstage
  · rw [hnumber] at hne
    rw [hslot _ hne]
    rcases h x hmem hwaits with hnone | hleft
    · exact .inl hnone
    · rcases List.mem_cons.mp hleft with rfl | hleft
      · exact absurd rfl hne
      · exact .inr hleft

lemma LookedBut.finish {call : Call} {left : List Call} {s : Session}
    (h : LookedBut (call :: left) s) (result : CallResult) :
    LookedBut left (s.finish call result) := by
  have hcalls : (s.finish call result).calls =
      (s.setCall { call with stage := .finished result }).calls := rfl
  apply h.goOn hcalls rfl
  · intro hstage
    cases hstage
  · intro n hne
    exact Sinks.get?_erase_of_ne _ fun heq => hne (Party.call.inj heq).symm

lemma LookedBut.query {call : Call} {left : List Call} {s : Session}
    (h : LookedBut (call :: left) s) (hfree : s.pending.contains s.nextId = false) (w : σ)
    (reply : Reply) (poll : Poll) :
    LookedBut left ((s.query send call reply poll).run w).1 := by
  have hbooks := sameBooks_dispatch send s w (.status poll.moduleId) none
  have hslot : ∀ n, ((s.dispatch send (.status poll.moduleId) none).run w).1.1.sinks.get? (.call n) =
      s.sinks.get? (.call n) :=
    fun n => slot_dispatch hfree w _ (Option.some_ne_none _).symm
  rw [query_run]
  dsimp only
  generalize ((s.dispatch send (.status poll.moduleId) none).run w).1.1 = t at hbooks hslot
  generalize t.clock + t.timing.poll.wait = wake
  have hcalls : (t.setCall { call with stage := .polling reply poll.queried wake }).calls =
      (s.setCall { call with stage := .polling reply poll.queried wake }).calls := by
    dsimp only [Session.setCall]
    rw [hbooks.calls]
  apply h.goOn hcalls rfl
  · intro hstage
    cases hstage
  · exact fun n _ => hslot n

lemma LookedBut.conclude {call : Call} {left : List Call} {s : Session}
    (h : LookedBut (call :: left) s) (hfree : s.pending.contains s.nextId = false) (w : σ)
    (outcome : Outcome) : LookedBut left ((s.conclude send call outcome).run w).1 := by
  rcases conclude_run send s w call outcome with
    ⟨m, lock, reply, expected, want, -, -, -, -, heq⟩ | ⟨-, heq⟩
  · rw [heq]
    exact h.query hfree w reply _
  · rw [heq]
    exact h.finish _

lemma LookedBut.weaken {left : List Call} {s : Session} (h : LookedBut left s) (call : Call) :
    LookedBut (call :: left) s :=
  fun x hx hwaits => (h x hx hwaits).imp_right (List.mem_cons_of_mem call)

lemma lookedBut_calls (s : Session) : LookedBut s.calls s := fun _ hcall _ => .inr hcall

/-! ### Along the moves of a session -/

lemma sinks_dispatch_ok {s : Session} (hfree : s.pending.contains s.nextId = false) {w : σ}
    {request : Request} {requester : Option Party} {id : CorrelationId}
    (h : ((s.dispatch send request requester).run w).1.2 = .ok id) :
    ((s.dispatch send request requester).run w).1.1.sinks = s.sinks := by
  rw [dispatch_run, reserve_eq hfree] at h ⊢
  dsimp only at h ⊢
  cases hcause : ((send (request.toCommand s.nextId).encode).run w).1 with
  | none => rfl
  | some cause =>
    rw [hcause] at h
    cases h

lemma LookedBut.dispatch {s : Session} (h : LookedBut left s)
    (hfree : s.pending.contains s.nextId = false) (w : σ) (request : Request)
    {requester : Option Party} (hother : ∀ n, requester ≠ some (.call n)) :
    LookedBut left ((s.dispatch send request requester).run w).1.1 := by
  apply h.of_slots
  intro call hcall _
  rw [(sameBooks_dispatch send s w request requester).calls] at hcall
  exact ⟨hcall, slot_dispatch hfree w request (hother call.number)⟩

/-- A call that begins waits for something that it is not told yet, or is at its end. -/
lemma LookedBut.call {s : Session} (h : LookedBut [] s) (hs : Numbered s)
    (hfree : s.pending.contains s.nextId = false) (w : σ) (purpose : Purpose) :
    LookedBut [] ((s.call send purpose).run w).1.1 := by
  have hbooks := sameBooks_dispatch send (opened s purpose) w purpose.request
    (some (.call (s.called + 1)))
  have hslot : ∀ n, n ≠ s.called + 1 →
      (((opened s purpose).dispatch send purpose.request (some (.call (s.called + 1)))).run
        w).1.1.sinks.get? (.call n) = s.sinks.get? (.call n) := by
    intro n hne
    have hother : some (Party.call (s.called + 1)) ≠ some (.call n) :=
      fun heq => hne (Party.call.inj (Option.some.inj heq)).symm
    rw [slot_dispatch (s := opened s purpose) hfree w purpose.request hother]
    exact Sinks.get?_insert_of_ne _ (fun heq => hother (congrArg some heq)) _
  have hsinks : ∀ id, (((opened s purpose).dispatch send purpose.request
      (some (.call (s.called + 1)))).run w).1.2 = .ok id →
      (((opened s purpose).dispatch send purpose.request (some (.call (s.called + 1)))).run
        w).1.1.sinks = (opened s purpose).sinks :=
    fun id => sinks_dispatch_ok (s := opened s purpose) hfree
  rw [call_run]
  dsimp only
  generalize ((opened s purpose).dispatch send purpose.request _).run w = x at hbooks hslot hsinks
  obtain ⟨⟨t, result⟩, w'⟩ := x
  dsimp only at hbooks hslot hsinks ⊢
  have hbut : LookedBut [begun s purpose] t := by
    intro call hcall hwaits
    rw [hbooks.calls] at hcall
    rcases List.mem_append.mp hcall with hcall | hcall
    · have hle := hs.le_called call hcall
      rw [hslot call.number (by omega)]
      exact (h call hcall hwaits).imp_right (nomatch ·)
    · exact .inr hcall
  cases result with
  | error failure => exact hbut.finish _
  | ok id =>
    intro call hcall hwaits
    rcases hbut call hcall hwaits with hnone | hnew
    · exact .inl hnone
    · rw [List.mem_singleton.mp hnew, hsinks id rfl]
      left
      rw [show (opened s purpose).sinks.get? (.call (begun s purpose).number) = some .oneShot from
        Sinks.get?_insert_self _ _ _]
      rfl

variable (send) in
/-- The history led to the session, and it began no more commands, and left no more to do, than are
granted. If that is fewer than there are ids, no call but these waits that has been told its outcome. -/
structure Tended (timing : Timing) (world : σ) (inputs : List Session.Input) (granted : Nat)
    (left : List Call) (x : Session × σ) : Prop where
  run : ∃ log, Recorded send timing world inputs ⟨x.1, x.2, none, log⟩ ∧
    (issued log).length + x.1.dueBound ≤ granted
  timing : x.1.timing = timing
  numbered : Numbered x.1
  looked : granted < UInt64.size - 1 → LookedBut left x.1

section Tended

variable {timing : Timing} {world : σ} {inputs : List Session.Input} {granted : Nat}
  {left : List Call}

lemma Tended.not_contains {x : Session × σ} (h : Tended send timing world inputs granted left x)
    (hroom : granted < UInt64.size - 1) : x.1.pending.contains x.1.nextId = false := by
  obtain ⟨log, hrecorded, hspent⟩ := h.run
  have hids : IdsSuffice log := by
    unfold IdsSuffice
    omega
  exact (Turns.orderly hrecorded.turns hids).not_contains

/-- A move that leaves less to do, or is granted more, and its place in the history. -/
lemma Tended.step {more : List Session.Input} {left' : List Call} {x y : Session × σ}
    (h : Tended send timing world inputs granted left x) (hmove : Move send x y)
    (hrecorded : ∀ log, Recorded send timing world inputs ⟨x.1, x.2, none, log⟩ →
      ∃ later, Recorded send timing world more ⟨y.1, y.2, none, log ++ later⟩ ∧
        (issued later).length ≤ 1) (extra : Nat) (hcost : y.1.dueBound < x.1.dueBound + extra)
    (hlooked : x.1.pending.contains x.1.nextId = false → LookedBut left x.1 →
      LookedBut left' y.1) : Tended send timing world more (granted + extra) left' y := by
  refine ⟨?_, hmove.timing.trans h.timing, hmove.numbered h.numbered, ?_⟩
  · obtain ⟨log, hlog, hspent⟩ := h.run
    obtain ⟨later, hlater, hfew⟩ := hrecorded log hlog
    refine ⟨log ++ later, hlater, ?_⟩
    rw [issued_append, List.length_append]
    omega
  · intro hroom
    have hearlier : granted < UInt64.size - 1 := by omega
    exact hlooked (h.not_contains hearlier) (h.looked hearlier)

lemma Tended.move {left' : List Call} {x y : Session × σ}
    (h : Tended send timing world inputs granted left x) (hmove : Move send x y) (extra : Nat)
    (hcost : y.1.dueBound < x.1.dueBound + extra)
    (hlooked : x.1.pending.contains x.1.nextId = false → LookedBut left x.1 →
      LookedBut left' y.1) : Tended send timing world inputs (granted + extra) left' y :=
  h.step hmove (fun _ hlog => hlog.move hmove) extra hcost hlooked

/-- An input that begins no call counts from when it is put in. -/
lemma Tended.note {x : Session × σ} (h : Tended send timing world inputs granted left x)
    {input : Session.Input} (hcall : ∀ purpose, input ≠ .call purpose) :
    Tended send timing world (inputs ++ [input]) granted left x := by
  obtain ⟨log, hrecorded, hspent⟩ := h.run
  exact ⟨⟨log, hrecorded.note hcall, hspent⟩, h.timing, h.numbered, h.looked⟩

lemma Tended.mono {x : Session × σ} (h : Tended send timing world inputs granted left x) {more : Nat}
    (hle : granted ≤ more) : Tended send timing world inputs more left x := by
  obtain ⟨log, hrecorded, hspent⟩ := h.run
  exact ⟨⟨log, hrecorded, Nat.le_trans hspent hle⟩, h.timing, h.numbered,
    fun hroom => h.looked (Nat.lt_of_le_of_lt hle hroom)⟩

lemma Tended.resumeAll {s : Session} {w : σ} (h : Tended send timing world inputs granted left (s, w)) :
    Tended send timing world inputs granted [] ((s.resumeAll send).run w) := by
  apply resumeAll_induction send
    (motive := fun calls x => Tended send timing world inputs granted calls x) h.numbered w
  · exact ⟨h.run, h.timing, h.numbered, fun _ => lookedBut_calls s⟩
  · intro call calls t v hidle ht
    refine ⟨ht.run, ht.timing, ht.numbered, ?_⟩
    intro hroom x hx hwaits
    rcases ht.looked hroom x hx hwaits with hnone | hleft
    · exact .inl hnone
    · rcases List.mem_cons.mp hleft with rfl | hleft
      · exact .inl (hidle hwaits)
      · exact .inr hleft
  · intro call calls t v outcome hnumbered hcall hstage houtcome ht
    apply ht.move (.resume t v call outcome hcall hstage houtcome) 0
    · exact dueBound_conclude_lt send hnumbered v hcall hstage outcome
    · intro hfree hbut
      exact hbut.conclude hfree v outcome

lemma Tended.fire {s : Session} {w : σ} (h : Tended send timing world inputs granted [] (s, w))
    {due : Session.Due} (hdue : s.nextDue? = some due) :
    Tended send timing world inputs granted [] ((s.fire send due).run w) := by
  cases due with
  | alarm a =>
    have hrung : Tended send timing world inputs granted (rung s a).calls (rung s a, w) :=
      h.move (.ring s w a hdue) 0 (dueBound_rung_lt (nextDue?_eq_alarm hdue))
        fun _ _ => lookedBut_calls (rung s a)
    exact hrung.resumeAll
  | wake call reply poll time =>
    apply h.move (.wake s w call reply poll time hdue) 0
    · exact dueBound_fire_lt send h.numbered w hdue
    · intro hfree hlooked
      have hnow : LookedBut [call] { s with clock := max s.clock time } := hlooked.weaken call
      rw [fire_wake_run]
      cases poll.check s.timing.poll.maxAttempts (s.doors.door poll.moduleId).isLocked with
      | some c => exact hnow.finish _
      | none => exact hnow.query hfree w reply poll

lemma Tended.fireUntil {s : Session} {w : σ} (h : Tended send timing world inputs granted [] (s, w))
    (time bound : Nat) :
    Tended send timing world inputs granted [] ((Session.fireUntil send time bound s).run w) := by
  induction bound generalizing s w with
  | zero => exact h
  | succ bound ih =>
    rw [fireUntil_run]
    cases hdue : s.nextDue? with
    | none => exact h
    | some due =>
      dsimp only
      by_cases hle : due.time ≤ time
      · rw [if_pos hle]
        exact ih (h.fire hdue)
      · rw [if_neg hle]
        exact h

lemma Tended.advance {s : Session} {w : σ} (h : Tended send timing world inputs granted [] (s, w))
    (ms : Nat) : Tended send timing world inputs granted [] ((s.advance send ms).run w) := by
  have hfired := h.fireUntil (s.clock + ms) s.dueBound
  have hclock := (fireUntil_moves send h.numbered w s.dueBound (Nat.le_add_right s.clock ms)).2
  -- at last the clock moves on, which takes no more of what is granted
  obtain ⟨log, hrecorded, hspent⟩ := hfired.run
  have hpassed := hrecorded.go (.single (.pass _ (s.clock + ms) hclock)) (List.append_nil _).symm
    fun _ _ hmem => nomatch hmem
  exact ⟨⟨log, hpassed, hspent⟩, hfired.timing,
    ⟨hfired.numbered.nodup, hfired.numbered.le_called⟩, hfired.looked⟩

lemma Tended.hear {s : Session} {w : σ} (h : Tended send timing world inputs granted left (s, w))
    (time : Int) (bytes : ByteArray) (hlistens : s.listening = true) :
    Tended send timing world (inputs ++ [.datagram time bytes]) granted
      (s.handle time (.ofDatagram bytes)).calls (s.handle time (.ofDatagram bytes), w) := by
  obtain ⟨hcalls, hcalled⟩ := handle_calls s time (.ofDatagram bytes)
  refine ⟨?_, ?_, ⟨?_, ?_⟩, fun _ => lookedBut_calls _⟩
  · obtain ⟨log, hrecorded, hspent⟩ := h.run
    have hle := dueBound_handle_le s time (.ofDatagram bytes)
    dsimp only at hrecorded hspent ⊢
    refine ⟨log ++ [.heard time bytes], hrecorded.hear hlistens time bytes, ?_⟩
    rw [issued_append, List.length_append]
    exact Nat.le_trans (Nat.add_le_add_left hle _) hspent
  · dsimp only
    rw [handle_eq]
    exact h.timing
  · dsimp only
    rw [hcalls]
    exact h.numbered.nodup
  · dsimp only
    rw [hcalls, hcalled]
    exact h.numbered.le_called

/-- Whatever is put in, a call is granted the most: its command, its alarm, and its poll. -/
lemma Tended.act {s : Session} {w : σ} (h : Tended send timing world inputs granted [] (s, w))
    (hplace : (s, w) = reached send timing world inputs) (input : Session.Input) :
    Tended send timing world (inputs ++ [input]) (granted + (timing.poll.maxAttempts.toNat + 4)) []
      (((s.act send input).run w).1.1, ((s.act send input).run w).2) := by
  have hnoted : (∀ purpose, input ≠ .call purpose) →
      Tended send timing world (inputs ++ [input]) granted [] (s, w) := h.note
  cases input with
  | datagram time bytes =>
    apply Tended.mono _ (Nat.le_add_right _ _)
    unfold Session.act Session.receive
    by_cases hlistens : s.listening = true
    · simp only [hlistens, if_true]
      exact (h.hear time bytes hlistens).resumeAll
    · simp only [hlistens]
      exact hnoted nofun
  | connect =>
    apply (hnoted nofun).move (.connect s w) _ (Nat.lt_add_of_pos_right (Nat.succ_pos _))
    intro _ hlooked
    apply hlooked.of_slots
    intro call hcall _
    exact ⟨hcall, Sinks.get?_insert_of_ne _ (by simp) _⟩
  | disconnect id =>
    apply (hnoted nofun).move (.disconnect s w id) _ (Nat.lt_add_of_pos_right (Nat.succ_pos _))
    intro _ hlooked
    apply hlooked.of_slots
    intro call hcall _
    exact ⟨hcall, Sinks.get?_erase_of_ne _ (by simp)⟩
  | submit id request =>
    apply (hnoted nofun).move (.submit s w request (some id))
    · have hle := dueBound_dispatch_le send s w request (some (.observer id))
      rw [Option.toList_some, List.length_singleton] at hle
      dsimp only [Option.map_some]
      omega
    · intro hfree hlooked
      exact hlooked.dispatch hfree w request (by simp)
  | untracked request =>
    apply (hnoted nofun).move (.submit s w request none)
    · have hle := dueBound_dispatch_le send s w request none
      rw [Option.toList_none, List.length_nil] at hle
      dsimp only [Option.map_none]
      omega
    · intro hfree hlooked
      exact hlooked.dispatch hfree w request (by simp)
  | raw text =>
    exact (hnoted nofun).move (.write s w text) _ (Nat.lt_add_of_pos_right (Nat.succ_pos _))
      fun _ hlooked => hlooked
  | call purpose =>
    apply h.step (.call s w purpose) fun log hlog => hlog.call hplace purpose
    · have hle := dueBound_call_le send h.numbered w purpose
      rw [show s.timing = timing from h.timing] at hle
      dsimp only at hle ⊢
      omega
    · intro hfree hlooked
      exact hlooked.call h.numbered hfree w purpose
  | advance ms => exact ((hnoted nofun).advance ms).mono (Nat.le_add_right _ _)
  | shutdown =>
    exact (hnoted nofun).move (.shutdown s w) _ (Nat.lt_add_of_pos_right (Nat.succ_pos _))
      fun _ hlooked => hlooked

end Tended

lemma tended_start (timing : Timing) (world : σ) :
    Tended send timing world [] 0 [] (.start timing, world) where
  run := ⟨[], recorded_start timing world, Nat.le_refl _⟩
  timing := rfl
  numbered := numbered_start timing
  looked _ _ hcall := nomatch hcall

/-! ### Rest -/

/-- After every history nothing that was due is left. -/
theorem reached_rested (timing : Timing) (world : σ) (inputs : List Session.Input) :
    Rested (reached send timing world inputs).1 := by
  induction inputs using List.reverseRecOn with
  | nil =>
    constructor
    · intro alarm halarm
      cases halarm
    · intro call hcall
      cases hcall
  | append_singleton inputs input _ =>
    have hnumbered := reached_numbered send timing world inputs
    have hacted := (act_moves send hnumbered (reached send timing world inputs).2 input).numbered
      (heard_numbered hnumbered input)
    rw [reached_concat]
    exact advance_rested send hacted _ 0

variable (send) in
/-- A history begins only so many commands. While they are fewer than there are ids, no call waits at
its end that has been told its outcome. -/
theorem reached_quiet (timing : Timing) (world : σ) (inputs : List Session.Input) :
    let x := reached send timing world inputs
    let granted := inputs.length * (timing.poll.maxAttempts.toNat + 4)
    ∃ log, Recorded send timing world inputs ⟨x.1, x.2, none, log⟩ ∧
      (issued log).length ≤ granted ∧
      (granted < UInt64.size - 1 → Quiet ⟨x.1, x.2, none, log⟩) := by
  have htended : Tended send timing world inputs
      (inputs.length * (timing.poll.maxAttempts.toNat + 4)) [] (reached send timing world inputs) := by
    induction inputs using List.reverseRecOn with
    | nil =>
      rw [List.length_nil, Nat.zero_mul]
      exact tended_start timing world
    | append_singleton inputs input ih =>
      rw [reached_concat, List.length_append, List.length_singleton, Nat.succ_mul]
      exact (ih.act rfl input).advance 0
  obtain ⟨log, hrecorded, hspent⟩ := htended.run
  refine ⟨log, hrecorded, Nat.le_trans (Nat.le_add_right _ _) hspent, ?_⟩
  intro hroom
  refine ⟨rfl, (reached_rested timing world inputs).rung, ?_⟩
  intro call hcall hwaits
  exact (htended.looked hroom call hcall hwaits).resolve_right (nomatch ·)

end HubBridge.Proofs
