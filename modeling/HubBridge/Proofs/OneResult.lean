import HubBridge.Proofs.CallStanding
import HubBridge.Proofs.Rest

/-!
# Every call gets one result

A call has one result, which is what the log tells of its command, and has it as soon as nothing due
is left to do. Its id is free by then, and no failure is told but that its datagram was lost or that
its time was up.
-/

namespace HubBridge.Proofs

variable {σ : Type} {send : Link (StateM σ)}

variable (send) in
/-- Turns that take no time and begin no command lead from one desk to the other. -/
structure AtOnce (d e : Desk σ) : Prop where
  turns : Turns send d e
  clock : e.session.clock = d.session.clock
  issued : issued e.log = issued d.log

lemma AtOnce.trans {d e x : Desk σ} (h : AtOnce send d e) (h' : AtOnce send e x) :
    AtOnce send d x :=
  ⟨h.turns.trans h'.turns, h'.clock.trans h.clock, h'.issued.trans h.issued⟩

lemma AtOnce.idsSuffice {d e : Desk σ} (h : AtOnce send d e) (hids : IdsSuffice d.log) :
    IdsSuffice e.log := by
  unfold IdsSuffice at hids ⊢
  rw [h.issued]
  exact hids

namespace Asked

variable {a : Asked} {d : Desk σ} {later : List Occurrence} {stage : CallStage}

/-- The call is there once. -/
lemma Standing.once (h : a.Standing d later stage) (ht : Tidy d) :
    d.session.calls.filter (fun call => call.number = a.number) = [a.call stage] := by
  obtain ⟨before, after, hcalls, hothers⟩ := ht.numbered.split h.call
  have hnone : (before ++ after).filter (fun call => call.number = a.number) = [] := by
    apply List.filter_eq_nil_iff.mpr
    intro call hcall
    rw [decide_eq_true_iff]
    exact hothers call hcall
  rw [List.filter_append, List.append_eq_nil_iff] at hnone
  have hcall : (a.call stage).number = a.number := rfl
  rw [hcalls, List.filter_append, List.filter_cons, hcall, decide_eq_true rfl, hnone.1, hnone.2]
  rfl

lemma not_learned_awaiting {purpose : Purpose} {outcome : Outcome} :
    ¬Learned purpose outcome .awaiting := by
  unfold Learned
  split
  · intro h
    cases h
  · rintro (⟨_, _, h⟩ | ⟨_, h⟩) <;> cases h

/-- A call that waits no longer has learned of the outcome that the log tells. -/
lemma Stands.verdict (h : a.Stands d later stage) : stage = .awaiting ∨
    ∃ outcome, verdict a.moduleId a.id later = some outcome ∧
      Learned a.purpose outcome stage ∧ d.session.pending.get? a.id = none := by
  cases h with
  | unheard alarm hnone hentry hempty hkept => exact .inl rfl
  | told outcome hsome hgone hfull hkept => exact .inl rfl
  | learned outcome hsent hsome hgone hlearned =>
    refine .inr ⟨outcome, ?_, hlearned, hgone⟩
    unfold Proofs.verdict
    rw [hsent]
    exact hsome
  | lost cause hlost hgone =>
    refine .inr ⟨.error (.transport cause), ?_, ?_, hgone⟩
    · unfold Proofs.verdict
      rw [hlost]
    · unfold Learned inquiry
      cases a.purpose <;> rfl

/-- A call waits no longer than for its alarm. -/
lemma Standing.quiet (h : a.Standing d later .awaiting) (ht : Tidy d) (hquiet : Quiet d) :
    verdict a.moduleId a.id later = none ∧ d.session.clock < a.deadline := by
  have hout : passage a.id later ≠ none := by
    intro hnone
    have hflight := h.flying hnone
    rw [hquiet.landed] at hflight
    cases hflight
  have hlooked := hquiet.looked _ h.call rfl
  cases h.stands with
  | unheard alarm hnone hentry hempty hkept =>
    refine ⟨?_, hquiet.rung _ (ht.wound.isSet a.id _ hentry)⟩
    unfold Proofs.verdict
    split
    · rfl
    · rename_i cause hcause
      exact absurd hcause (hkept cause)
    · exact hnone
  | told outcome hsome hgone hfull hkept =>
    have hfound : outcomeAt d a.number = some outcome := by rw [outcomeAt, hfull]; rfl
    rw [show outcomeAt d a.number = none from hlooked] at hfound
    cases hfound
  | learned outcome hsent hsome hgone hlearned => exact absurd hlearned not_learned_awaiting

/-- Plain commands are answered with just what became of them. -/
lemma reply_of_learned {request : Request} {outcome : Outcome}
    (h : Learned (.command request) outcome stage) : stage = .finished (.reply outcome) := h

/-- A call stands somewhere after all turns that follow its beginning, and its id is not given out
again. -/
lemma stands_after {timing : Timing} {world : σ} {d e : Desk σ}
    (hstart : Turns send (.start timing world) d) (hfree : d.flight = none) (purpose : Purpose)
    (hturns : Turns send (d.call purpose) e) (hids : IdsSuffice e.log) :
    ∃ later stage, e.log = (d.call purpose).log ++ later ∧
      (ofDesk d purpose).Standing e later stage ∧
      ordinal d.session.nextId < ordinal e.session.nextId := by
  have hturn : Turn send d (d.call purpose) := .call d purpose hfree
  have hcalled : Turns send (.start timing world) (d.call purpose) := hstart.tail hturn
  have hbegan : IdsSuffice (d.call purpose).log := hids.of_prefix (Turns.log_prefix hturns)
  have hbefore : IdsSuffice d.log := hbegan.of_prefix hturn.log_prefix
  have horderly : Orderly d := Turns.orderly hstart hbefore
  have hid : ordinal d.session.nextId < ordinal (d.call purpose).session.nextId := by
    have hissued : (issued (d.call purpose).log).length = (issued d.log).length + 1 := by
      rw [Desk.call, Desk.launch_log, issued_append, List.length_append]
      rfl
    rw [horderly.next, (Turns.orderly hcalled hbegan).next, hissued]
    exact Nat.lt_succ_self _
  have hnew : (ofDesk d purpose).Standing (d.call purpose) [] .awaiting :=
    standing_ofDesk (Turns.tidy hstart hbefore) horderly purpose
  obtain ⟨later, stage, hlog, hstands, -⟩ := hnew.turns hcalled hturns hids hid
  have hreached : Turns send (.start timing world) e := hcalled.trans hturns
  refine ⟨later, stage, hlog, hstands, Nat.lt_of_lt_of_le hid ?_⟩
  exact ordinal_nextId_le (Turns.orderly hcalled hbegan) (Turns.orderly hreached hids)
    (Turns.log_prefix hturns)

variable (send) in
/-- What is on its way out lands. -/
lemma Standing.landed (h : a.Standing d later stage) :
    ∃ e later' stage', AtOnce send d e ∧ e.flight = none ∧ a.Standing e later' stage' := by
  cases hflight : d.flight with
  | none => exact ⟨d, later, stage, ⟨.refl, rfl, rfl⟩, hflight, h⟩
  | some flight =>
    obtain ⟨stage', hlanded, -⟩ := h.land send hflight
    refine ⟨_, _, stage', ⟨.single (.land d flight hflight), ?_, ?_⟩, rfl, hlanded⟩
    · exact (clock_proceed _ _ _).trans (sameBooks_settle _ _ _).clock
    · exact (issued_append _ _).trans (List.append_nil _)

variable (send) in
/-- A call that has been told its outcome takes it. -/
lemma Standing.taken (h : a.Standing d later .awaiting) (hfree : d.flight = none)
    {outcome : Outcome} (hfound : outcomeAt d a.number = some outcome)
    (hinquiry : inquiry a.purpose outcome = none) :
    ∃ e stage', AtOnce send d e ∧ a.Standing e later stage' ∧ stage' ≠ .awaiting := by
  have hidle : ¬d.Busy (a.call .awaiting) := by
    rintro ⟨flight, hflight, -⟩
    rw [hfree] at hflight
    cases hflight
  have hturn : Turn send d { d with
      session := d.session.finish (a.call .awaiting) (a.purpose.result outcome) } :=
    .learn d (a.call .awaiting) outcome h.call rfl hidle hfound hinquiry
  exact ⟨_, _, ⟨.single hturn, rfl, rfl⟩, h.learn hidle hfound hinquiry, (nomatch ·)⟩

variable (send) in
/-- A call whose time is up is told so by its alarm, if it has been told nothing before. -/
lemma Standing.told (h : a.Standing d later .awaiting) (ht : Tidy d) (hfree : d.flight = none)
    (htime : a.deadline ≤ d.session.clock) :
    ∃ e later' outcome, AtOnce send d e ∧ e.flight = none ∧ a.Standing e later' .awaiting ∧
      outcomeAt e a.number = some outcome := by
  cases h.stands with
  | unheard serial hnone hentry hempty hkept =>
    have hset := ht.wound.isSet a.id _ hentry
    have hrung := h.ends ht (ring_ends d ⟨serial, a.id, a.deadline⟩) (tells_alarm a _)
      fun _ heq => by cases heq; exact hset
    have hslot := (ring_ends d ⟨serial, a.id, a.deadline⟩).slot_told
      (fun member hm => ht.members member hm a.number) hentry rfl
    refine ⟨_, _, .error (.timeout a.moduleId a.id), ⟨.single (.ring d _ hset htime), ?_, ?_⟩,
      hfree, hrung, ?_⟩
    · exact (sameBooks_rung _ _).clock.trans (Nat.max_eq_left htime)
    · exact (issued_append _ _).trans (List.append_nil _)
    · rw [outcomeAt, hslot, hempty]
      rfl
  | told outcome hsome hgone hfull hkept =>
    refine ⟨d, later, outcome, ⟨.refl, rfl, rfl⟩, hfree, h, ?_⟩
    rw [outcomeAt, hfull]
    rfl
  | learned outcome hsent hsome hgone hlearned => exact absurd hlearned not_learned_awaiting

/-- A call that ends with any outcome can return at once when its time is up. -/
lemma Standing.returns {timing : Timing} {world : σ} (h : a.Standing d later stage)
    (hstart : Turns send (.start timing world) d) (hids : IdsSuffice d.log)
    (htime : a.deadline ≤ d.session.clock)
    (hinquiry : ∀ outcome, inquiry a.purpose outcome = none) :
    ∃ e later' stage', AtOnce send d e ∧ a.Standing e later' stage' ∧ stage' ≠ .awaiting := by
  obtain ⟨e₁, later₁, stage₁, hland, hfree₁, h₁⟩ := h.landed send
  rcases h₁.stands.verdict with rfl | ⟨outcome, -, hlearned, -⟩
  · have hreached : Turns send (.start timing world) e₁ := hstart.trans hland.turns
    have ht : Tidy e₁ := Turns.tidy hreached (hland.idsSuffice hids)
    have hdue : a.deadline ≤ e₁.session.clock := by
      rw [hland.clock]
      exact htime
    obtain ⟨e₂, later₂, outcome, htell, hfree₂, h₂, hfound⟩ := h₁.told send ht hfree₁ hdue
    obtain ⟨e₃, stage₃, htake, h₃, hdone⟩ := h₂.taken send hfree₂ hfound (hinquiry outcome)
    exact ⟨e₃, later₂, stage₃, (hland.trans htell).trans htake, h₃, hdone⟩
  · refine ⟨e₁, later₁, stage₁, hland, h₁, ?_⟩
    rintro rfl
    exact not_learned_awaiting hlearned

/-- A call that is at its end stays there. -/
lemma Standing.stays {timing : Timing} {world : σ} {result : CallResult}
    (h : a.Standing d later (.finished result)) (hstart : Turns send (.start timing world) d)
    (hid : ordinal a.id < ordinal d.session.nextId) {e : Desk σ} (hturns : Turns send d e)
    (hids : IdsSuffice e.log) :
    e.session.calls.filter (fun call => call.number = a.number) = [a.call (.finished result)] := by
  obtain ⟨more, stage, -, hafter, hstays⟩ := h.turns hstart hturns hids hid
  rw [hstays result rfl] at hafter
  exact hafter.once (Turns.tidy (hstart.trans hturns) hids)

end Asked

variable (send) in
/-- What a caller can rely on whose command got this number and this id: how the call stands after
`later` has occurred, and what it will be. -/
structure OneResult (request : Request) (number : Nat) (id : CorrelationId) (deadline : Nat)
    (d : Desk σ) (later : List Occurrence) (stage : CallStage) : Prop where
  once : d.session.calls.filter (fun call => call.number = number) =
    [⟨number, .command request, stage⟩]
  /-- The call waits, or has returned what the log tells of its command. -/
  result : stage = .awaiting ∨ ∃ outcome, verdict request.moduleId id later = some outcome ∧
    stage = .finished (.reply outcome)
  /-- The session is never said to be closed, the id never to be taken. -/
  failure : ∀ failure, stage = .finished (.reply (.error failure)) →
    (∃ cause, failure = .transport cause) ∨ failure = .timeout request.moduleId id
  freed : stage ≠ .awaiting → d.session.pending.contains id = false
  /-- The one alarm of the call rings at its time. -/
  rang : ∀ alarm, .rang alarm ∈ later → alarm.id = id → alarm.due = deadline
  /-- Once nothing due is left to do, the call only waits if nothing is known yet of its command, and
  only before its time is up. -/
  returns : Quiet d → stage = .awaiting →
    verdict request.moduleId id later = none ∧ d.session.clock < deadline
  /-- When its time is up, the call can have its result at once. -/
  ends : deadline ≤ d.session.clock → ∃ e outcome, AtOnce send d e ∧
    e.session.calls.filter (fun call => call.number = number) =
      [⟨number, .command request, .finished (.reply outcome)⟩]
  /-- A result that was returned is the last. -/
  stays : ∀ result, stage = .finished result → ∀ e, Turns send d e → IdsSuffice e.log →
    e.session.calls.filter (fun call => call.number = number) =
      [⟨number, .command request, .finished result⟩]

/-- How the call stands is all that its caller needs to know. -/
lemma Asked.Standing.oneResult {timing : Timing} {world : σ} {e : Desk σ} {request : Request}
    {number : Nat} {id : CorrelationId} {deadline : Nat} {later : List Occurrence}
    {stage : CallStage} (h : Standing ⟨.command request, number, id, deadline⟩ e later stage)
    (hreached : Turns send (.start timing world) e) (hbound : IdsSuffice e.log)
    (hid : ordinal id < ordinal e.session.nextId) :
    OneResult send request number id deadline e later stage := by
  have htidy : Tidy e := Turns.tidy hreached hbound
  have hresult := h.stands.verdict
  refine ⟨?_, ?_, ?_, ?_, h.rang, ?_, ?_, ?_⟩
  · exact h.once htidy
  · rcases hresult with hwaits | ⟨outcome, hverdict, hlearned, -⟩
    · exact .inl hwaits
    · exact .inr ⟨outcome, hverdict, Asked.reply_of_learned hlearned⟩
  · rintro failure rfl
    rcases hresult with hwaits | ⟨outcome, hverdict, hlearned, -⟩
    · cases hwaits
    · cases Asked.reply_of_learned hlearned
      exact verdict_failure hverdict
  · intro hwaits
    rcases hresult with hstill | ⟨outcome, -, -, hgone⟩
    · exact absurd hstill hwaits
    · rw [Pending.contains, show e.session.pending.get? id = none from hgone]
      rfl
  · rintro hquiet rfl
    exact h.quiet htidy hquiet
  · intro htime
    obtain ⟨x, later', stage', hatOnce, hafter, hdone⟩ :=
      h.returns hreached hbound htime fun _ => rfl
    obtain ⟨outcome, -, hlearned, -⟩ := hafter.stands.verdict.resolve_left hdone
    refine ⟨x, outcome, hatOnce, ?_⟩
    rw [← Asked.reply_of_learned hlearned]
    exact hafter.once (Turns.tidy (hreached.trans hatOnce.turns) (hatOnce.idsSuffice hbound))
  · rintro result rfl x hlater hlast
    exact h.stays hreached hid hlater hlast

/-- After any turns that follow the beginning of the call. Only a counter that has come round could give
out an id that still waits. -/
theorem one_result {timing : Timing} {world : σ} {d e : Desk σ} {request : Request}
    (hstart : Turns send (.start timing world) d) (hfree : d.flight = none)
    (hturns : Turns send (d.call (.command request)) e)
    (hbound : IdsSuffice e.log) :
    ∃ later stage, e.log = (d.call (.command request)).log ++ later ∧
      OneResult send request (d.session.called + 1) d.session.nextId
        (d.session.clock + d.session.timing.replyTimeout) e later stage := by
  have hreached : Turns send (.start timing world) e :=
    (hstart.tail (.call d (.command request) hfree)).trans hturns
  obtain ⟨later, stage, hlog, hstands, hid⟩ :=
    Asked.stands_after hstart hfree (.command request) hturns hbound
  exact ⟨later, stage, hlog, hstands.oneResult hreached hbound hid⟩

def forgedReply : Reply := ⟨⟨"D9"⟩, ⟨1⟩, .default, .locked, "STATUS_LOCKED"⟩

/-- A call is answered by a module it did not ask, before its command is out, and then by its own;
meanwhile another command is lost. -/
def contestedDesk : Desk Wire :=
  let asked := (Desk.start .default .idle).call (.command (.status ⟨"D1"⟩))
  let forged := asked.hear 0 "D9 FEEDBACK 1 D0 STATUS_LOCKED".toUTF8
  let sent := forged.land lossyLink ⟨⟨⟨"D1"⟩, ⟨1⟩, .default, queryAction⟩,
    .opening ⟨1, .command (.status ⟨"D1"⟩), .awaiting⟩⟩
  let again := sent.hear 0 "D1 FEEDBACK 1 D0 STATUS_UNLOCKED".toUTF8
  let other := again.launch ⟨⟨"D2"⟩, .default, lockAction⟩ (.submission none)
  other.land lossyLink ⟨⟨⟨"D2"⟩, ⟨2⟩, .default, lockAction⟩, .submission none⟩

/-- The call has taken what it found. -/
def answeredDesk : Desk Wire :=
  { contestedDesk with
    session := contestedDesk.session.finish ⟨1, .command (.status ⟨"D1"⟩), .awaiting⟩
      (.reply (.ok forgedReply)) }

lemma answeredDesk_turns : Turns lossyLink
    ((Desk.start .default .idle).call (.command (.status ⟨"D1"⟩))) answeredDesk := by
  have hcontested : Turns lossyLink
      ((Desk.start .default .idle).call (.command (.status ⟨"D1"⟩))) contestedDesk := by
    unfold contestedDesk
    refine .tail (.tail (.tail (.tail (.single (.hear _ _ _ ?_)) (.land _ _ ?_)) (.hear _ _ _ ?_))
      (.submit _ _ none ?_)) (.land _ _ ?_)
    · decide +kernel
    · rfl
    · decide +kernel
    · rfl
    · rfl
  have hcall : ⟨1, .command (.status ⟨"D1"⟩), .awaiting⟩ ∈ contestedDesk.session.calls := by
    decide +kernel
  have hfound : outcomeAt contestedDesk 1 = some (.ok forgedReply) := by decide +kernel
  have hidle : ¬contestedDesk.Busy ⟨1, .command (.status ⟨"D1"⟩), .awaiting⟩ := by
    rintro ⟨flight, hflight, -⟩
    cases hflight
  exact .tail hcontested (.learn contestedDesk _ (.ok forgedReply) hcall rfl hidle hfound rfl)

theorem one_result_contested :
    IdsSuffice answeredDesk.log ∧
      answeredDesk.session.calls =
        [⟨1, .command (.status ⟨"D1"⟩), .finished (.reply (.ok forgedReply))⟩] ∧
      ∃ later stage,
        answeredDesk.log =
          ((Desk.start .default Wire.idle).call (.command (.status ⟨"D1"⟩))).log ++ later ∧
        OneResult lossyLink (.status ⟨"D1"⟩) 1 .first 5000 answeredDesk later stage := by
  have hbound : IdsSuffice answeredDesk.log := by decide +kernel
  refine ⟨hbound, ?_, one_result .refl rfl answeredDesk_turns hbound⟩
  decide +kernel

end HubBridge.Proofs
