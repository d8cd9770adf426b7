import HubBridge.Proofs.DeafSessions
import HubBridge.Proofs.FailedSends

/-!
# After a shutdown

A session that was shut down is one that hears nothing for the rest of its history: datagrams leave no
trace, and neither does another shutdown. What it owes it still pays. Each command that waited then, or
was tracked later, ends once, and whoever asked for it is told so once.
-/

namespace HubBridge.Proofs

variable {σ : Type} {send : Link (StateM σ)}

/-! ### Histories -/

/-- A session that does not listen takes notice of this. -/
def heeded : Session.Input → Bool
  | .datagram .. | .shutdown => false
  | .connect | .disconnect _ | .submit .. | .untracked _ | .raw _ | .call _ | .advance _ => true

lemma Rested.later {s : Session} (h : Rested s) {due : Session.Due} (hdue : s.nextDue? = some due) :
    s.clock < due.time := by
  cases due with
  | alarm alarm => exact h.rung alarm (nextDue?_eq_alarm hdue)
  | wake call reply poll time =>
    obtain ⟨hcall, hstage⟩ := nextDue?_eq_wake hdue
    exact h.woke call hcall reply poll time hstage

variable (send) in
lemma advance_zero {s : Session} (h : Rested s) (w : σ) : (s.advance send 0).run w = (s, w) := by
  have hidle : (Session.fireUntil send s.clock s.dueBound s).run w = (s, w) := by
    cases s.dueBound with
    | zero => rfl
    | succ bound =>
      rw [fireUntil_run]
      cases hdue : s.nextDue? with
      | none => rfl
      | some due =>
        dsimp only
        rw [if_neg (Nat.not_le.mpr (h.later hdue))]
  unfold Session.advance
  rw [Nat.add_zero, StateT.run_bind, hidle]
  rfl

variable (send) in
/-- What is not heeded changes nothing. -/
lemma stepped_unheeded {s : Session} (hrested : Rested s) (hdeaf : s.listening = false) (w : σ)
    {input : Session.Input} (h : heeded input = false) : stepped send (s, w) input = (s, w) := by
  have hact : (s.act send input).run w = ((s, .nothing), w) := by
    cases input with
    | datagram time bytes =>
      unfold Session.act Session.receive
      rw [hdeaf]
      rfl
    | shutdown =>
      have hsame : s.shutdown = s := by
        unfold Session.shutdown
        rw [← hdeaf]
      unfold Session.act
      rw [hsame]
      rfl
    | connect | disconnect | submit | untracked | raw | call | advance => cases h
  unfold stepped Session.step
  dsimp only
  rw [StateT.run_bind, hact]
  change (((s.advance send 0).run w).1, ((s.advance send 0).run w).2) = (s, w)
  rw [advance_zero send hrested]

lemma Moves.turns {x y : Session × σ} (h : Moves send x y) (log : List Occurrence) :
    ∃ more, Turns send ⟨x.1, x.2, none, log⟩ ⟨y.1, y.2, none, log ++ more⟩ := by
  induction h with
  | refl => exact ⟨[], by rw [List.append_nil]⟩
  | tail _ hmove ih =>
    obtain ⟨more, hturns⟩ := ih
    obtain ⟨next, hlater, -⟩ := hmove.turns (log ++ more)
    rw [List.append_assoc] at hlater
    exact ⟨more ++ next, hturns.trans hlater⟩

/-- What follows on a session that does not listen is turns. -/
lemma later_turns {timing : Timing} {world : σ} {inputs : List Session.Input}
    (hdeaf : (reached send timing world inputs).1.listening = false) (after : List Session.Input)
    (log : List Occurrence) :
    ∃ more, Turns send
      ⟨(reached send timing world inputs).1, (reached send timing world inputs).2, none, log⟩
      ⟨(reached send timing world (inputs ++ after)).1,
        (reached send timing world (inputs ++ after)).2, none, log ++ more⟩ := by
  induction after using List.reverseRecOn with
  | nil => exact ⟨[], by rw [List.append_nil, List.append_nil]⟩
  | append_singleton after input ih =>
    obtain ⟨more, hturns⟩ := ih
    have hstill := (hturns.unheard hdeaf).listening
    have hmoves := reached_moves send timing world (inputs ++ after) input
    have hheard : heard (reached send timing world (inputs ++ after)).1 input =
        (reached send timing world (inputs ++ after)).1 := by
      unfold heard
      split
      · exact if_neg (Bool.eq_false_iff.mp hstill)
      · rfl
    rw [hheard] at hmoves
    obtain ⟨next, hlater⟩ := Moves.turns hmoves (log ++ more)
    rw [List.append_assoc, List.append_assoc] at hlater
    exact ⟨more ++ next, hturns.trans hlater⟩

lemma reached_shutdown (timing : Timing) (world : σ) (before : List Session.Input) :
    (reached send timing world (before ++ [.shutdown])).1.listening = false := by
  rw [reached_concat]
  generalize hx : reached send timing world before = x
  have hnumbered : Numbered x.1.shutdown := by
    have := reached_numbered send timing world before
    rw [hx] at this
    exact ⟨this.nodup, this.le_called⟩
  obtain ⟨more, hturns⟩ := Moves.turns (advance_moves send hnumbered x.2 0) []
  exact (hturns.unheard rfl).listening

/-- Of what comes after a shutdown only what is heeded counts. -/
lemma reached_filter (timing : Timing) (world : σ) (before after : List Session.Input) :
    reached send timing world (before ++ [.shutdown] ++ after) =
      reached send timing world (before ++ [.shutdown] ++ after.filter heeded) := by
  induction after using List.reverseRecOn with
  | nil => rfl
  | append_singleton after input ih =>
    rw [List.filter_append, ← List.append_assoc, ← List.append_assoc, reached_concat, ih]
    cases hinput : heeded input with
    | true => rw [List.filter_cons_of_pos hinput, List.filter_nil, reached_concat]
    | false =>
      rw [List.filter_cons_of_neg (by rw [hinput]; exact Bool.false_ne_true), List.filter_nil,
        List.append_nil]
      have hdeaf : (reached send timing world (before ++ [.shutdown])).1.listening = false :=
        reached_shutdown timing world before
      obtain ⟨more, hturns⟩ := later_turns hdeaf (after.filter heeded) []
      exact stepped_unheeded send (reached_rested timing world _)
        (hturns.unheard hdeaf).listening _ hinput

lemma exists_run {d e : Desk σ} (h : Turns send d e) :
    ∃ run, (d :: run).IsChain (Turn send) ∧ run.getLastD d = e := by
  induction h using Relation.ReflTransGen.head_induction_on with
  | refl => exact ⟨[], .singleton _, rfl⟩
  | head hturn _ ih =>
    obtain ⟨run, hrun, hlast⟩ := ih
    exact ⟨_ :: run, .cons_cons hturn hrun, (List.getLastD_cons ..).trans hlast⟩

/-! ### What is still owed -/

/-- What comes first of all that decides the command of an id. -/
def decider (id : CorrelationId) (d e : Desk σ) : Option Occurrence :=
  (occurred d e).find? (decides id)

/-- What an observer is told of a command of its own that ended by itself. -/
def lapseOf (command : Command) : Occurrence → Event
  | .sent _ (some cause) =>
    .commandError command.moduleId command.id .transport (Failure.transport cause).message
  | _ => .commandError command.moduleId command.id .timeout timeoutText

lemma toldOf_lapsed {entry : PendingCommand Party} {time : Nat} {first : Option Occurrence}
    (h : ∀ x, first = some x → Lapses entry time x) :
    toldOf entry.command.id entry first =
      (first.map fun x => Reception.outcome entry.command.id (lapseOf entry.command x)).toList := by
  cases first with
  | none => rfl
  | some x => cases h x rfl <;> rfl

variable (send) in
/-- What becomes of a command which has this entry at `x`, along the run that follows. -/
structure EndsOnce (x : Desk σ) (run : List (Desk σ)) (id : CorrelationId)
    (entry : PendingCommand Party) : Prop where
  /-- It ends by itself: with its own alarm, at its deadline, or with its own datagram. -/
  lapses : ∀ first, decider id x (run.getLastD x) = some first →
    Lapses entry (run.getLastD x).session.clock first
  /-- It waits till then, and never after. -/
  waits : (run.getLastD x).session.pending.get? id =
    if (decider id x (run.getLastD x)).isSome then none else some entry
  /-- When its time is up and all alarms that were due have rung, it has ended. -/
  ends : entry.deadline ≤ (run.getLastD x).session.clock →
    (∀ alarm ∈ (run.getLastD x).session.pending.alarms,
      (run.getLastD x).session.clock < alarm.due) →
    (decider id x (run.getLastD x)).isSome = true
  /-- An observer that asked for it is told so once. -/
  observer : ∀ o, entry.requester = .observer o → (∀ y ∈ x :: run, y.Attends o) →
    outcomesOf id (receptionsAlong o x run) =
      ((decider id x (run.getLastD x)).map fun first =>
        Reception.outcome id (lapseOf entry.command first)).toList
  /-- A call that asked for it returns its one failure. -/
  call : ∀ n, entry.requester = .call n →
    ∃ purpose stage, Returns send n entry.command (run.getLastD x) purpose stage

variable (send) in
/-- What holds along a run that begins when a session has been shut down. -/
structure Shut (d : Desk σ) (run : List (Desk σ)) : Prop where
  unheard : Unheard d (run.getLastD d)
  /-- Nobody is told of a datagram. -/
  told : SeatsSuffice (run.getLastD d).log → ∀ o, (∀ y ∈ d :: run, y.Attends o) →
    (run.getLastD d).session.stream o =
        d.session.stream o ++ (receptionsAlong o d run).map Reception.event ∧
      (receptionsAlong o d run).filterMap Reception.broadcast? = []
  /-- Whoever asks for a command then or later gets an entry for it, with a deadline of its own. -/
  tracked : ∀ x ∈ d :: run, ∀ request errand,
    (x.launch request errand).session.pending.get? x.session.nextId = errand.requester.map
      (entryFor x.session.pending x.session.clock x.session.timing.replyTimeout
        (request.toCommand x.session.nextId))
  /-- Every command that waits then, or later, ends once. -/
  entries : ∀ earlier x later, d :: run = earlier ++ x :: later →
    ∀ id entry, x.session.pending.get? id = some entry → EndsOnce send x later id entry
  /-- The ids go on where they were. -/
  ids : (issued (occurred d (run.getLastD d))).map (fun command => ordinal command.id) =
    List.range' (ordinal d.session.nextId) (issued (occurred d (run.getLastD d))).length
  again : (run.getLastD d).session.shutdown = (run.getLastD d).session

section Run

variable {timing : Timing} {world : σ} {d : Desk σ} {run : List (Desk σ)}

lemma split_run {earlier : List (Desk σ)} {x : Desk σ} {later : List (Desk σ)}
    (hrun : (d :: run).IsChain (Turn send)) (h : d :: run = earlier ++ x :: later) :
    Turns send d x ∧ (x :: later).IsChain (Turn send) ∧ later.getLastD x = run.getLastD d := by
  induction earlier generalizing d run with
  | nil =>
    obtain ⟨rfl, rfl⟩ := List.cons.inj h
    exact ⟨.refl, hrun, rfl⟩
  | cons y earlier ih =>
    obtain ⟨rfl, htail⟩ := List.cons.inj h
    cases run with
    | nil => exact absurd htail.symm (by simp)
    | cons e run =>
      obtain ⟨hturn, hrest⟩ := List.isChain_cons_cons.mp hrun
      obtain ⟨hturns, hlater, hlast⟩ := ih hrest htail
      exact ⟨.head hturn hturns, hlater, hlast.trans (List.getLastD_cons ..).symm⟩

lemma endsOnce (hstart : Turns send (.start timing world) d) (hdeaf : d.session.listening = false)
    (hrun : (d :: run).IsChain (Turn send)) (hids : IdsSuffice (run.getLastD d).log)
    {id : CorrelationId} {entry : PendingCommand Party}
    (hget : d.session.pending.get? id = some entry) : EndsOnce send d run id entry := by
  have hturns := turns_of_isChain hrun
  have horderly : Orderly d := Turns.orderly hstart (hids.of_prefix hturns.log_prefix)
  obtain ⟨rfl, hless⟩ := horderly.entry id entry hget
  have hlapses : ∀ first, decider entry.command.id d (run.getLastD d) = some first →
      Lapses entry (run.getLastD d).session.clock first :=
    fun first hfirst => lapses_of_isChain hstart hdeaf hrun hids hget hfirst
  have hwaits : (run.getLastD d).session.pending.get? entry.command.id =
      if (decider entry.command.id d (run.getLastD d)).isSome then none else some entry :=
    get?_waiting hstart hrun hids hless hget
  refine ⟨hlapses, hwaits, ?_, ?_, ?_⟩
  · intro htime hrung
    by_contra hnone
    rw [if_neg hnone] at hwaits
    have htidy : Tidy (run.getLastD d) := Turns.tidy (hstart.trans hturns) hids
    have hdue := hrung _ (htidy.wound.isSet _ _ hwaits)
    exact absurd htime (Nat.not_le.mpr hdue)
  · intro o howner hattends
    rw [outcomesOf_waiting hstart hrun hids hless hget howner]
    exact toldOf_lapsed hlapses
  · intro n hcaller
    exact call_returns hstart hdeaf hturns hids hget hcaller

lemma issued_after (hd : Orderly d) {e : Desk σ} (he : Orderly e) (hlog : d.log <+: e.log) :
    (issued (occurred d e)).map (fun command => ordinal command.id) =
      List.range' (ordinal d.session.nextId) (issued (occurred d e)).length := by
  obtain ⟨later, hlater⟩ := hlog
  have hids := he.ids
  rw [← hlater, issued_append, List.map_append, hd.ids, List.length_append, ← List.range'_append_1,
    Nat.add_comm 1] at hids
  rw [occurred_eq hlater.symm, hd.next]
  exact List.append_cancel_left hids

lemma shut_of_deaf (hstart : Turns send (.start timing world) d)
    (hdeaf : d.session.listening = false) (hrun : (d :: run).IsChain (Turn send))
    (hids : IdsSuffice (run.getLastD d).log) : Shut send d run := by
  have hturns := turns_of_isChain hrun
  have hunheard := hturns.unheard hdeaf
  refine ⟨hunheard, ?_, ?_, ?_, ?_, ?_⟩
  · intro hroom o hattends
    have hreceives := receives_run hstart.gathered (happenings_of_turns hrun) hroom hattends
    refine ⟨hreceives.stream (hattends d List.mem_cons_self), ?_⟩
    rw [hreceives.broadcasts, hunheard.occurred hturns.log_prefix]
    rfl
  · intro x hmem request errand
    obtain ⟨earlier, later, hsplit⟩ := List.append_of_mem hmem
    obtain ⟨hx, hlater, hlast⟩ := split_run hrun hsplit
    rw [← hlast] at hids
    have hturnsLater := turns_of_isChain hlater
    have horderly : Orderly x := Turns.orderly (hstart.trans hx)
      (hids.of_prefix hturnsLater.log_prefix)
    rw [Desk.launch_eq horderly.not_contains]
    exact (get?_enrolled_free horderly.free _ _ _ _ _).trans (if_pos rfl)
  · intro earlier x later hsplit id entry hget
    obtain ⟨hx, hlater, hlast⟩ := split_run hrun hsplit
    rw [← hlast] at hids
    exact endsOnce (hstart.trans hx) (hx.unheard hdeaf).listening hlater hids hget
  · exact issued_after (Turns.orderly hstart (hids.of_prefix hturns.log_prefix))
      (Turns.orderly (hstart.trans hturns) hids) hturns.log_prefix
  · unfold Session.shutdown
    rw [← hunheard.listening]

end Run

/-- Whatever comes before a shutdown and after it: the inputs that are not heeded could as well be left
out, and the history goes on in turns, as one of those that begin when a session has been shut down. Of
all of these holds what is stated in `Shut`, as long as there are ids left. -/
theorem after_shutdown (timing : Timing) (world : σ) :
    (∀ before after : List Session.Input,
      let closed := reached send timing world (before ++ [.shutdown])
      let last := reached send timing world (before ++ [.shutdown] ++ after)
      last = reached send timing world (before ++ [.shutdown] ++ after.filter heeded) ∧
        Rested last.1 ∧
        ∃ log run, let d : Desk σ := ⟨closed.1, closed.2, none, log⟩
          Turns send (.start timing world) d ∧ d.session.listening = false ∧
            (d :: run).IsChain (Turn send) ∧ (run.getLastD d).session = last.1 ∧
            (run.getLastD d).world = last.2) ∧
    ∀ (d : Desk σ) (run : List (Desk σ)), Turns send (.start timing world) d →
      d.session.listening = false → (d :: run).IsChain (Turn send) →
      IdsSuffice (run.getLastD d).log → Shut send d run := by
  refine ⟨?_, ?_⟩
  · intro before after closed last
    have hdeaf : closed.1.listening = false := reached_shutdown timing world before
    obtain ⟨log, hclosed⟩ : ∃ log, Turns send (.start timing world) ⟨closed.1, closed.2, none, log⟩ :=
      reached_turns timing world (before ++ [.shutdown])
    obtain ⟨more, hlater⟩ := later_turns hdeaf after log
    obtain ⟨run, hrun, hlast⟩ := exists_run hlater
    refine ⟨reached_filter timing world before after, reached_rested timing world _, log, run,
      hclosed, hdeaf, hrun, ?_, ?_⟩
    · exact congrArg Desk.session hlast
    · exact congrArg Desk.world hlast
  · intro d run hstart hdeaf hrun hids
    exact shut_of_deaf hstart hdeaf hrun hids

/-- An observer has asked for one status when the session is shut down. -/
def closedDesk : Desk Wire :=
  let joined : Desk Wire := (Desk.start .default .idle).joined
  let sent := (joined.submit (.status ⟨"D1"⟩) ⟨1⟩).land lossyLink
    (joined.submission (.status ⟨"D1"⟩) ⟨1⟩)
  { sent with session := sent.session.shutdown }

/-- It asks for another, which is lost, and then the time of the first is up. -/
def closedRun : List (Desk Wire) :=
  let asked := closedDesk.submit (.status ⟨"D2"⟩) ⟨1⟩
  let lost := asked.land lossyLink (closedDesk.submission (.status ⟨"D2"⟩) ⟨1⟩)
  let late := { lost with session := { lost.session with clock := 5000 } }
  [asked, lost, late, late.ring ⟨0, ⟨1⟩, 5000⟩]

theorem after_shutdown_closed :
    Shut lossyLink closedDesk closedRun ∧
      (closedRun.getLastD closedDesk).session.stream ⟨1⟩ =
        [.commandError ⟨"D2"⟩ ⟨2⟩ .transport "Transport error: network down",
          .commandError ⟨"D1"⟩ ⟨1⟩ .timeout "No FEEDBACK from hub"] := by
  have hstart : Turns lossyLink (.start .default .idle) closedDesk :=
    .tail (.tail (.tail (.single (.connect _)) (.submit _ _ (some ⟨1⟩) rfl)) (.land _ _ rfl))
      (.shutdown _)
  have hrun : (closedDesk :: closedRun).IsChain (Turn lossyLink) :=
    .cons_cons (.submit _ _ (some ⟨1⟩) rfl) (.cons_cons (.land _ _ rfl)
      (.cons_cons (.pass _ _ (by decide +kernel)) (.cons_cons
        (.ring _ _ (by decide +kernel) (by decide +kernel)) (.singleton _))))
  refine ⟨(after_shutdown .default .idle).2 closedDesk closedRun hstart rfl hrun
    (by decide +kernel), ?_⟩
  decide +kernel

end HubBridge.Proofs
