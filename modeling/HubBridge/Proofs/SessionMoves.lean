import HubBridge.Proofs.SessionOperations
import Mathlib.Data.List.Nodup
import Mathlib.Logic.Relation

/-!
# A step of a session as a sequence of moves

A step takes in at most one datagram and is then a sequence of moves: the caller's own, and those
that follow as outcomes arrive and time passes. What every move keeps therefore holds after every
history.
-/

namespace HubBridge.Proofs

/-- The calls before one and after it have other numbers. -/
lemma Numbered.split {s : Session} (hs : Numbered s) {call : Call} (hcall : call ∈ s.calls) :
    ∃ before after, s.calls = before ++ call :: after ∧
      ∀ x ∈ before ++ after, x.number ≠ call.number := by
  obtain ⟨before, after, hcalls⟩ := List.append_of_mem hcall
  have hnodup := hs.nodup
  rw [hcalls, List.map_append, List.map_cons, List.nodup_middle, ← List.map_append,
    List.nodup_cons] at hnodup
  refine ⟨before, after, hcalls, ?_⟩
  intro x hx heq
  apply hnodup.1
  rw [← heq]
  exact List.mem_map_of_mem hx

/-- What replaces a call stands in its place. -/
lemma Numbered.calls_setCall {s : Session} (hs : Numbered s) {x call : Call} (hx : x ∈ s.calls)
    (hn : x.number = call.number) : ∃ before after, s.calls = before ++ x :: after ∧
      (s.setCall call).calls = before ++ call :: after := by
  obtain ⟨before, after, hcalls, hothers⟩ := hs.split hx
  refine ⟨before, after, hcalls, ?_⟩
  have hkeep : ∀ l ⊆ before ++ after,
      l.map (fun y => if y.number = call.number then call else y) = l := by
    intro l hl
    calc l.map (fun y => if y.number = call.number then call else y) = l.map id :=
          List.map_congr_left fun y hy => if_neg (hn ▸ hothers y (hl hy))
      _ = l := List.map_id l
  rw [Session.setCall, hcalls, List.map_append, List.map_cons, if_pos hn,
    hkeep before (List.subset_append_left _ _), hkeep after (List.subset_append_right _ _)]

variable {σ : Type} (send : Link (StateM σ))

/-- One thing that happens to a session and to the world behind its link, the arrival of a datagram
apart. -/
inductive Move : Session × σ → Session × σ → Prop
  | connect (s : Session) (w : σ) : Move (s, w) (s.connect.1, w)
  | disconnect (s : Session) (w : σ) (id : ObserverId) : Move (s, w) (s.disconnect id, w)
  | shutdown (s : Session) (w : σ) : Move (s, w) (s.shutdown, w)
  | write (s : Session) (w : σ) (text : String) :
      Move (s, w) (s, ((Session.sendRaw send text).run w).2)
  | submit (s : Session) (w : σ) (request : Request) (observer : Option ObserverId) :
      Move (s, w) (((s.dispatch send request (observer.map .observer)).run w).1.1,
        ((s.dispatch send request (observer.map .observer)).run w).2)
  | call (s : Session) (w : σ) (purpose : Purpose) :
      Move (s, w) (((s.call send purpose).run w).1.1, ((s.call send purpose).run w).2)
  | resume (s : Session) (w : σ) (call : Call) (outcome : Outcome) (hcall : call ∈ s.calls)
      (hstage : call.stage = .awaiting)
      (houtcome : (s.sinks.get? (.call call.number)).bind Sink.outcome? = some outcome) :
      Move (s, w) ((s.conclude send call outcome).run w)
  | ring (s : Session) (w : σ) (alarm : Alarm) (hdue : s.nextDue? = some (.alarm alarm)) :
      Move (s, w) (rung s alarm, w)
  | wake (s : Session) (w : σ) (call : Call) (reply : Reply) (poll : Poll) (time : Nat)
      (hdue : s.nextDue? = some (.wake call reply poll time)) :
      Move (s, w) ((s.fire send (.wake call reply poll time)).run w)
  | pass (s : Session) (w : σ) (time : Nat) (htime : s.clock ≤ time) :
      Move (s, w) ({ s with clock := time }, w)

abbrev Moves : Session × σ → Session × σ → Prop := Relation.ReflTransGen (Move send)

variable {send}

theorem Move.numbered {x y : Session × σ} (h : Move send x y) (hs : Numbered x.1) :
    Numbered y.1 := by
  cases h with
  | connect s w => exact ⟨hs.nodup, hs.le_called⟩
  | disconnect s w id => exact ⟨hs.nodup, hs.le_called⟩
  | shutdown s w => exact ⟨hs.nodup, hs.le_called⟩
  | write s w text => exact hs
  | submit s w request observer =>
    exact (sameBooks_dispatch send s w request (observer.map .observer)).numbered hs
  | call s w purpose =>
    obtain ⟨t, hbooks, ht | ⟨failure, ht⟩⟩ := call_begins send s w purpose
    · rw [ht]
      exact hbooks.numbered (numbered_opened hs purpose)
    · rw [ht]
      exact (finish_resumed t _ _).numbered (hbooks.numbered (numbered_opened hs purpose))
  | resume s w call outcome hcall hstage houtcome =>
    exact (conclude_resumed send s w call outcome).numbered hs
  | ring s w alarm hdue => exact (sameBooks_rung s alarm).numbered ⟨hs.nodup, hs.le_called⟩
  | wake s w call reply poll time hdue =>
    exact (fire_wake_resumed send s w call reply poll time).numbered ⟨hs.nodup, hs.le_called⟩
  | pass s w time htime => exact ⟨hs.nodup, hs.le_called⟩

/-- The records of the doors change with a datagram and at no other time. -/
theorem Move.doors {x y : Session × σ} (h : Move send x y) : y.1.doors = x.1.doors := by
  cases h with
  | connect s w => rfl
  | disconnect s w id => rfl
  | shutdown s w => rfl
  | write s w text => rfl
  | submit s w request observer =>
    exact (sameBooks_dispatch send s w request (observer.map .observer)).doors
  | call s w purpose =>
    obtain ⟨t, hbooks, ht | ⟨failure, ht⟩⟩ := call_begins send s w purpose
    · rw [ht]
      exact hbooks.doors
    · rw [ht]
      exact hbooks.doors
  | resume s w call outcome hcall hstage houtcome =>
    exact (conclude_resumed send s w call outcome).doors
  | ring s w alarm hdue => exact (sameBooks_rung s alarm).doors
  | wake s w call reply poll time hdue => exact (fire_wake_resumed send s w call reply poll time).doors
  | pass s w time htime => rfl

lemma Move.timing {x y : Session × σ} (h : Move send x y) : y.1.timing = x.1.timing := by
  cases h with
  | connect s w => rfl
  | disconnect s w id => rfl
  | shutdown s w => rfl
  | write s w text => rfl
  | submit s w request observer =>
    exact (sameBooks_dispatch send s w request (observer.map .observer)).timing
  | call s w purpose =>
    obtain ⟨t, hbooks, ht | ⟨failure, ht⟩⟩ := call_begins send s w purpose
    · rw [ht]
      exact hbooks.timing
    · rw [ht]
      exact hbooks.timing
  | resume s w call outcome hcall hstage houtcome =>
    exact (conclude_resumed send s w call outcome).timing
  | ring s w alarm hdue => exact (sameBooks_rung s alarm).timing
  | wake s w call reply poll time hdue =>
    exact (fire_wake_resumed send s w call reply poll time).timing
  | pass s w time htime => rfl

lemma Moves.keeps {motive : Session × σ → Prop}
    (move : ∀ x y, Move send x y → motive x → motive y) {x y : Session × σ} (h : Moves send x y)
    (hx : motive x) : motive y := by
  induction h with
  | refl => exact hx
  | tail _ hmove ih => exact move _ _ hmove ih

lemma Moves.numbered {x y : Session × σ} (h : Moves send x y) (hs : Numbered x.1) :
    Numbered y.1 :=
  h.keeps (motive := fun z => Numbered z.1) (fun _ _ hmove => hmove.numbered) hs

lemma Moves.doors {x y : Session × σ} (h : Moves send x y) : y.1.doors = x.1.doors :=
  h.keeps (motive := fun z => z.1.doors = x.1.doors) (fun _ _ hmove => hmove.doors.trans) rfl

/-! ### A step as a sequence of moves -/

variable (send)

/-- What holds with all calls still to look, and is kept as one after the other looks, holds when all
have. A call that goes on leaves the others as they are, so that each is met as it stands in the list. -/
theorem resumeAll_induction {motive : List Call → Session × σ → Prop} {s : Session}
    (hs : Numbered s) (w : σ) (start : motive s.calls (s, w))
    (idle : ∀ call calls t v, (call.stage = .awaiting →
      (t.sinks.get? (.call call.number)).bind Sink.outcome? = none) →
        motive (call :: calls) (t, v) → motive calls (t, v))
    (conclude : ∀ call calls t v outcome, Numbered t → call ∈ t.calls → call.stage = .awaiting →
      (t.sinks.get? (.call call.number)).bind Sink.outcome? = some outcome →
        motive (call :: calls) (t, v) → motive calls ((t.conclude send call outcome).run v)) :
    motive [] ((s.resumeAll send).run w) := by
  suffices h : ∀ calls : List Call, ∀ t v, Numbered t → (calls.map Call.number).Nodup →
      (∀ call ∈ calls, call ∈ t.calls) → motive calls (t, v) →
      motive [] ((calls.foldlM (fun (t : Session) call => t.resume send call) t).run v) from
    h s.calls s w hs hs.nodup (fun _ hc => hc) start
  intro calls
  induction calls with
  | nil => exact fun t v _ _ _ h => h
  | cons call calls ih =>
    intro t v ht hnodup hmem h
    obtain ⟨hfresh, hnodup⟩ := List.nodup_cons.mp hnodup
    have hcall : call ∈ t.calls := hmem call List.mem_cons_self
    have hrest : ∀ c ∈ calls, c ∈ t.calls := fun c hc => hmem c (List.mem_cons_of_mem call hc)
    rw [List.foldlM_cons, StateT.run_bind]
    rcases resume_run send t v call with ⟨hidle, heq⟩ | ⟨outcome, hstage, houtcome, heq⟩
    · rw [heq]
      exact ih t v ht hnodup hrest (idle call calls t v hidle h)
    · rw [heq]
      have hresumed := conclude_resumed send t v call outcome
      have hothers : ∀ c ∈ calls, c ∈ ((t.conclude send call outcome).run v).1.calls := by
        intro c hc
        apply hresumed.others c (hrest c hc)
        intro hnumber
        apply hfresh
        rw [← hnumber]
        exact List.mem_map_of_mem hc
      exact ih _ _ (hresumed.numbered ht) hnodup hothers
        (conclude call calls t v outcome ht hcall hstage houtcome h)

lemma resumeAll_moves {s : Session} (hs : Numbered s) (w : σ) :
    Moves send (s, w) ((s.resumeAll send).run w) ∧
      ((s.resumeAll send).run w).1.clock = s.clock := by
  apply resumeAll_induction send
    (motive := fun _ x => Moves send (s, w) x ∧ x.1.clock = s.clock) hs w
  · exact ⟨.refl, rfl⟩
  · exact fun _ _ _ _ _ h => h
  · rintro call _ t v outcome - hcall hstage houtcome ⟨hmoves, hclock⟩
    refine ⟨hmoves.tail (.resume t v call outcome hcall hstage houtcome), ?_⟩
    exact (conclude_resumed send t v call outcome).clock.trans hclock

lemma fire_moves {s : Session} (hs : Numbered s) (w : σ) {due : Session.Due}
    (hdue : s.nextDue? = some due) :
    Moves send (s, w) ((s.fire send due).run w) ∧
      ((s.fire send due).run w).1.clock = max s.clock due.time := by
  cases due with
  | alarm alarm =>
    have hmove : Move send (s, w) (rung s alarm, w) := .ring s w alarm hdue
    obtain ⟨hmoves, hclock⟩ := resumeAll_moves send (hmove.numbered hs) w
    exact ⟨.head hmove hmoves, hclock.trans (sameBooks_rung s alarm).clock⟩
  | wake call reply poll time =>
    have hmove : Move send (s, w) ((s.fire send (.wake call reply poll time)).run w) :=
      .wake s w call reply poll time hdue
    exact ⟨.single hmove, (fire_wake_resumed send s w call reply poll time).clock⟩

lemma fireUntil_moves {s : Session} (hs : Numbered s) (w : σ) {time : Nat} (bound : Nat)
    (htime : s.clock ≤ time) :
    let x := (Session.fireUntil send time bound s).run w
    Moves send (s, w) x ∧ x.1.clock ≤ time := by
  induction bound generalizing s w with
  | zero => exact ⟨.refl, htime⟩
  | succ bound ih =>
    rw [fireUntil_run]
    cases hdue : s.nextDue? with
    | none => exact ⟨.refl, htime⟩
    | some due =>
      dsimp only
      by_cases hle : due.time ≤ time
      · rw [if_pos hle]
        obtain ⟨hmoves, hclock⟩ := fire_moves send hs w hdue
        have hnow : ((s.fire send due).run w).1.clock ≤ time := by
          rw [hclock]
          exact Nat.max_le.mpr ⟨htime, hle⟩
        obtain ⟨hlater, hend⟩ := ih (hmoves.numbered hs) ((s.fire send due).run w).2 hnow
        exact ⟨hmoves.trans hlater, hend⟩
      · rw [if_neg hle]
        exact ⟨.refl, htime⟩

theorem advance_moves {s : Session} (hs : Numbered s) (w : σ) (ms : Nat) :
    Moves send (s, w) ((s.advance send ms).run w) := by
  obtain ⟨hmoves, hclock⟩ :=
    fireUntil_moves send hs w s.dueBound (Nat.le_add_right s.clock ms)
  exact hmoves.tail (.pass _ _ (s.clock + ms) hclock)

/-- What a session hears of an input: a datagram, if it still listens. -/
def heard (s : Session) : Session.Input → Session
  | .datagram time bytes => if s.listening then s.handle time (.ofDatagram bytes) else s
  | _ => s

lemma heard_calls (s : Session) (input : Session.Input) :
    (heard s input).calls = s.calls ∧ (heard s input).called = s.called := by
  unfold heard
  split
  · split
    · exact handle_calls s _ _
    · exact ⟨rfl, rfl⟩
  · exact ⟨rfl, rfl⟩

lemma heard_numbered {s : Session} (hs : Numbered s) (input : Session.Input) :
    Numbered (heard s input) := by
  obtain ⟨hcalls, hcalled⟩ := heard_calls s input
  constructor
  · rw [hcalls]
    exact hs.nodup
  · rw [hcalls, hcalled]
    exact hs.le_called

lemma act_moves {s : Session} (hs : Numbered s) (w : σ) (input : Session.Input) :
    Moves send (heard s input, w)
      (((s.act send input).run w).1.1, ((s.act send input).run w).2) := by
  cases input with
  | datagram time bytes =>
    have hheard := heard_numbered hs (.datagram time bytes)
    have hmoves := (resumeAll_moves send hheard w).1
    unfold Session.act Session.receive
    unfold heard at hmoves ⊢
    dsimp only at hmoves ⊢
    by_cases hl : s.listening = true
    · simp only [hl, if_true] at hmoves ⊢
      exact hmoves
    · simp only [hl] at hmoves ⊢
      exact .refl
  | connect => exact .single (.connect s w)
  | disconnect id => exact .single (.disconnect s w id)
  | submit id request => exact .single (.submit s w request (some id))
  | untracked request => exact .single (.submit s w request none)
  | raw text => exact .single (.write s w text)
  | call purpose => exact .single (.call s w purpose)
  | advance ms => exact advance_moves send hs w ms
  | shutdown => exact .single (.shutdown s w)

/-- A step is what is heard of its input, and then moves. -/
theorem step_moves {s : Session} (hs : Numbered s) (w : σ) (input : Session.Input) :
    Moves send (heard s input, w)
      (((s.step send input).run w).1.1, ((s.step send input).run w).2) := by
  have hact := act_moves send hs w input
  have hnumbered := hact.numbered (heard_numbered hs input)
  exact hact.trans (advance_moves send hnumbered ((s.act send input).run w).2 0)

/-! ### Histories -/

/-- A session and the world behind its link after a history. -/
def reached (timing : Timing) (world : σ) (inputs : List Session.Input) :
    Session × σ :=
  (Session.run send (.start timing) inputs).run world

def stepped (x : Session × σ) (input : Session.Input) : Session × σ :=
  (((x.1.step send input).run x.2).1.1, ((x.1.step send input).run x.2).2)

lemma reached_concat (timing : Timing) (world : σ) (inputs : List Session.Input)
    (input : Session.Input) :
    reached send timing world (inputs ++ [input]) =
      stepped send (reached send timing world inputs) input := by
  unfold reached Session.run
  rw [List.foldlM_append, StateT.run_bind]
  rfl

lemma numbered_start (timing : Timing) : Numbered (.start timing) :=
  ⟨List.nodup_nil, fun _ hcall => nomatch hcall⟩

lemma reached_numbered (timing : Timing) (world : σ)
    (inputs : List Session.Input) : Numbered (reached send timing world inputs).1 := by
  induction inputs using List.reverseRecOn with
  | nil => exact numbered_start timing
  | append_singleton inputs input ih =>
    rw [reached_concat]
    exact (step_moves send ih _ input).numbered (heard_numbered ih input)

lemma reached_moves (timing : Timing) (world : σ)
    (inputs : List Session.Input) (input : Session.Input) :
    Moves send (heard (reached send timing world inputs).1 input, (reached send timing world inputs).2)
      (reached send timing world (inputs ++ [input])) := by
  rw [reached_concat]
  exact step_moves send (reached_numbered send timing world inputs) _ input

variable {send} in
/-- What holds at first, and is kept by every datagram that is heard and by every move, holds after
every history. -/
theorem reached_induction {timing : Timing} {world : σ} {motive : Session × σ → Prop}
    (start : motive (.start timing, world))
    (hear : ∀ s w time bytes, s.listening = true → motive (s, w) →
      motive (s.handle time (.ofDatagram bytes), w))
    (move : ∀ x y, Move send x y → motive x → motive y) (inputs : List Session.Input) :
    motive (reached send timing world inputs) := by
  induction inputs using List.reverseRecOn with
  | nil => exact start
  | append_singleton inputs input ih =>
    have hmoves := reached_moves send timing world inputs input
    have hheard : motive (heard (reached send timing world inputs).1 input,
        (reached send timing world inputs).2) := by
      unfold heard
      split
      · split
        · rename_i time bytes hl
          exact hear _ _ time bytes hl ih
        · exact ih
      · exact ih
    exact hmoves.keeps move hheard

end HubBridge.Proofs
