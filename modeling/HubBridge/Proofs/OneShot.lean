import HubBridge.Sink
import Mathlib.Data.List.Induction
import Mathlib.Tactic.Lemma

/-!
# The one outcome of a reply sink

A reply sink is handed events while its receiver waits and after it has gone away. Its answers are told
by what came before: what is no outcome is refused whenever it comes, and the first outcome uses the
slot up, even if nobody is there to take it.
-/

namespace HubBridge.Proofs

/-- The event ends a command with this outcome. -/
inductive Tells : Event → Outcome → Prop
  | reply (m : ModuleId) (id : CorrelationId) (target : Target) (status : Status)
      (rawAction raw : String) :
      Tells (.commandFeedback m id target status rawAction raw)
        (.ok ⟨m, id, target, status, rawAction⟩)
  | timeout (m : ModuleId) (id : CorrelationId) (error : String) :
      Tells (.commandError m id .timeout error) (.error (.timeout m id))
  | transport (m : ModuleId) (id : CorrelationId) (error : String) :
      Tells (.commandError m id .transport error) (.error (.sendFailed m id error))

namespace OneShot

/-- The events after which a command is over. -/
def isTerminal : Event → Bool
  | .commandFeedback .. | .commandError .. => true
  | .doorFeedback .. | .hubEvent .. | .hubHeartbeat .. | .hubHello .. | .hubRaw _ => false

inductive Input
  | deliver (e : Event)
  /-- The receiver goes away. -/
  | drop
  deriving DecidableEq

def act (sink : Sink) : Input → Sink
  | .deliver e => (sink.deliver e).1
  | .drop => sink.disconnect

def run (sink : Sink) (inputs : List Input) : Sink := inputs.foldl act sink

/-- What an input brings to the receiver: what the slot holds after a delivery that was taken. -/
def gain (sink : Sink) : Input → Option Outcome
  | .deliver e => match sink.deliver e with
    | (filled, .ok ()) => filled.outcome?
    | (_, .error _) => none
  | .drop => none

/-- All that the receiver gets, in order. -/
def received (sink : Sink) : List Input → List Outcome
  | [] => []
  | input :: inputs => (gain sink input).toList ++ received (act sink input) inputs

/-- No command was over by any of these inputs. -/
def NoneEnds (inputs : List Input) : Prop := ∀ e, .deliver e ∈ inputs → isTerminal e = false

/-! ### Single events -/

lemma outcome?_eq_some {e : Event} {outcome : Outcome} :
    e.outcome? = some outcome ↔ Tells e outcome := by
  constructor
  · intro h
    cases e with
    | commandFeedback m id target status rawAction raw =>
      cases h
      exact .reply m id target status rawAction raw
    | commandError m id kind error =>
      cases kind with
      | timeout =>
        cases h
        exact .timeout m id error
      | transport =>
        cases h
        exact .transport m id error
    | _ => cases h
  · rintro (_ | _ | _) <;> rfl

lemma isTerminal_iff {e : Event} : isTerminal e = true ↔ ∃ outcome, Tells e outcome := by
  have hsome : isTerminal e = e.outcome?.isSome := by
    cases e with
    | commandError m id kind error => cases kind <;> rfl
    | _ => rfl
  rw [hsome, Option.isSome_iff_exists]
  exact exists_congr fun _ => outcome?_eq_some

lemma outcome?_eq_none {e : Event} (h : isTerminal e = false) : e.outcome? = none := by
  rw [Option.eq_none_iff_forall_ne_some]
  intro outcome hsome
  rw [isTerminal_iff.mpr ⟨outcome, outcome?_eq_some.mp hsome⟩] at h
  cases h

lemma deliver_refused {e : Event} (h : isTerminal e = false) (connected : Bool) (slot : Slot) :
    (Sink.reply connected slot).deliver e =
      (.reply connected slot, .error (.unexpected e.name)) := by
  unfold Sink.deliver
  rw [outcome?_eq_none h]

lemma deliver_taken {e : Event} {outcome : Outcome} (h : Tells e outcome) :
    (Sink.reply true .waiting).deliver e = (.reply true (.answered outcome), .ok ()) := by
  unfold Sink.deliver
  rw [outcome?_eq_some.mpr h]
  rfl

lemma deliver_unheard {e : Event} {outcome : Outcome} (h : Tells e outcome) :
    (Sink.reply false .waiting).deliver e = (.reply false .lost, .error .disconnected) := by
  unfold Sink.deliver
  rw [outcome?_eq_some.mpr h]
  rfl

lemma deliver_late {e : Event} {outcome : Outcome} (h : Tells e outcome) (connected : Bool)
    {slot : Slot} (hslot : slot ≠ .waiting) :
    (Sink.reply connected slot).deliver e =
      (.reply connected slot, .error .alreadyDelivered) := by
  unfold Sink.deliver
  rw [outcome?_eq_some.mpr h]
  cases slot with
  | waiting => exact absurd rfl hslot
  | answered outcome => rfl
  | lost => rfl

/-! ### Runs -/

lemma run_append (sink : Sink) (inputs more : List Input) :
    run sink (inputs ++ more) = run (run sink inputs) more := List.foldl_append

lemma received_append (sink : Sink) (inputs more : List Input) :
    received sink (inputs ++ more) = received sink inputs ++ received (run sink inputs) more := by
  induction inputs generalizing sink with
  | nil => rfl
  | cons input inputs ih =>
    rw [List.cons_append, received, received, ih, List.append_assoc]
    rfl

/-- The receiver is there until it goes away. -/
def present (inputs : List Input) : Bool := decide (.drop ∉ inputs)

lemma present_cons_deliver (e : Event) (inputs : List Input) :
    present (.deliver e :: inputs) = present inputs := by
  simp [present]

lemma present_cons_drop (inputs : List Input) : present (.drop :: inputs) = false := by
  simp [present]

/-- A slot that nothing can fill or use up stays as it is, and brings nothing. -/
lemma run_still {slot : Slot} {inputs : List Input}
    (hstill : ∀ connected e, .deliver e ∈ inputs →
      ∃ fault, (Sink.reply connected slot).deliver e = (.reply connected slot, .error fault))
    (connected : Bool) :
    run (.reply connected slot) inputs = .reply (connected && present inputs) slot ∧
      received (.reply connected slot) inputs = [] := by
  induction inputs generalizing connected with
  | nil => exact ⟨by rw [present, decide_eq_true List.not_mem_nil, Bool.and_true]; rfl, rfl⟩
  | cons input inputs ih =>
    have ih := ih fun connected e he => hstill connected e (List.mem_cons_of_mem input he)
    cases input with
    | deliver e =>
      obtain ⟨fault, hdeliver⟩ := hstill connected e List.mem_cons_self
      have hact : act (.reply connected slot) (.deliver e) = .reply connected slot := by
        rw [act, hdeliver]
      have hgain : gain (.reply connected slot) (.deliver e) = none := by
        rw [gain, hdeliver]
      rw [run, List.foldl_cons, hact, received, hgain, hact, present_cons_deliver]
      exact ih connected
    | drop =>
      rw [run, List.foldl_cons, received, present_cons_drop, Bool.and_false]
      exact ih false

lemma run_waiting {inputs : List Input} (h : NoneEnds inputs) :
    run .oneShot inputs = .reply (present inputs) .waiting ∧ received .oneShot inputs = [] :=
  run_still (fun connected e he => ⟨_, deliver_refused (h e he) connected .waiting⟩) true

lemma run_used {slot : Slot} (hslot : slot ≠ .waiting) (connected : Bool) (inputs : List Input) :
    run (.reply connected slot) inputs = .reply (connected && present inputs) slot ∧
      received (.reply connected slot) inputs = [] := by
  refine run_still (fun connected e _ => ?_) connected
  by_cases he : isTerminal e = true
  · obtain ⟨outcome, htells⟩ := isTerminal_iff.mp he
    exact ⟨_, deliver_late htells connected hslot⟩
  · exact ⟨_, deliver_refused (Bool.eq_false_iff.mpr he) connected slot⟩

/-- The inputs up to the first that ends a command, and those behind it. -/
lemma exists_first {inputs : List Input} (h : ¬NoneEnds inputs) :
    ∃ before e outcome after, inputs = before ++ .deliver e :: after ∧ NoneEnds before ∧
      Tells e outcome := by
  induction inputs with
  | nil => exact absurd (fun e he => nomatch he) h
  | cons input inputs ih =>
    by_cases hfirst : ∃ e, input = .deliver e ∧ isTerminal e = true
    · obtain ⟨e, rfl, he⟩ := hfirst
      obtain ⟨outcome, htells⟩ := isTerminal_iff.mp he
      exact ⟨[], e, outcome, inputs, rfl, by simp [NoneEnds], htells⟩
    · have hinput : ∀ e, input = .deliver e → isTerminal e = false := by
        intro e he
        exact Bool.eq_false_iff.mpr fun hterminal => hfirst ⟨e, he, hterminal⟩
      have hrest : ¬NoneEnds inputs := by
        intro hnone
        apply h
        intro e he
        rcases List.mem_cons.mp he with he | he
        · exact hinput e he.symm
        · exact hnone e he
      obtain ⟨before, e, outcome, after, rfl, hbefore, htells⟩ := ih hrest
      refine ⟨input :: before, e, outcome, after, rfl, ?_, htells⟩
      intro x hx
      rcases List.mem_cons.mp hx with hx | hx
      · exact hinput x hx.symm
      · exact hbefore x hx

/-- The first outcome decides what becomes of the slot, and the receiver gets it if it is there. -/
lemma run_first {before : List Input} {e : Event} {outcome : Outcome} (hbefore : NoneEnds before)
    (htells : Tells e outcome) (after : List Input) :
    run .oneShot (before ++ .deliver e :: after) =
        .reply (present before && present after)
          (if present before then .answered outcome else .lost) ∧
      received .oneShot (before ++ .deliver e :: after) =
        if present before then [outcome] else [] := by
  obtain ⟨hrun, hreceived⟩ := run_waiting hbefore
  rw [run_append, received_append, hrun, hreceived, List.nil_append, received, run, List.foldl_cons]
  cases present before with
  | true =>
    have hact : act (.reply true .waiting) (.deliver e) = .reply true (.answered outcome) := by
      rw [act, deliver_taken htells]
    have hgain : gain (.reply true .waiting) (.deliver e) = some outcome := by
      rw [gain, deliver_taken htells]
      rfl
    obtain ⟨hlater, hnone⟩ := @run_used (.answered outcome) (fun h => nomatch h) true after
    rw [hact, hgain, hnone]
    exact ⟨hlater, rfl⟩
  | false =>
    have hact : act (.reply false .waiting) (.deliver e) = .reply false .lost := by
      rw [act, deliver_unheard htells]
    have hgain : gain (.reply false .waiting) (.deliver e) = none := by
      rw [gain, deliver_unheard htells]
    obtain ⟨hlater, hnone⟩ := @run_used .lost (fun h => nomatch h) false after
    rw [hact, hgain, hnone]
    exact ⟨hlater, rfl⟩

lemma exists_slot (inputs : List Input) : ∃ connected slot,
    run .oneShot inputs = .reply connected slot ∧ (¬NoneEnds inputs → slot ≠ .waiting) := by
  by_cases h : NoneEnds inputs
  · exact ⟨_, _, (run_waiting h).1, fun hnot => absurd h hnot⟩
  · obtain ⟨before, e, outcome, after, rfl, hbefore, htells⟩ := exists_first h
    refine ⟨_, _, (run_first hbefore htells after).1, fun _ => ?_⟩
    split <;> exact fun heq => nomatch heq

/-! ### What the receiver gets -/

lemma present_iff {inputs : List Input} : present inputs = true ↔ .drop ∉ inputs := decide_eq_true_iff

/-- What lies in the slot is what the receiver got, and that is one outcome at the most. -/
lemma received_eq_toList (inputs : List Input) :
    received .oneShot inputs = (run .oneShot inputs).outcome?.toList := by
  by_cases h : NoneEnds inputs
  · rw [(run_waiting h).1, (run_waiting h).2]
    rfl
  · obtain ⟨before, e, outcome, after, rfl, hbefore, htells⟩ := exists_first h
    obtain ⟨hrun, hreceived⟩ := run_first hbefore htells after
    rw [hrun, hreceived]
    cases present before <;> rfl

lemma received_of_first {before after : List Input} {e : Event} {outcome : Outcome}
    (htells : Tells e outcome) (hbefore : NoneEnds before) (hthere : .drop ∉ before) :
    received .oneShot (before ++ .deliver e :: after) = [outcome] := by
  rw [(run_first hbefore htells after).2, if_pos (present_iff.mpr hthere)]

lemma exists_first_of_received {inputs : List Input} (h : received .oneShot inputs ≠ []) :
    ∃ before e outcome after, inputs = before ++ .deliver e :: after ∧ NoneEnds before ∧
      Tells e outcome ∧ .drop ∉ before := by
  have hended : ¬NoneEnds inputs := fun hnone => h (run_waiting hnone).2
  obtain ⟨before, e, outcome, after, rfl, hbefore, htells⟩ := exists_first hended
  refine ⟨before, e, outcome, after, rfl, hbefore, htells, ?_⟩
  rw [← present_iff]
  by_contra hgone
  apply h
  rw [(run_first hbefore htells after).2, if_neg hgone]

lemma received_eq_singleton {inputs : List Input} {outcome : Outcome} :
    received .oneShot inputs = [outcome] ↔
      ∃ before e after, inputs = before ++ .deliver e :: after ∧ Tells e outcome ∧
        NoneEnds before ∧ .drop ∉ before := by
  constructor
  · intro h
    have hne : received .oneShot inputs ≠ [] := by simp [h]
    obtain ⟨before, e, outcome', after, rfl, hbefore, htells, hthere⟩ := exists_first_of_received hne
    rw [received_of_first htells hbefore hthere] at h
    cases h
    exact ⟨before, e, after, rfl, htells, hbefore, hthere⟩
  · rintro ⟨before, e, after, rfl, htells, hbefore, hthere⟩
    exact received_of_first htells hbefore hthere

/-- If any outcome comes while the receiver is there, so does the first. -/
lemma received_ne_nil {inputs : List Input} :
    received .oneShot inputs ≠ [] ↔
      ∃ before e after, inputs = before ++ .deliver e :: after ∧ isTerminal e = true ∧
        .drop ∉ before := by
  constructor
  · intro h
    obtain ⟨before, e, outcome, after, rfl, -, htells, hthere⟩ := exists_first_of_received h
    exact ⟨before, e, after, rfl, isTerminal_iff.mpr ⟨outcome, htells⟩, hthere⟩
  · rintro ⟨before, e, after, rfl, he, hthere⟩
    by_cases hnone : NoneEnds before
    · obtain ⟨outcome, htells⟩ := isTerminal_iff.mp he
      rw [received_of_first htells hnone hthere]
      exact List.cons_ne_nil _ _
    · obtain ⟨earlier, e', outcome, later, rfl, hearlier, htells⟩ := exists_first hnone
      rw [List.append_assoc, List.cons_append, received_of_first htells hearlier
        fun hdrop => hthere (List.mem_append_left _ hdrop)]
      exact List.cons_ne_nil _ _

/-- What a sink has brought to its receiver by these inputs, and what it answers next. -/
structure Account (inputs : List Input) (sink : Sink) : Prop where
  refuses : ∀ e, isTerminal e = false → sink.deliver e = (sink, .error (.unexpected e.name))
  takes : NoneEnds inputs → .drop ∉ inputs → ∀ e outcome, Tells e outcome →
    (sink.deliver e).2 = .ok () ∧ received .oneShot (inputs ++ [.deliver e]) = [outcome]
  unheard : NoneEnds inputs → .drop ∈ inputs → ∀ e, isTerminal e = true →
    (sink.deliver e).2 = .error .disconnected
  usedUp : ¬NoneEnds inputs → ∀ e, isTerminal e = true →
    sink.deliver e = (sink, .error .alreadyDelivered)
  /-- What lies in the slot for the receiver is all that it got. -/
  held : received .oneShot inputs = sink.outcome?.toList
  atMostOne : (received .oneShot inputs).length ≤ 1
  gets : ∀ outcome, received .oneShot inputs = [outcome] ↔
    ∃ before e after, inputs = before ++ .deliver e :: after ∧ Tells e outcome ∧
      NoneEnds before ∧ .drop ∉ before
  getsAny : received .oneShot inputs ≠ [] ↔
    ∃ before e after, inputs = before ++ .deliver e :: after ∧ isTerminal e = true ∧
      .drop ∉ before

/-- A reply sink hands its receiver the first outcome, if the receiver is still there, and nothing else
at any time. -/
theorem first_outcome_delivered (inputs : List Input) : Account inputs (run .oneShot inputs) where
  refuses e he := by
    obtain ⟨connected, slot, hrun, -⟩ := exists_slot inputs
    rw [hrun]
    exact deliver_refused he connected slot
  takes hnone hthere e outcome htells := by
    refine ⟨?_, received_of_first htells hnone hthere⟩
    rw [(run_waiting hnone).1, present_iff.mpr hthere, deliver_taken htells]
  unheard hnone hdrop e he := by
    obtain ⟨outcome, htells⟩ := isTerminal_iff.mp he
    have hgone : present inputs = false := decide_eq_false (not_not_intro hdrop)
    rw [(run_waiting hnone).1, hgone, deliver_unheard htells]
  usedUp hended e he := by
    obtain ⟨outcome, htells⟩ := isTerminal_iff.mp he
    obtain ⟨connected, slot, hrun, hslot⟩ := exists_slot inputs
    rw [hrun]
    exact deliver_late htells connected (hslot hended)
  held := received_eq_toList inputs
  atMostOne := by
    rw [received_eq_toList]
    exact Option.length_toList_le
  gets outcome := received_eq_singleton
  getsAny := received_ne_nil

def lateReply (number : UInt64) : Event :=
  .commandFeedback ⟨"D2"⟩ ⟨number⟩ .default .locked "STATUS_LOCKED" "D2 FEEDBACK 7 D0 STATUS_LOCKED"

/-- The receiver has left before the command timed out, and a reply comes after that. -/
def lateInputs : List Input :=
  [.deliver (.hubRaw "x"), .drop, .deliver (.commandError ⟨"D2"⟩ ⟨7⟩ .timeout "No FEEDBACK from hub")]

theorem first_outcome_delivered_late :
    (run .oneShot lateInputs).deliver (lateReply 7) =
        (run .oneShot lateInputs, .error .alreadyDelivered) ∧
      received .oneShot lateInputs = [] ∧
      received .oneShot ([.deliver (.hubRaw "x")] ++ [.deliver (lateReply 7)]) =
        [.ok ⟨⟨"D2"⟩, ⟨7⟩, .default, .locked, "STATUS_LOCKED"⟩] := by
  have hended : ¬NoneEnds lateInputs := by
    intro h
    have hterminal := h _ (List.mem_cons_of_mem _ (List.mem_cons_of_mem _ List.mem_cons_self))
    cases hterminal
  have hnone : NoneEnds [.deliver (.hubRaw "x")] := by simp [NoneEnds, isTerminal]
  refine ⟨(first_outcome_delivered lateInputs).usedUp hended _ rfl, rfl, ?_⟩
  exact ((first_outcome_delivered [.deliver (.hubRaw "x")]).takes hnone (by decide) _ _
    (.reply _ _ _ _ _ _)).2

end OneShot

end HubBridge.Proofs
