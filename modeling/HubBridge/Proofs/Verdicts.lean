import HubBridge.Proofs.TurnEffects

/-!
# What the log tells of a command

What becomes of a command is decided by two things: whether its datagram was lost, and what comes
first, a reply to its id or its alarm. Both can be read off the log, so the outcome that a caller is
told can be stated without the table, the alarms and the slots that bring it about.
-/

namespace HubBridge.Proofs

/-- The outcome that a message brings to the command of an id. -/
def answer (id : CorrelationId) : Message → Option Outcome
  | .feedback m other target rawAction _ =>
    if other = id then some (.ok ⟨m, id, target, (Reading.ofAction rawAction).status, rawAction⟩)
    else none
  | .event .. | .heartbeat .. | .hello .. | .raw _ => none

def passageOf (id : CorrelationId) : Occurrence → Option (Option String)
  | .sent command cause => if command.id = id then some cause else none
  | _ => none

def endingOf? (m : ModuleId) (id : CorrelationId) : Occurrence → Option Outcome
  | .heard _ bytes => answer id (.ofDatagram bytes)
  | .rang alarm => if alarm.id = id then some (.error (.timeout m id)) else none
  | _ => none

/-- What became of the datagram of a command: nothing yet, or it was lost for a cause, or not. -/
def passage (id : CorrelationId) (log : List Occurrence) : Option (Option String) :=
  log.findSome? (passageOf id)

/-- How the entry of a command ends: by the first reply to its id, or by its alarm. -/
def ending? (m : ModuleId) (id : CorrelationId) (log : List Occurrence) : Option Outcome :=
  log.findSome? (endingOf? m id)

/-- The outcome of a command by the log, as far as it is known. A datagram that was lost counts before
all that came while it was on its way. -/
def verdict (m : ModuleId) (id : CorrelationId) (log : List Occurrence) : Option Outcome :=
  match passage id log with
  | none => none
  | some (some cause) => some (.error (.transport cause))
  | some none => ending? m id log

lemma passage_append (id : CorrelationId) (log later : List Occurrence) :
    passage id (log ++ later) = (passage id log).or (passage id later) := List.findSome?_append

lemma ending?_append (m : ModuleId) (id : CorrelationId) (log later : List Occurrence) :
    ending? m id (log ++ later) = (ending? m id log).or (ending? m id later) :=
  List.findSome?_append

lemma answer_eq (id : CorrelationId) (message : Message) :
    answer id message = (replyEvent message).bind fun reply =>
      if reply.1 = id then reply.2.outcome? else none := by
  cases message with
  | feedback m other target rawAction raw =>
    dsimp only [answer, replyEvent, Option.bind_some]
    by_cases h : other = id
    · rw [if_pos h, if_pos h, h]
      rfl
    · rw [if_neg h, if_neg h]
  | event m target rawEvent raw => rfl
  | heartbeat m raw => rfl
  | hello m raw => rfl
  | raw raw => rfl

lemma answer_ne_error (id : CorrelationId) (message : Message) (failure : Failure) :
    answer id message ≠ some (.error failure) := by
  cases message with
  | feedback m other target rawAction raw =>
    unfold answer
    split <;> simp
  | event m target rawEvent raw => simp [answer]
  | heartbeat m raw => simp [answer]
  | hello m raw => simp [answer]
  | raw raw => simp [answer]

lemma passage_of_silent {later : List Occurrence} (h : ∀ x ∈ later, Silent x) (id : CorrelationId) :
    passage id later = none := by
  apply List.findSome?_eq_none_iff.mpr
  intro x hx
  have hsilent := h x hx
  cases x with
  | heard time bytes => rfl
  | rang alarm => rfl
  | joined newcomer => rfl
  | issued command => rfl
  | sent command cause => cases hsilent
  | wrote text cause => rfl

lemma ending?_of_silent {later : List Occurrence} (h : ∀ x ∈ later, Silent x) (m : ModuleId)
    (id : CorrelationId) : ending? m id later = none := by
  apply List.findSome?_eq_none_iff.mpr
  intro x hx
  have hsilent := h x hx
  cases x with
  | heard time bytes =>
    have hnone : replyEvent (.ofDatagram bytes) = none := hsilent
    rw [endingOf?, answer_eq, hnone, Option.bind_none]
  | rang alarm => cases hsilent
  | joined newcomer => rfl
  | issued command => rfl
  | sent command cause => rfl
  | wrote text cause => rfl

/-- A failure that a call is told is of one of two kinds. -/
lemma verdict_failure {m : ModuleId} {id : CorrelationId} {log : List Occurrence} {failure : Failure}
    (h : verdict m id log = some (.error failure)) :
    (∃ cause, failure = .transport cause) ∨ failure = .timeout m id := by
  unfold verdict at h
  split at h
  · cases h
  · cases h
    exact .inl ⟨_, rfl⟩
  · obtain ⟨x, -, hx⟩ := List.exists_of_findSome?_eq_some h
    cases x with
    | heard time bytes => exact absurd hx (answer_ne_error id _ failure)
    | rang alarm =>
      dsimp only [endingOf?] at hx
      split at hx
      · cases hx
        exact .inr rfl
      · cases hx
    | joined newcomer => cases hx
    | issued command => cases hx
    | sent command cause => cases hx
    | wrote text cause => cases hx

/-- A reply that a call is told was heard. -/
lemma heard_of_verdict {m : ModuleId} {id : CorrelationId} {log : List Occurrence} {reply : Reply}
    (h : verdict m id log = some (.ok reply)) :
    ∃ time bytes, .heard time bytes ∈ log ∧ answer id (.ofDatagram bytes) = some (.ok reply) := by
  unfold verdict at h
  split at h
  · cases h
  · cases h
  · obtain ⟨x, hmem, hx⟩ := List.exists_of_findSome?_eq_some h
    cases x with
    | heard time bytes => exact ⟨time, bytes, hmem, hx⟩
    | rang alarm =>
      dsimp only [endingOf?] at hx
      split at hx <;> cases hx
    | joined newcomer => cases hx
    | issued command => cases hx
    | sent command cause => cases hx
    | wrote text cause => cases hx

/-- A call has made of its outcome what it should: its result, or a poll and then the poll's end. -/
def Learned (purpose : Purpose) (outcome : Outcome) (stage : CallStage) : Prop :=
  match inquiry purpose outcome with
  | none => stage = .finished (purpose.result outcome)
  | some (reply, poll) =>
    (∃ attempts wake, stage = .polling reply { poll with attempts } wake) ∨
      ∃ c, stage = .finished (.actuation (.ok ⟨reply, some c⟩))

end HubBridge.Proofs
