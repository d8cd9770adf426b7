import HubBridge.Proofs.FailedSends

/-!
# How many answers an observer finds to its command

An observer that asked is told how its command ended, and as one of the audience it is told besides of
every feedback that the hub sends, whatever its id. So it finds one answer more than there were
feedbacks with the id of its command: a single one after a timeout or a failed send, but two for a
command that was replied to, and one more whenever the hub repeats itself.
-/

namespace HubBridge.Proofs

variable {σ : Type} {send : Link (StateM σ)}

/-! ### Counting answers -/

/-- The event says of the command of the id how it ended, to whomever it says so. -/
def isAnswer (id : CorrelationId) : Event → Bool
  | .commandFeedback _ other .. | .commandError _ other .. => other = id
  | .doorFeedback .. | .hubEvent .. | .hubHeartbeat .. | .hubHello .. | .hubRaw _ => false

def answersIn (id : CorrelationId) (events : List Event) : Nat := events.countP (isAnswer id)

/-- How many of the datagrams that were heard reply to the id. -/
def feedbacksFor (id : CorrelationId) (log : List Occurrence) : Nat :=
  (heardOf log).countP fun heard => replyId (.ofDatagram heard.2) = some id

lemma feedbacksFor_append (id : CorrelationId) (log later : List Occurrence) :
    feedbacksFor id (log ++ later) = feedbacksFor id log + feedbacksFor id later := by
  rw [feedbacksFor, heardOf_append, List.countP_append]
  rfl

lemma isAnswer_of_terminal {id other : CorrelationId} {e : Event} (h : Terminal other e) :
    isAnswer id e = decide (other = id) := by
  cases h <;> rfl

lemma answersIn_publications (id : CorrelationId) (message : Message) :
    answersIn id (publications message) = if replyId message = some id then 1 else 0 := by
  cases message with
  | feedback m other target rawAction raw =>
    by_cases hid : other = id
    · simp [answersIn, publications, isAnswer, replyId, replyEvent, hid]
    · simp [answersIn, publications, isAnswer, replyId, replyEvent, hid]
  | event m target rawEvent raw => rfl
  | heartbeat m raw => rfl
  | hello m raw => rfl
  | raw raw => rfl

/-- The audience finds an answer for every feedback with the id. -/
lemma answersIn_published (id : CorrelationId) (heard : List (Int × ByteArray)) :
    answersIn id (heard.flatMap fun x => publications (.ofDatagram x.2)) =
      heard.countP fun x => replyId (.ofDatagram x.2) = some id := by
  induction heard with
  | nil => rfl
  | cons x heard ih =>
    have hcons : answersIn id ((x :: heard).flatMap fun x => publications (.ofDatagram x.2)) =
        answersIn id (publications (.ofDatagram x.2)) +
          answersIn id (heard.flatMap fun x => publications (.ofDatagram x.2)) := by
      rw [answersIn, List.flatMap_cons, List.countP_append]
      rfl
    rw [hcons, ih, answersIn_publications, List.countP_cons, Nat.add_comm]
    simp only [decide_eq_true_eq]

/-- An answer in a stream is either told to the observer that asked or published. -/
lemma answersIn_receptions (id : CorrelationId) {rs : List Reception}
    (h : ∀ other event, .outcome other event ∈ rs → Terminal other event) :
    answersIn id (rs.map Reception.event) =
      (outcomesOf id rs).length + answersIn id (rs.filterMap Reception.broadcast?) := by
  induction rs with
  | nil => rfl
  | cons r rs ih =>
    have hrest := ih fun other event hmem => h other event (List.mem_cons_of_mem r hmem)
    unfold answersIn outcomesOf at hrest ⊢
    rw [List.map_cons, List.countP_cons, hrest, List.filter_cons]
    cases r with
    | outcome other e =>
      have hsame : (Reception.outcome other e :: rs).filterMap Reception.broadcast? =
          rs.filterMap Reception.broadcast? := rfl
      have hother : isAnswer id (Reception.outcome other e).event = decide (other = id) :=
        isAnswer_of_terminal (h other e List.mem_cons_self)
      rw [hsame, hother, Reception.outcomeId?]
      by_cases hid : other = id
      · simp only [hid, decide_true, if_true, List.length_cons]
        omega
      · simp only [hid, Option.some_inj, decide_false, Bool.false_eq_true, if_false, Nat.add_zero]
    | broadcast e =>
      have hmore : (Reception.broadcast e :: rs).filterMap Reception.broadcast? =
          e :: rs.filterMap Reception.broadcast? := rfl
      have hnone : decide ((Reception.broadcast e).outcomeId? = some id) = false := rfl
      rw [hmore, hnone, List.countP_cons, if_neg Bool.false_ne_true, Nat.add_assoc]
      rfl

lemma Receives.answers {d e : Desk σ} {observer : ObserverId} {rs : List Reception}
    {ids : List CorrelationId} (h : Receives observer d e rs ids) (id : CorrelationId) :
    answersIn id (rs.map Reception.event) =
      (outcomesOf id rs).length + feedbacksFor id (occurred d e) := by
  rw [answersIn_receptions id h.terminal, h.broadcasts, answersIn_published]
  rfl

/-! ### Before the command and after it -/

/-- Of an id that no command has yet, nobody is told as its requester. -/
lemma outcomesOf_unissued {timing : Timing} {world : σ} {d : Desk σ} {run : List (Desk σ)}
    (hstart : Turns send (.start timing world) d) (hrun : (d :: run).IsChain (Turn send))
    (hids : IdsSuffice (run.getLastD d).log) {id : CorrelationId}
    (hid : ordinal (run.getLastD d).session.nextId ≤ ordinal id) (observer : ObserverId) :
    outcomesOf id (receptionsAlong observer d run) = [] := by
  induction run generalizing d with
  | nil => rfl
  | cons e run ih =>
    obtain ⟨hturn, hrest⟩ := List.isChain_cons_cons.mp hrun
    have hlog := log_of_isChain (happenings_of_turns hrun)
    have hturns := hstart.trans (turns_of_isChain hrun)
    have horderly : Orderly d := Turns.orderly hstart (hids.of_prefix hlog)
    have hless := Asked.ordinal_nextId_le horderly (Turns.orderly hturns hids) hlog
    have hnone : d.session.pending.get? id = none := by
      by_contra hsome
      obtain ⟨entry, hget⟩ := Option.ne_none_iff_exists'.mp hsome
      have := (horderly.entry id entry hget).2
      omega
    rw [List.getLastD_cons] at hids hid
    rw [receptionsAlong, outcomesOf_append, ih (hstart.tail hturn) hrest hids hid, List.append_nil]
    exact outcomesOf_flatMap_nil (.inr hnone) observer

lemma length_toldOf {id : CorrelationId} {entry : PendingCommand Party} {log : List Occurrence} :
    (toldOf id entry (log.find? (decides id))).length = (log.find? (decides id)).isSome.toNat := by
  cases hfirst : log.find? (decides id) with
  | none => rfl
  | some x =>
    obtain ⟨event, hx⟩ := decides_eq_true (List.find?_some hfirst)
    rw [toldOf, Option.bind_some, hx]
    rfl

lemma find?_decides_of_feedback {id : CorrelationId} {log : List Occurrence}
    (h : feedbacksFor id log ≠ 0) : (log.find? (decides id)).isSome = true := by
  obtain ⟨heard, hmem, hreply⟩ := List.countP_pos_iff.mp (Nat.pos_of_ne_zero h)
  obtain ⟨x, hx, hheard⟩ := List.mem_filterMap.mp hmem
  refine List.find?_isSome.mpr ⟨x, hx, ?_⟩
  cases x with
  | heard time bytes =>
    cases hheard
    obtain ⟨reply, hevent, hid⟩ := Option.map_eq_some_iff.mp (of_decide_eq_true hreply)
    have htidings : tidings (.heard time bytes) = some (reply.1, fun _ => reply.2) := by
      rw [tidings, hevent]
      rfl
    rw [decides_of_tidings htidings]
    exact decide_eq_true hid
  | rang alarm => cases hheard
  | joined newcomer => cases hheard
  | issued command => cases hheard
  | sent command cause => cases hheard
  | wrote text cause => cases hheard

/-! ### The result -/

variable (send) in
/-- An observer joins at `c`, sends a command after `before`, and attends till the end of `after`. -/
structure Stays (c : Desk σ) (request : Request) (before after : List (Desk σ)) : Prop where
  earlier : (c.joined :: before).IsChain (Turn send)
  free : (before.getLastD c.joined).flight = none
  later : ((before.getLastD c.joined).submit request c.session.audience.nextId :: after).IsChain
    (Turn send)
  attends : ∀ x ∈ c.joined :: before ++
    (before.getLastD c.joined).submit request c.session.audience.nextId :: after,
      x.Attends c.session.audience.nextId
  ids : IdsSuffice (after.getLastD
    ((before.getLastD c.joined).submit request c.session.audience.nextId)).log
  seats : SeatsSuffice (after.getLastD
    ((before.getLastD c.joined).submit request c.session.audience.nextId)).log

/-- The answers to its command that an observer finds on its stream at `last`, if it came at `joined`
and its command got its id at `d`, after which all was as at `asked`. -/
structure AnswersHeld (observer : ObserverId) (joined d asked last : Desk σ) : Prop where
  /-- The end of the command is one, and every feedback with its id is another. -/
  count : answersIn d.session.nextId (last.session.stream observer) =
    (last.session.pending.get? d.session.nextId).isNone.toNat +
      feedbacksFor d.session.nextId (occurred joined last)
  /-- Once a reply was handled the command has ended, and there are at least two. -/
  replied : feedbacksFor d.session.nextId (occurred asked last) ≠ 0 →
    last.session.pending.get? d.session.nextId = none ∧
      2 ≤ answersIn d.session.nextId (last.session.stream observer)
  /-- The command has ended as well once its time is up and all alarms that were due have rung. -/
  expired : d.session.clock + d.session.timing.replyTimeout ≤ last.session.clock →
    (∀ alarm ∈ last.session.pending.alarms, last.session.clock < alarm.due) →
      last.session.pending.get? d.session.nextId = none
  /-- There is just one exactly if the hub never sent a feedback with the id. -/
  single : last.session.pending.get? d.session.nextId = none →
    (answersIn d.session.nextId (last.session.stream observer) = 1 ↔
      feedbacksFor d.session.nextId (occurred joined last) = 0)

section Stay

variable {c : Desk σ} {request : Request} {before after : List (Desk σ)} {timing : Timing}
  {world : σ}

/-- What the stream of the observer takes in from its coming to the end. -/
lemma Stays.receives (h : Stays send c request before after)
    (hstart : Turns send (.start timing world) c) :
    let observer := c.session.audience.nextId
    let d := before.getLastD c.joined
    let asked := d.submit request observer
    ∃ ids, Receives observer c.joined (after.getLastD asked)
      (receptionsAlong observer c.joined before ++ receptions observer d asked ++
        receptionsAlong observer asked after) ids := by
  intro observer d asked
  have hjoined : Turns send (.start timing world) c.joined := hstart.tail (.connect c)
  have hd : Turns send (.start timing world) d := hjoined.trans (turns_of_isChain h.earlier)
  have hbefore := happenings_of_turns h.earlier
  have hafter := happenings_of_turns h.later
  have hasked : Turn send d asked := .submit d request (some observer) h.free
  have hroom : SeatsSuffice asked.log := h.seats.of_prefix (log_of_isChain hafter)
  have hattends : ∀ x ∈ c.joined :: before, x.Attends observer :=
    fun x hx => h.attends x (List.mem_append_left _ hx)
  have hafterwards : ∀ x ∈ asked :: after, x.Attends observer :=
    fun x hx => h.attends x (List.mem_append_right _ hx)
  have hlast : d.Attends observer := hattends d List.getLastD_mem_cons
  have hfirst := receives_run hjoined.gathered hbefore (hroom.of_prefix hasked.log_prefix) hattends
  have hsubmit := (Happening.turn hasked).receives hd.gathered hroom hlast
    (hafterwards _ List.mem_cons_self)
  have hsecond := receives_run (hasked.gathered hd.gathered) hafter h.seats hafterwards
  exact ⟨_, (hfirst.trans hsubmit (log_of_isChain hbefore) hasked.log_prefix).trans hsecond
    ((log_of_isChain hbefore).trans hasked.log_prefix) (log_of_isChain hafter)⟩

/-- Of its own command the observer is told once, when it ends. -/
lemma Stays.outcomes (h : Stays send c request before after)
    (hstart : Turns send (.start timing world) c) :
    let observer := c.session.audience.nextId
    let d := before.getLastD c.joined
    let asked := d.submit request observer
    let first := (occurred asked (after.getLastD asked)).find? (decides d.session.nextId)
    let entry := entryFor d.session.pending d.session.clock d.session.timing.replyTimeout
      (request.toCommand d.session.nextId) (.observer observer)
    (outcomesOf d.session.nextId (receptionsAlong observer c.joined before ++
        receptions observer d asked ++ receptionsAlong observer asked after)).length =
        first.isSome.toNat ∧
      (after.getLastD asked).session.pending.get? d.session.nextId =
        if first.isSome then none else some entry := by
  intro observer d asked first entry
  have hjoined : Turns send (.start timing world) c.joined := hstart.tail (.connect c)
  have hd : Turns send (.start timing world) d := hjoined.trans (turns_of_isChain h.earlier)
  have hturn : Turn send d asked := .submit d request (some observer) h.free
  have hasked : Turns send (.start timing world) asked := hd.tail hturn
  have hids : IdsSuffice asked.log :=
    h.ids.of_prefix (log_of_isChain (happenings_of_turns h.later))
  have hidsd : IdsSuffice d.log := hids.of_prefix hturn.log_prefix
  have horderly : Orderly d := Turns.orderly hd hidsd
  have hget : asked.session.pending.get? d.session.nextId = some entry :=
    get?_submit horderly request observer
  have hless := ((Turns.orderly hasked hids).entry _ _ hget).2
  have hearlier : outcomesOf d.session.nextId (receptionsAlong observer c.joined before) = [] :=
    outcomesOf_unissued hjoined h.earlier hidsd (Nat.le_refl _) observer
  have hnow : outcomesOf d.session.nextId (receptions observer d asked) = [] :=
    outcomesOf_flatMap_nil (.inr horderly.free) observer
  have htold := outcomesOf_waiting hasked h.later h.ids hless hget rfl
  refine ⟨?_, get?_waiting hasked h.later h.ids hless hget⟩
  rw [outcomesOf_append, outcomesOf_append, hearlier, hnow, htold]
  exact length_toldOf

end Stay

/-- For an observer that joins whenever it likes, sends a command and stays. -/
theorem answers_counted {timing : Timing} {world : σ} {c : Desk σ} {request : Request}
    {before after : List (Desk σ)} (hstart : Turns send (.start timing world) c)
    (h : Stays send c request before after) :
    let observer := c.session.audience.nextId
    let d := before.getLastD c.joined
    let asked := d.submit request observer
    AnswersHeld observer c.joined d asked (after.getLastD asked) := by
  intro observer d asked
  have hasked : Turn send d asked := .submit d request (some observer) h.free
  have hend := turns_of_isChain h.later
  have hlog : asked.log <+: (after.getLastD asked).log := log_of_isChain (happenings_of_turns h.later)
  have hlog' : c.joined.log <+: asked.log :=
    (log_of_isChain (happenings_of_turns h.earlier)).trans hasked.log_prefix
  have htidy : Tidy (after.getLastD asked) := Turns.tidy
    ((((hstart.tail (.connect c)).trans (turns_of_isChain h.earlier)).tail hasked).trans hend) h.ids
  obtain ⟨ids, hreceives⟩ := h.receives hstart
  obtain ⟨htold, hlast⟩ := h.outcomes hstart
  have hempty : c.joined.session.stream observer = [] :=
    stream_eq (Sinks.get?_insert_self c.session.sinks (.observer observer) .stream)
  have hcount : answersIn d.session.nextId ((after.getLastD asked).session.stream observer) =
      ((after.getLastD asked).session.pending.get? d.session.nextId).isNone.toNat +
        feedbacksFor d.session.nextId (occurred c.joined (after.getLastD asked)) := by
    rw [hreceives.stream (h.attends _ List.mem_cons_self), hempty, List.nil_append,
      hreceives.answers, htold, hlast]
    cases ((occurred asked (after.getLastD asked)).find? (decides d.session.nextId)).isSome <;> rfl
  constructor
  · exact hcount
  · intro hreplied
    have hgone := hlast
    rw [find?_decides_of_feedback hreplied, if_pos rfl] at hgone
    refine ⟨hgone, ?_⟩
    have hmore : feedbacksFor d.session.nextId (occurred c.joined (after.getLastD asked)) =
        feedbacksFor d.session.nextId (occurred c.joined asked) +
          feedbacksFor d.session.nextId (occurred asked (after.getLastD asked)) := by
      rw [occurred_trans hlog' hlog, feedbacksFor_append]
    rw [hcount, hgone, hmore]
    simp only [Option.isNone_none, Bool.toNat_true]
    omega
  · intro htime hrung
    by_contra hsome
    obtain ⟨entry, hget⟩ := Option.ne_none_iff_exists'.mp hsome
    have hsame := hget
    rw [hlast] at hsame
    split at hsame
    · cases hsame
    · obtain rfl := Option.some.inj hsame
      have hdue := hrung _ (htidy.wound.isSet _ _ hget)
      exact absurd htime (Nat.not_le.mpr hdue)
  · intro hgone
    rw [hcount, hgone]
    simp only [Option.isNone_none, Bool.toNat_true]
    omega

def quietDesk : Desk Unit := .start .default ()

/-- An observer asks for a status and no reply comes in time. -/
def quietRun : List (Desk Unit) :=
  let joined := quietDesk.joined
  let sent := (joined.submit (.status ⟨"D1"⟩) ⟨1⟩).land plainLink
    (joined.submission (.status ⟨"D1"⟩) ⟨1⟩)
  let late := { sent with session := { sent.session with clock := 5000 } }
  [sent, late, late.ring ⟨0, ⟨1⟩, 5000⟩]

lemma quietRun_stays : Stays plainLink quietDesk (.status ⟨"D1"⟩) [] quietRun where
  earlier := .singleton _
  free := rfl
  later := .cons_cons (.land _ _ rfl) (.cons_cons (.pass _ _ (by decide +kernel))
    (.cons_cons (.ring _ _ (by decide +kernel) (by decide +kernel)) (.singleton _)))
  attends := by decide +kernel
  ids := by decide +kernel
  seats := by decide +kernel

theorem answers_counted_quiet :
    let last := quietRun.getLastD (quietDesk.joined.submit (.status ⟨"D1"⟩) ⟨1⟩)
    last.session.pending.get? ⟨1⟩ = none ∧ answersIn ⟨1⟩ (last.session.stream ⟨1⟩) = 1 := by
  intro last
  have h := answers_counted .refl quietRun_stays
  have hgone : last.session.pending.get? ⟨1⟩ = none :=
    h.expired (by decide +kernel) (by decide +kernel)
  exact ⟨hgone, (h.single hgone).mpr (by decide +kernel)⟩

/-- An observer that is replied to at once finds two answers to its one command. -/
theorem answered_twice :
    let s := (reached plainLink .default () [.connect, .submit ⟨1⟩ (.status ⟨"D1"⟩),
      .datagram 0 "D1 FEEDBACK 1 D0 STATUS_LOCKED".toUTF8]).1
    s.pending.get? ⟨1⟩ = none ∧ answersIn ⟨1⟩ (s.stream ⟨1⟩) = 2 := by
  decide +kernel

end HubBridge.Proofs
