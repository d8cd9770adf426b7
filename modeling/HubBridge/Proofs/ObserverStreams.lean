import HubBridge.Proofs.DoorRecords
import HubBridge.Proofs.Streams

/-!
# All observers see the same history

Whoever attends is told of every datagram, in order and once. Besides, an observer is told how its own
commands end, on the same stream. `Receives` tells the two apart and accounts for both: one step after
the other first, then over a whole run, during which other observers may come, leave and fail.
-/

namespace HubBridge.Proofs

variable {σ : Type} {send : Link (StateM σ)}

variable (send) in
/-- A turn of the session, or the end of an observer fails in whatever way. -/
inductive Happening : Desk σ → Desk σ → Prop
  | turn {d e : Desk σ} (h : Turn send d e) : Happening d e
  | fault (d : Desk σ) (id : ObserverId) (sink : Sink)
      (hfails : ∀ inbox, sink ≠ .channel true inbox) :
      Happening d { d with
        session := { d.session with sinks := d.session.sinks.insert (.observer id) sink } }

lemma Happening.gathered {d e : Desk σ} (h : Happening send d e) (hd : Gathered d) :
    Gathered e := by
  cases h with
  | turn hturn => exact hturn.gathered hd
  | fault id sink hfails =>
    exact ⟨hd.toSeated.same rfl (hd.sinks.insert _ sink), hd.counts⟩

lemma Happening.log_prefix {d e : Desk σ} (h : Happening send d e) : d.log <+: e.log := by
  cases h with
  | turn hturn => exact hturn.log_prefix
  | fault id sink hfails => exact List.prefix_rfl

/-! ### What a stream takes in -/

/-- What occurred from one desk to a later one. -/
def occurred (d e : Desk σ) : List Occurrence := e.log.drop d.log.length

lemma occurred_eq {d e : Desk σ} {later : List Occurrence} (h : e.log = d.log ++ later) :
    occurred d e = later := by
  rw [occurred, h, List.drop_left]

lemma occurred_trans {d e f : Desk σ} (h : d.log <+: e.log) (h' : e.log <+: f.log) :
    occurred d f = occurred d e ++ occurred e f := by
  obtain ⟨later, hlater⟩ := h
  obtain ⟨more, hmore⟩ := h'
  rw [occurred_eq hlater.symm, occurred_eq hmore.symm]
  apply occurred_eq
  rw [← hmore, ← hlater, List.append_assoc]

/-- The id that an occurrence decides, and what the requester of that id is told. -/
def tidings : Occurrence → Option (CorrelationId × (PendingCommand Party → Event))
  | .heard _ bytes => (replyEvent (.ofDatagram bytes)).map fun reply => (reply.1, fun _ => reply.2)
  | .rang alarm => some (alarm.id, expiryOf alarm.id)
  | .sent command cause => cause.map fun cause =>
      (command.id, failureOf command.id (Failure.transport cause).message)
  | .joined _ | .issued _ | .wrote .. => none

/-- The entry that an occurrence ends, by its id, and the call of its requester. -/
def summons (p : Pending Party) (x : Occurrence) : Option (CorrelationId × Delivery Party) :=
  (tidings x).bind fun t => (endingOf p t.1 t.2).map fun ending => (t.1, ending.delivery)

/-- What the audience is told of an occurrence. -/
def published : Occurrence → List Event
  | .heard _ bytes => publications (.ofDatagram bytes)
  | .rang _ | .joined _ | .issued _ | .sent .. | .wrote .. => []

/-- An event in the stream of an observer. -/
inductive Reception
  /-- It ends a command of the observer's own, which has this id. -/
  | outcome (id : CorrelationId) (e : Event)
  | broadcast (e : Event)
  deriving DecidableEq

namespace Reception

def event : Reception → Event
  | outcome _ e | broadcast e => e

def broadcast? : Reception → Option Event
  | outcome .. => none
  | broadcast e => some e

def outcomeId? : Reception → Option CorrelationId
  | outcome id _ => some id
  | broadcast _ => none

end Reception

/-- What the stream of an observer takes in for an occurrence, if these commands wait. -/
def receptionsOf (id : ObserverId) (p : Pending Party) (x : Occurrence) : List Reception :=
  (((summons p x).filter fun c => c.2.requester = .observer id).map fun c =>
    Reception.outcome c.1 c.2.event).toList ++ (published x).map .broadcast

def receptions (id : ObserverId) (d e : Desk σ) : List Reception :=
  (occurred d e).flatMap (receptionsOf id d.session.pending)

/-- The event ends the command of the id. -/
inductive Terminal (id : CorrelationId) : Event → Prop
  | feedback (m : ModuleId) (target : Target) (status : Status) (rawAction raw : String) :
      Terminal id (.commandFeedback m id target status rawAction raw)
  | error (m : ModuleId) (kind : FailureKind) (cause : String) :
      Terminal id (.commandError m id kind cause)

/-- A command of the observer's waits under the id. -/
def waiting (p : Pending Party) (observer : ObserverId) (id : CorrelationId) : Bool :=
  (p.get? id).any fun entry => entry.requester = .observer observer

/-- The id of the command that the observer has just sent on its way. -/
def entered (observer : ObserverId) (d e : Desk σ) : List CorrelationId :=
  match d.flight, e.flight with
  | none, some ⟨command, .submission (some sender)⟩ => if sender = observer then [command.id] else []
  | _, _ => []

/-- From `d` to `e` the observer's stream takes in just these: all that was published, and one outcome
for each of its commands that ended, where `ids` are those of the commands that it sent. -/
structure Receives (observer : ObserverId) (d e : Desk σ) (rs : List Reception)
    (ids : List CorrelationId) : Prop where
  slot : ∀ inbox, d.session.sinks.get? (.observer observer) = some (.channel true inbox) →
    e.session.sinks.get? (.observer observer) =
      some (.channel true (inbox ++ rs.map Reception.event))
  broadcasts : rs.filterMap Reception.broadcast? =
    (heardOf (occurred d e)).flatMap fun heard => publications (.ofDatagram heard.2)
  terminal : ∀ id event, .outcome id event ∈ rs → Terminal id event
  once : ∀ id, (waiting d.session.pending observer id).toNat + ids.count id =
    (rs.filterMap Reception.outcomeId?).count id + (waiting e.session.pending observer id).toNat

lemma Receives.trans {observer : ObserverId} {d e f : Desk σ} {rs rs' : List Reception}
    {ids ids' : List CorrelationId} (h : Receives observer d e rs ids)
    (h' : Receives observer e f rs' ids') (hlog : d.log <+: e.log) (hlog' : e.log <+: f.log) :
    Receives observer d f (rs ++ rs') (ids ++ ids') where
  slot inbox hinbox := by
    rw [List.map_append, ← List.append_assoc]
    exact h'.slot _ (h.slot inbox hinbox)
  broadcasts := by
    rw [occurred_trans hlog hlog', heardOf_append, List.flatMap_append, List.filterMap_append,
      h.broadcasts, h'.broadcasts]
  terminal id event hmem := by
    rcases List.mem_append.mp hmem with hmem | hmem
    · exact h.terminal id event hmem
    · exact h'.terminal id event hmem
  once id := by
    rw [List.filterMap_append, List.count_append, List.count_append]
    have := h.once id
    have := h'.once id
    omega

/-! ### One occurrence -/

lemma tidings_terminal {x : Occurrence} {id : CorrelationId} {event : PendingCommand Party → Event}
    (h : tidings x = some (id, event)) (entry : PendingCommand Party) : Terminal id (event entry) := by
  cases x with
  | heard time bytes =>
    obtain ⟨reply, hreply, heq⟩ := Option.map_eq_some_iff.mp h
    cases heq
    unfold replyEvent at hreply
    split at hreply
    · cases hreply
      exact .feedback _ _ _ _ _
    all_goals cases hreply
  | rang alarm =>
    cases h
    exact .error _ _ _
  | joined newcomer => cases h
  | issued command => cases h
  | sent command cause =>
    obtain ⟨cause, -, heq⟩ := Option.map_eq_some_iff.mp h
    cases heq
    exact .error _ _ _
  | wrote text cause => cases h

lemma receptionsOf_terminal {observer : ObserverId} {p : Pending Party} {x : Occurrence}
    {id : CorrelationId} {event : Event} (h : .outcome id event ∈ receptionsOf observer p x) :
    Terminal id event := by
  rcases List.mem_append.mp h with h | h
  · obtain ⟨c, hc, heq⟩ := Option.map_eq_some_iff.mp (Option.mem_toList.mp h)
    cases heq
    obtain ⟨t, ht, hending⟩ := Option.bind_eq_some_iff.mp (Option.filter_eq_some_iff.mp hc).1
    obtain ⟨ending, hget, rfl⟩ := Option.map_eq_some_iff.mp hending
    obtain ⟨-, hevent⟩ := endingOf_eq_some.mp hget
    dsimp only [Ending.delivery]
    rw [hevent]
    exact tidings_terminal ht _
  · obtain ⟨e, -, heq⟩ := List.mem_map.mp h
    cases heq

lemma broadcasts_receptionsOf (observer : ObserverId) (p : Pending Party) (x : Occurrence) :
    (receptionsOf observer p x).filterMap Reception.broadcast? = published x := by
  unfold receptionsOf
  rw [List.filterMap_append, List.filterMap_map]
  have hnone : ∀ c : Option (CorrelationId × Delivery Party), (c.map fun c =>
      Reception.outcome c.1 c.2.event).toList.filterMap Reception.broadcast? = [] := by
    intro c
    cases c <;> rfl
  rw [hnone, List.nil_append]
  exact List.filterMap_some

lemma outcomes_receptionsOf (observer : ObserverId) (p : Pending Party) (x : Occurrence) :
    (receptionsOf observer p x).filterMap Reception.outcomeId? =
      (((tidings x).map Prod.fst).filter fun id => waiting p observer id).toList := by
  unfold receptionsOf
  rw [List.filterMap_append, List.filterMap_map]
  have hnone : (published x).filterMap (Reception.outcomeId? ∘ .broadcast) = [] :=
    List.filterMap_eq_nil_iff.mpr fun _ _ => rfl
  rw [hnone, List.append_nil, summons]
  cases tidings x with
  | none => rfl
  | some t =>
    rw [Option.bind_some, endingOf, Option.map_some, Option.filter_some, waiting]
    cases p.get? t.1 with
    | none => rfl
    | some entry =>
      rw [Option.map_some, Option.map_some, Option.filter_some, Option.any_some]
      have hsame : (Ending.mk entry (t.2 entry)).delivery.requester = entry.requester := rfl
      rw [hsame]
      by_cases howner : entry.requester = .observer observer
      · rw [if_pos (decide_eq_true howner), if_pos (decide_eq_true howner)]
        rfl
      · rw [if_neg fun h => howner (of_decide_eq_true h),
          if_neg fun h => howner (of_decide_eq_true h)]
        rfl

lemma events_receptionsOf (observer : ObserverId) (p : Pending Party) (x : Occurrence) :
    (receptionsOf observer p x).map Reception.event =
      (((((summons p x).map Prod.snd).filter fun d => d.requester = .observer observer).map
        Delivery.event).toList) ++ published x := by
  unfold receptionsOf
  rw [List.map_append, List.map_map]
  congr 1
  · cases h : summons p x with
    | none => rfl
    | some c =>
      rw [Option.map_some, Option.filter_some, Option.filter_some]
      split <;> rfl
  · exact List.map_id _

lemma published_eq (x : Occurrence) :
    published x = (heardOf [x]).flatMap fun heard => publications (.ofDatagram heard.2) := by
  cases x with
  | heard time bytes => exact (List.append_nil _).symm
  | rang alarm => rfl
  | joined newcomer => rfl
  | issued command => rfl
  | sent command cause => rfl
  | wrote text cause => rfl

lemma summons_heard (p : Pending Party) (time : Int) (bytes : ByteArray) :
    (summons p (.heard time bytes)).map Prod.snd = (replied p (.ofDatagram bytes)).2 := by
  rw [replied_snd, summons, tidings, Option.map_bind]
  cases replyEvent (.ofDatagram bytes) with
  | none => rfl
  | some reply =>
    dsimp only [Option.map_some, Option.bind_some, Function.comp]
    rw [endingOf, Option.map_map, Option.map_map]
    rfl

lemma summons_takesOut {p : Pending Party} {id : CorrelationId}
    {event : PendingCommand Party → Event} {result : Pending Party × Option (Delivery Party)}
    (h : TakesOut p id event result) {x : Occurrence} (hx : tidings x = some (id, event)) :
    (summons p x).map Prod.snd = result.2 := by
  rw [h.told, summons, hx, Option.bind_some, Option.map_map]
  rfl

/-- Each outcome that the observer is told of is that of an entry of its own, which is gone then. -/
lemma waiting_after {p q : Pending Party} {x : Occurrence} (observer : ObserverId)
    (hget : ∀ id, q.get? id = if (tidings x).map Prod.fst = some id then none else p.get? id)
    (id : CorrelationId) :
    (waiting p observer id).toNat =
      ((receptionsOf observer p x).filterMap Reception.outcomeId?).count id +
        (waiting q observer id).toNat := by
  have hafter : waiting q observer id =
      if (tidings x).map Prod.fst = some id then false else waiting p observer id := by
    rw [waiting, hget]
    split <;> rfl
  rw [outcomes_receptionsOf, hafter]
  cases (tidings x).map Prod.fst with
  | none => simp
  | some other =>
    rw [Option.filter_some]
    by_cases hid : other = id
    · subst hid
      cases waiting p observer other <;> simp
    · cases waiting p observer other <;> simp [hid]

/-- What one occurrence means for an observer, if the table and the sinks are as it leaves them. -/
lemma receives_occurrence {d e : Desk σ} {x : Occurrence} {observer : ObserverId}
    (hlog : e.log = d.log ++ [x])
    (hslot : ∀ inbox, d.session.sinks.get? (.observer observer) = some (.channel true inbox) →
      e.session.sinks.get? (.observer observer) = some (.channel true
        (inbox ++ (receptionsOf observer d.session.pending x).map Reception.event)))
    (hget : ∀ id, e.session.pending.get? id =
      if (tidings x).map Prod.fst = some id then none else d.session.pending.get? id) :
    Receives observer d e (receptions observer d e) [] := by
  have hoccurred := occurred_eq hlog
  have hreceptions : receptions observer d e = receptionsOf observer d.session.pending x := by
    rw [receptions, hoccurred, List.flatMap_singleton]
  rw [hreceptions]
  constructor
  · exact hslot
  · rw [hoccurred, broadcasts_receptionsOf, published_eq]
  · intro id event hmem
    exact receptionsOf_terminal hmem
  · intro id
    rw [List.count_nil]
    exact waiting_after observer hget id

/-- Nothing is told where nothing occurs. -/
lemma receives_nothing {d e : Desk σ} {observer : ObserverId} (hlog : e.log = d.log)
    (hslot : e.session.sinks.get? (.observer observer) = d.session.sinks.get? (.observer observer))
    (hpending : e.session.pending = d.session.pending) : Receives observer d e [] [] where
  slot inbox hinbox := by rw [hslot, hinbox, List.map_nil, List.append_nil]
  broadcasts := by
    rw [occurred_eq (hlog.trans (List.append_nil _).symm)]
    rfl
  terminal id event hmem := nomatch hmem
  once id := by rw [hpending, List.filterMap_nil, List.count_nil, Nat.zero_add, Nat.add_zero]

/-! ### One step -/

lemma slot_proceed (s : Session) (result : Except Failure CorrelationId) (errand : Errand)
    (observer : ObserverId) :
    (errand.proceed s result).sinks.get? (.observer observer) = s.sinks.get? (.observer observer) := by
  cases errand with
  | submission sender => rfl
  | opening call =>
    cases result with
    | ok id => rfl
    | error failure => exact Sinks.get?_erase_of_ne _ (by simp)
  | query call reply poll => rfl

lemma slot_launch (d : Desk σ) (request : Request) (errand : Errand) (observer : ObserverId) :
    (d.launch request errand).session.sinks.get? (.observer observer) =
      d.session.sinks.get? (.observer observer) := by
  have hsinks := sinks_reserve d.session request errand.requester
  unfold Desk.launch
  rcases hr : d.session.reserve request errand.requester with ⟨s, command, failure | ⟨⟩⟩
  · rw [hr] at hsinks
    rw [← hsinks]
    exact slot_proceed s _ errand observer
  · rw [hr] at hsinks
    rw [← hsinks]

/-- A command is registered or refused; it is refused only if its id is taken. -/
lemma reserve_cases (s : Session) (request : Request) (requester : Option Party) :
    (s.reserve request requester =
        ({ s with
            nextId := s.nextId.next
            pending := enrolled s.pending s.clock s.timing.replyTimeout
              (request.toCommand s.nextId) requester },
          request.toCommand s.nextId, .ok ()) ∧
      (requester ≠ none → s.pending.get? s.nextId = none)) ∨
    ∃ failure, s.reserve request requester =
      ({ s with nextId := s.nextId.next }, request.toCommand s.nextId, .error failure) := by
  cases hfree : s.pending.contains s.nextId with
  | false => exact .inl ⟨reserve_eq hfree request requester, fun _ => get?_eq_none hfree⟩
  | true =>
    cases requester with
    | none => exact .inl ⟨rfl, fun h => absurd rfl h⟩
    | some party =>
      have htaken : s.pending.contains (request.toCommand s.nextId).id = true := hfree
      refine .inr ⟨.duplicateId (request.toCommand s.nextId).id, ?_⟩
      rw [Session.reserve]
      dsimp only
      rw [register_eq_error htaken]

/-- A free id waits for the observer from now on, if the observer asked for it. -/
lemma waiting_enrolled {p : Pending Party} {command : Command} {requester : Option Party}
    (hunused : requester ≠ none → p.get? command.id = none) (now timeout : Nat)
    (observer : ObserverId) (id : CorrelationId) :
    (waiting (enrolled p now timeout command requester) observer id).toNat =
      (waiting p observer id).toNat +
        (if requester = some (.observer observer) then [command.id] else []).count id := by
  unfold waiting
  rw [get?_enrolled]
  cases requester with
  | none => simp
  | some party =>
    by_cases hid : id = command.id
    · subst hid
      rw [hunused (by simp), if_pos rfl, Option.map_some, Option.or_none]
      by_cases hparty : party = .observer observer
      · simp [hparty, entryFor]
      · simp [hparty, entryFor]
    · rw [if_neg hid]
      by_cases hparty : party = .observer observer
      · simp [hparty, Ne.symm hid]
      · simp [hparty]

lemma entered_eq {d e : Desk σ} {flight : Flight} (hfree : d.flight = none)
    (hflight : e.flight = some flight) (observer : ObserverId) :
    entered observer d e =
      if flight.errand.requester = some (.observer observer) then [flight.command.id] else [] := by
  obtain ⟨command, errand⟩ := flight
  unfold entered
  rw [hfree, hflight]
  cases errand with
  | submission sender => cases sender <;> simp [Errand.requester]
  | opening call => simp [Errand.requester]
  | query call reply poll => simp [Errand.requester]

lemma receives_launch {d : Desk σ} (hfree : d.flight = none) (request : Request) (errand : Errand)
    (observer : ObserverId) :
    Receives observer d (d.launch request errand) (receptions observer d (d.launch request errand))
      (entered observer d (d.launch request errand)) := by
  have hoccurred := occurred_eq (Desk.launch_log d request errand)
  have hreceptions : receptions observer d (d.launch request errand) = [] := by
    rw [receptions, hoccurred, List.flatMap_singleton]
    rfl
  rw [hreceptions]
  constructor
  · intro inbox hinbox
    rw [slot_launch, hinbox, List.map_nil, List.append_nil]
  · rw [hoccurred]
    rfl
  · intro id event hmem
    cases hmem
  · intro id
    rw [List.filterMap_nil, List.count_nil, Nat.zero_add]
    unfold Desk.launch
    rcases reserve_cases d.session request errand.requester with ⟨hr, hunused⟩ | ⟨failure, hr⟩
    · rw [hr, entered_eq hfree rfl]
      exact (waiting_enrolled hunused _ _ observer id).symm
    · rw [hr]
      unfold waiting entered
      dsimp only
      rw [hfree, (pending_proceed _ _ _).1]
      rfl

/-- The calls on requesters and the publications that go with an occurrence reach the stream as its
receptions. -/
lemma get?_receptionsOf {a : Audience Party} (hkeys : (a.members.map Prod.snd).Nodup)
    {observer : ObserverId} (hmember : .observer observer ∈ a.members.map Prod.snd)
    {sinks : Sinks Party} {inbox : List Event}
    (hsink : sinks.get? (.observer observer) = some (.channel true inbox)) (p : Pending Party)
    (x : Occurrence) :
    (publishAll a (((summons p x).map Prod.snd).toList.foldl Sinks.perform sinks)
        (published x)).get? (.observer observer) =
      some (.channel true (inbox ++ (receptionsOf observer p x).map Reception.event)) := by
  rw [get?_publishAll_channel hkeys hmember (get?_told_channel hsink _), events_receptionsOf,
    List.append_assoc]

lemma receives_hear {d : Desk σ} {observer : ObserverId} (hseated : Seated d.session)
    (hin : d.session.audience.contains observer = true) (time : Int) (bytes : ByteArray) :
    Receives observer d (d.hear time bytes) (receptions observer d (d.hear time bytes)) [] := by
  apply receives_occurrence (x := .heard time bytes) rfl
  · intro inbox hinbox
    have htold := get?_receptionsOf hseated.keys (hseated.mem_keys hin) hinbox d.session.pending
      (.heard time bytes)
    rw [summons_heard] at htold
    rw [← htold, Desk.hear, handle_eq]
    rfl
  · intro id
    have hid : (tidings (.heard time bytes)).map Prod.fst = replyId (.ofDatagram bytes) :=
      Option.map_map ..
    rw [hid]
    exact get?_handle d.session time (.ofDatagram bytes) id

lemma receives_ring {d : Desk σ} {observer : ObserverId} (hseated : Seated d.session)
    (hin : d.session.audience.contains observer = true) (alarm : Alarm) :
    Receives observer d (d.ring alarm) (receptions observer d (d.ring alarm)) [] := by
  have htakes := ring_takesOut d.session.pending alarm
  apply receives_occurrence (x := .rang alarm) rfl
  · intro inbox hinbox
    have htold := get?_receptionsOf hseated.keys (hseated.mem_keys hin) hinbox
      d.session.pending (.rang alarm)
    rw [summons_takesOut htakes rfl] at htold
    rw [← htold, Desk.ring, rung, tell_eq]
    rfl
  · intro id
    have hpending : (d.ring alarm).session.pending = (d.session.pending.ring alarm).1 :=
      (pending_tell _ _).1
    rw [hpending, htakes.get?]
    simp [tidings, eq_comm]

lemma receives_land {d : Desk σ} {observer : ObserverId} (hseated : Seated d.session)
    (hin : d.session.audience.contains observer = true) (flight : Flight) :
    Receives observer d (d.land send flight) (receptions observer d (d.land send flight)) [] := by
  apply receives_occurrence (x := .sent flight.command
    ((send flight.command.encode).run d.world).1) rfl
  · intro inbox hinbox
    rw [← get?_receptionsOf hseated.keys (hseated.mem_keys hin) hinbox]
    unfold Desk.land
    dsimp only
    rw [slot_proceed, sinks_settle]
    cases ((send flight.command.encode).run d.world).1 with
    | none => rfl
    | some cause =>
      rw [summons_takesOut (fail_takesOut d.session.pending flight.command.id
        (Failure.transport cause).message) rfl]
      rfl
  · intro id
    unfold Desk.land
    dsimp only
    rw [(pending_proceed _ _ _).1]
    cases ((send flight.command.encode).run d.world).1 with
    | none => rfl
    | some cause =>
      rw [settle_lost]
      dsimp only
      rw [(fail_takesOut d.session.pending flight.command.id
        (Failure.transport cause).message).get?]
      simp [tidings, eq_comm]

lemma Receives.unentered {d e : Desk σ} {observer : ObserverId} {rs : List Reception}
    (h : Receives observer d e rs []) (hflight : e.flight = d.flight ∨ e.flight = none) :
    Receives observer d e rs (entered observer d e) := by
  have hnone : entered observer d e = [] := by
    unfold entered
    split
    · rename_i hfree hbusy
      rcases hflight with hflight | hflight
      · rw [hflight, hfree] at hbusy
        cases hbusy
      · rw [hflight] at hbusy
        cases hbusy
    · rfl
  rw [hnone]
  exact h

lemma receives_aside {d e : Desk σ} {observer : ObserverId} (hlog : e.log = d.log)
    (hslot : e.session.sinks.get? (.observer observer) = d.session.sinks.get? (.observer observer))
    (hpending : e.session.pending = d.session.pending) (hflight : e.flight = d.flight) :
    Receives observer d e (receptions observer d e) (entered observer d e) := by
  have hnone : receptions observer d e = [] := by
    rw [receptions, occurred_eq (hlog.trans (List.append_nil _).symm), List.flatMap_nil]
  rw [hnone]
  exact (receives_nothing hlog hslot hpending).unentered (.inl hflight)

/-- An observer that stays, and whose number no newcomer gets, is told of what occurs in a turn. -/
theorem Turn.receives {d e : Desk σ} (hturn : Turn send d e) (hseated : Seated d.session)
    {observer : ObserverId} (hnew : e = d.joined → d.session.audience.nextId ≠ observer)
    (hd : d.session.audience.contains observer = true)
    (he : e.session.audience.contains observer = true) :
    Receives observer d e (receptions observer d e) (entered observer d e) := by
  have hprefix := hturn.log_prefix
  cases hturn with
  | connect =>
    have hother : Party.observer d.session.audience.nextId ≠ .observer observer :=
      fun heq => hnew rfl (Party.observer.inj heq)
    refine (receives_occurrence rfl ?_ fun _ => rfl).unentered (.inl rfl)
    intro inbox hinbox
    rw [← List.append_nil inbox] at hinbox
    exact (Sinks.get?_insert_of_ne _ hother _).trans hinbox
  | disconnect id =>
    have hother : Party.observer id ≠ .observer observer := by
      rintro ⟨rfl⟩
      obtain ⟨member, hmember, heq⟩ := List.any_eq_true.mp he
      exact of_decide_eq_true (List.mem_filter.mp hmember).2 (of_decide_eq_true heq)
    exact receives_aside rfl (Sinks.get?_erase_of_ne _ hother) rfl rfl
  | shutdown => exact receives_aside rfl rfl rfl rfl
  | pass time htime => exact receives_aside rfl rfl rfl rfl
  | hear time bytes hlistens => exact (receives_hear hseated hd time bytes).unentered (.inl rfl)
  | ring alarm hset hdue => exact (receives_ring hseated hd alarm).unentered (.inl rfl)
  | write text hfree =>
    refine (receives_occurrence rfl ?_ fun _ => rfl).unentered (.inl rfl)
    intro inbox hinbox
    rw [← List.append_nil inbox] at hinbox
    exact hinbox
  | submit request sender hfree => exact receives_launch hfree request _ observer
  | call purpose hfree =>
    -- the call's own slot is set up first, and then its command is launched
    have hopened : Receives observer d { d with session := opened d.session purpose } [] [] :=
      receives_nothing rfl (Sinks.get?_insert_of_ne _ (by simp) _) rfl
    have hlaunched : Receives observer { d with session := opened d.session purpose }
        (d.call purpose) (receptions observer d (d.call purpose))
        (entered observer d (d.call purpose)) :=
      receives_launch (d := { d with session := opened d.session purpose }) hfree purpose.request _
        observer
    exact hopened.trans hlaunched List.prefix_rfl hprefix
  | land flight hflight => exact (receives_land hseated hd flight).unentered (.inr rfl)
  | learn call outcome hcall hstage hbusy houtcome hends =>
    exact receives_aside rfl (Sinks.get?_erase_of_ne _ (by simp)) rfl rfl
  | inquire call outcome reply poll hcall hstage hfree houtcome hpolls =>
    exact receives_launch hfree _ _ observer
  | ask call reply poll wake hcall hstage hfree hdue hleft =>
    exact receives_launch hfree _ _ observer
  | check call reply poll wake c hcall hstage hbusy hdue hcheck =>
    exact receives_aside rfl (Sinks.get?_erase_of_ne _ (by simp)) rfl rfl

lemma Happening.receives {d e : Desk σ} (h : Happening send d e) (hgathered : Gathered d)
    (hroom : SeatsSuffice e.log) {observer : ObserverId} (hd : d.Attends observer)
    (he : e.Attends observer) :
    Receives observer d e (receptions observer d e) (entered observer d e) := by
  cases h with
  | turn hturn =>
    refine hturn.receives hgathered.toSeated ?_ hd.1 he.1
    rintro rfl
    exact hgathered.ne_nextId hroom hd.1
  | fault id sink hfails =>
    have hother : Party.observer id ≠ .observer observer := by
      rintro ⟨rfl⟩
      obtain ⟨-, inbox, hinbox⟩ := he
      rw [Sinks.get?_insert_self, Option.some_inj] at hinbox
      exact hfails inbox hinbox
    exact receives_aside rfl (Sinks.get?_insert_of_ne _ hother _) rfl rfl

/-! ### A whole run -/

def receptionsAlong (observer : ObserverId) : Desk σ → List (Desk σ) → List Reception
  | _, [] => []
  | d, e :: run => receptions observer d e ++ receptionsAlong observer e run

def enteredAlong (observer : ObserverId) : Desk σ → List (Desk σ) → List CorrelationId
  | _, [] => []
  | d, e :: run => entered observer d e ++ enteredAlong observer e run

lemma log_of_isChain {d : Desk σ} {run : List (Desk σ)}
    (hrun : (d :: run).IsChain (Happening send)) : d.log <+: (run.getLastD d).log := by
  induction run generalizing d with
  | nil => exact List.prefix_rfl
  | cons e run ih =>
    obtain ⟨hstep, hrest⟩ := List.isChain_cons_cons.mp hrun
    rw [List.getLastD_cons]
    exact hstep.log_prefix.trans (ih hrest)

lemma receives_run {d : Desk σ} {run : List (Desk σ)} (hgathered : Gathered d)
    (hrun : (d :: run).IsChain (Happening send)) (hroom : SeatsSuffice (run.getLastD d).log)
    {observer : ObserverId}
    (hattends : ∀ x ∈ d :: run, x.Attends observer) :
    Receives observer d (run.getLastD d) (receptionsAlong observer d run)
      (enteredAlong observer d run) := by
  induction run generalizing d with
  | nil => exact receives_nothing rfl rfl rfl
  | cons e run ih =>
    obtain ⟨hstep, hrest⟩ := List.isChain_cons_cons.mp hrun
    have hd := hattends d List.mem_cons_self
    have he := hattends e (List.mem_cons_of_mem d List.mem_cons_self)
    rw [List.getLastD_cons] at hroom ⊢
    have hone := hstep.receives hgathered (hroom.of_prefix (log_of_isChain hrest)) hd he
    have hlater := ih (hstep.gathered hgathered) hrest hroom
      fun x hx => hattends x (List.mem_cons_of_mem d hx)
    exact hone.trans hlater hstep.log_prefix (log_of_isChain hrest)

lemma Receives.stream {d e : Desk σ} {observer : ObserverId} {rs : List Reception}
    {ids : List CorrelationId} (h : Receives observer d e rs ids) (hd : d.Attends observer) :
    e.session.stream observer = d.session.stream observer ++ rs.map Reception.event := by
  obtain ⟨-, inbox, hinbox⟩ := hd
  rw [stream_eq hinbox, stream_eq (h.slot inbox hinbox)]

lemma gathered_reached {timing : Timing} {world : σ} {d : Desk σ}
    (h : Relation.ReflTransGen (Happening send) (.start timing world) d) : Gathered d := by
  induction h with
  | refl => exact gathered_start timing world
  | tail _ hstep ih => exact hstep.gathered ih

/-- If no command of the observer's waits and it sends none, it is told nothing of its own. -/
lemma Receives.all_broadcast {d e : Desk σ} {observer : ObserverId} {rs : List Reception}
    (h : Receives observer d e rs [])
    (hidle : ∀ id, waiting d.session.pending observer id = false) :
    rs.map Reception.event = rs.filterMap Reception.broadcast? := by
  have hnone : rs.filterMap Reception.outcomeId? = [] := by
    rw [List.eq_nil_iff_forall_not_mem]
    intro id hmem
    have honce := h.once id
    have hpos := List.count_pos_iff.mpr hmem
    rw [hidle, List.count_nil] at honce
    dsimp only [Bool.toNat_false] at honce
    omega
  rw [List.filterMap_eq_nil_iff] at hnone
  rw [← List.filterMap_eq_map]
  apply List.filterMap_congr
  intro r hr
  have hr := hnone r hr
  cases r with
  | outcome id e => cases hr
  | broadcast e => rfl

/-- Whoever attends from `d` to the end of the run is told of just the datagrams that are heard on the
way, and of the end of each command of its own; so it is told of nothing else if it has none, and
whoever else attends is told of the same datagrams. Only a counter that has come round could give its
number to somebody else meanwhile. -/
theorem same_history {timing : Timing} {world : σ} {d : Desk σ} {run : List (Desk σ)}
    (hreached : Relation.ReflTransGen (Happening send) (.start timing world) d)
    (hrun : (d :: run).IsChain (Happening send)) (hroom : SeatsSuffice (run.getLastD d).log)
    {observer : ObserverId} (hattends : ∀ x ∈ d :: run, x.Attends observer) :
    let last := run.getLastD d
    last.session.stream observer =
        d.session.stream observer ++ (receptionsAlong observer d run).map Reception.event ∧
      Receives observer d last (receptionsAlong observer d run) (enteredAlong observer d run) ∧
      ((∀ id, waiting d.session.pending observer id = false) → enteredAlong observer d run = [] →
        last.session.stream observer = d.session.stream observer ++
          (heardOf (occurred d last)).flatMap fun heard => publications (.ofDatagram heard.2)) ∧
      ∀ other, (∀ x ∈ d :: run, x.Attends other) →
        (receptionsAlong other d run).filterMap Reception.broadcast? =
          (receptionsAlong observer d run).filterMap Reception.broadcast? := by
  have hgathered := gathered_reached hreached
  have hreceives := receives_run hgathered hrun hroom hattends
  have hstream := hreceives.stream (hattends d List.mem_cons_self)
  refine ⟨hstream, hreceives, ?_, ?_⟩
  · intro hidle hnone
    rw [hnone] at hreceives
    rw [hstream, hreceives.all_broadcast hidle, hreceives.broadcasts]
  · intro other hother
    rw [(receives_run hgathered hrun hroom hother).broadcasts, hreceives.broadcasts]

/-- Two observers are there. -/
def sharedDesk : Desk Unit :=
  (Desk.start .default ()).joined.joined

/-- The first sends a command, a third comes and fails, and then the hub answers. -/
def sharedRun : List (Desk Unit) :=
  let asked := sharedDesk.launch (.status ⟨"D1"⟩) (.submission (some ⟨1⟩))
  let sent := asked.land plainLink ⟨⟨⟨"D1"⟩, ⟨1⟩, .default, queryAction⟩, .submission (some ⟨1⟩)⟩
  let more := sent.joined
  let failed := { more with
    session := { more.session with sinks := more.session.sinks.insert (.observer ⟨3⟩) .broken } }
  let answered := failed.hear 0 "D1 FEEDBACK 1 D0 STATUS_LOCKED".toUTF8
  [asked, sent, more, failed, answered, answered.hear 5 "D2 HEARTBEAT".toUTF8]

lemma sharedRun_isChain : (sharedDesk :: sharedRun).IsChain (Happening plainLink) := by
  unfold sharedRun
  refine .cons_cons (.turn (.submit _ _ _ rfl)) (.cons_cons (.turn (.land _ _ rfl))
    (.cons_cons (.turn (.connect _)) (.cons_cons (.fault _ _ _ ?_)
      (.cons_cons (.turn (.hear _ _ _ ?_)) (.cons_cons (.turn (.hear _ _ _ ?_)) (.singleton _))))))
  · intro inbox h
    cases h
  · decide +kernel
  · decide +kernel

theorem same_history_shared :
    let last := sharedRun.getLastD sharedDesk
    let feedback := Event.commandFeedback ⟨"D1"⟩ ⟨1⟩ .default .locked "STATUS_LOCKED"
      "D1 FEEDBACK 1 D0 STATUS_LOCKED"
    let history := [.doorFeedback ⟨"D1"⟩ .default .locked "STATUS_LOCKED", feedback,
      .hubHeartbeat ⟨"D2"⟩ "D2 HEARTBEAT"]
    SeatsSuffice last.log ∧
      last.session.stream ⟨1⟩ = feedback :: history ∧ last.session.stream ⟨2⟩ = history ∧
      enteredAlong ⟨1⟩ sharedDesk sharedRun = [⟨1⟩] ∧
      (receptionsAlong ⟨1⟩ sharedDesk sharedRun).filterMap Reception.broadcast? =
        (receptionsAlong ⟨2⟩ sharedDesk sharedRun).filterMap Reception.broadcast? := by
  have hreached : Relation.ReflTransGen (Happening plainLink) (.start .default ()) sharedDesk :=
    .tail (.single (.turn (.connect _))) (.turn (.connect _))
  have hfirst : ∀ x ∈ sharedDesk :: sharedRun, x.Attends ⟨1⟩ := by decide +kernel
  have hsecond : ∀ x ∈ sharedDesk :: sharedRun, x.Attends ⟨2⟩ := by decide +kernel
  have hroom : SeatsSuffice (sharedRun.getLastD sharedDesk).log := by decide +kernel
  obtain ⟨-, -, hhistory, hshared⟩ := same_history hreached sharedRun_isChain hroom hsecond
  refine ⟨hroom, ?_, ?_, ?_, hshared ⟨1⟩ hfirst⟩
  · decide +kernel
  · rw [hhistory (fun _ => by rfl)
      (by decide +kernel)]
    decide +kernel
  · decide +kernel

end HubBridge.Proofs
