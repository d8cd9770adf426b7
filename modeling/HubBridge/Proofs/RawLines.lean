import HubBridge.Proofs.FramedDatagrams
import HubBridge.Proofs.InboundGrammar
import HubBridge.Proofs.ObserverStreams

/-!
# Raw lines change nothing

A datagram that spells no message is passed on to the observers as it is, and that is all it does. So
any run of a session stays a run when these datagrams are left out: desk by desk nothing is different
but the raw lines in the streams.
-/

namespace HubBridge.Proofs

open Text

/-! ### Without raw lines -/

def isRawLine : Message → Bool
  | .raw _ => true
  | .feedback .. | .event .. | .heartbeat .. | .hello .. => false

def isRawEvent : Event → Bool
  | .hubRaw _ => true
  | .doorFeedback .. | .commandFeedback .. | .hubEvent .. | .hubHeartbeat .. | .hubHello ..
  | .commandError .. => false

/-- The occurrence is a datagram that spells no message. -/
def isNoise : Occurrence → Bool
  | .heard _ bytes => isRawLine (.ofDatagram bytes)
  | .rang _ | .joined _ | .issued _ | .sent .. | .wrote .. => false

def hushedSink : Sink → Sink
  | .channel connected inbox => .channel connected (inbox.filter fun e => !isRawEvent e)
  | .reply connected slot => .reply connected slot
  | .broken => .broken

def hushedSinks {κ : Type} (s : Sinks κ) : Sinks κ :=
  ⟨s.entries.map fun entry => (entry.1, hushedSink entry.2)⟩

/-- The session without the raw lines that its observers were told of. -/
def hushedSession (s : Session) : Session := { s with sinks := hushedSinks s.sinks }

variable {σ : Type} {send : Link (StateM σ)}

def Desk.hushed (d : Desk σ) : Desk σ :=
  { d with session := hushedSession d.session, log := d.log.filter fun x => !isNoise x }

lemma eq_raw_of_isRawLine {message : Message} (h : isRawLine message = true) :
    ∃ raw, message = .raw raw := by
  cases message with
  | raw raw => exact ⟨raw, rfl⟩
  | _ => cases h

lemma not_spelt_raw {bytes : ByteArray} {raw : String} : ¬Spelt bytes (.raw raw) := by
  rintro ⟨line, hlaid, hcomposed⟩
  cases hcomposed

theorem isRawLine_iff_not_spelt {bytes : ByteArray} :
    isRawLine (.ofDatagram bytes) = true ↔ ∀ message, ¬Spelt bytes message := by
  constructor
  · intro hraw message hspelt
    obtain ⟨raw, heq⟩ := eq_raw_of_isRawLine hraw
    rw [ofDatagram_of_spelt hspelt] at heq
    exact not_spelt_raw (heq ▸ hspelt)
  · intro hnone
    rw [ofDatagram_of_not_spelt hnone]
    rfl

lemma ofDatagram_eq_raw {bytes : ByteArray} {raw : String} (h : Message.ofDatagram bytes = .raw raw) :
    raw = trim (Octets.text bytes) := by
  have hnone := isRawLine_iff_not_spelt.mp (congrArg isRawLine h)
  rw [ofDatagram_of_not_spelt hnone] at h
  cases h
  rfl

/-! ### Sinks -/

lemma Distinct.hushed {κ : Type} {s : Sinks κ} (h : Distinct s) : Distinct (hushedSinks s) := by
  unfold Distinct hushedSinks
  rw [List.map_map]
  exact h

section Sinks

variable {κ : Type} [DecidableEq κ]

lemma get?_hushed (s : Sinks κ) (key : κ) :
    (hushedSinks s).get? key = (s.get? key).map hushedSink := by
  unfold hushedSinks Sinks.get?
  rw [List.find?_map, Option.map_map, Option.map_map]
  rfl

lemma insert_hushed (s : Sinks κ) (key : κ) (sink : Sink) :
    hushedSinks (s.insert key sink) = (hushedSinks s).insert key (hushedSink sink) := by
  have hany : (hushedSinks s).entries.any (fun entry => entry.1 = key) =
      s.entries.any fun entry => entry.1 = key := List.any_map
  unfold Sinks.insert
  rw [hany]
  split
  · unfold hushedSinks
    rw [List.map_map, List.map_map]
    congr 1
    apply List.map_congr_left
    intro entry _
    dsimp only [Function.comp]
    split <;> rfl
  · unfold hushedSinks
    rw [List.map_append]
    rfl

lemma erase_hushed (s : Sinks κ) (key : κ) :
    hushedSinks (s.erase key) = (hushedSinks s).erase key := by
  unfold hushedSinks Sinks.erase
  rw [List.filter_map]
  rfl

lemma deliver_sink_hushed (sink : Sink) {e : Event} (he : isRawEvent e = false) :
    hushedSink (sink.deliver e).1 = ((hushedSink sink).deliver e).1 := by
  cases sink with
  | channel connected inbox =>
    cases connected with
    | true =>
      change Sink.channel true ((inbox ++ [e]).filter _) = .channel true (inbox.filter _ ++ [e])
      rw [List.filter_append]
      simp [he]
    | false => rfl
  | reply connected slot =>
    unfold Sink.deliver hushedSink
    cases e.outcome? with
    | none => rfl
    | some outcome =>
      cases slot with
      | waiting => cases connected <;> rfl
      | answered told => rfl
      | lost => rfl
  | broken => rfl

lemma deliver_sink_raw (sink : Sink) (raw : String) :
    hushedSink (sink.deliver (.hubRaw raw)).1 = hushedSink sink := by
  cases sink with
  | channel connected inbox =>
    cases connected with
    | true =>
      change Sink.channel true ((inbox ++ [Event.hubRaw raw]).filter _) = .channel true (inbox.filter _)
      rw [List.filter_append]
      simp [isRawEvent]
    | false => rfl
  | reply connected slot => rfl
  | broken => rfl

lemma deliver_hushed (s : Sinks κ) (key : κ) {e : Event} (he : isRawEvent e = false) :
    hushedSinks (s.deliver key e).1 = ((hushedSinks s).deliver key e).1 := by
  unfold Sinks.deliver
  rw [get?_hushed]
  cases s.get? key with
  | none => rfl
  | some sink =>
    dsimp only [Option.map_some]
    rw [insert_hushed, deliver_sink_hushed sink he]

/-- With one sink to each key, putting back the sink of a key changes nothing. -/
lemma insert_get? {s : Sinks κ} (h : Distinct s) {key : κ} {sink : Sink}
    (hsink : s.get? key = some sink) : s.insert key sink = s := by
  obtain ⟨entry, hfind, rfl⟩ := Option.map_eq_some_iff.mp hsink
  have hmem := List.mem_of_find?_eq_some hfind
  have hkey : entry.1 = key := by simpa using List.find?_some hfind
  have hany : s.entries.any (fun entry => entry.1 = key) = true :=
    List.any_eq_true.mpr ⟨entry, hmem, decide_eq_true hkey⟩
  unfold Sinks.insert
  rw [if_pos hany]
  have hsame : s.entries.map (fun other => if other.1 = key then (key, entry.2) else other) =
      s.entries.map id := by
    apply List.map_congr_left
    intro other hother
    split
    · rename_i hother_key
      rw [← List.inj_on_of_nodup_map h hmem hother (hkey.trans hother_key.symm), ← hkey]
      rfl
    · rfl
  rw [hsame, List.map_id]

-- `Sinks.insert` writes to every entry of its key, so this needs that there is only one
lemma deliver_raw {s : Sinks κ} (h : Distinct s) (key : κ) (raw : String) :
    hushedSinks (s.deliver key (.hubRaw raw)).1 = hushedSinks s := by
  unfold Sinks.deliver
  cases hsink : s.get? key with
  | none => rfl
  | some sink =>
    dsimp only
    rw [insert_hushed, deliver_sink_raw]
    apply insert_get? h.hushed
    rw [get?_hushed, hsink, Option.map_some]

lemma told_hushed (s : Sinks κ) {delivery : Option (Delivery κ)}
    (h : ∀ d, delivery = some d → isRawEvent d.event = false) :
    hushedSinks (delivery.toList.foldl Sinks.perform s) =
      delivery.toList.foldl Sinks.perform (hushedSinks s) := by
  cases delivery with
  | none => rfl
  | some d => exact deliver_hushed s d.requester (h d rfl)

lemma publish_hushed (a : Audience κ) (s : Sinks κ) {e : Event} (he : isRawEvent e = false) :
    hushedSinks (a.publish s e).1 = (a.publish (hushedSinks s) e).1 := by
  rw [publish_fst, publish_fst]
  induction a.members generalizing s with
  | nil => rfl
  | cons member members ih => rw [List.foldl_cons, List.foldl_cons, ih, deliver_hushed s member.2 he]

lemma publishAll_hushed (a : Audience κ) (s : Sinks κ) {events : List Event}
    (h : ∀ e ∈ events, isRawEvent e = false) :
    hushedSinks (publishAll a s events) = publishAll a (hushedSinks s) events := by
  induction events generalizing s with
  | nil => rfl
  | cons e events ih =>
    have hrest := ih (a.publish s e).1 fun x hx => h x (List.mem_cons_of_mem e hx)
    rw [publish_hushed a s (h e List.mem_cons_self)] at hrest
    exact hrest

lemma publish_raw (a : Audience κ) {s : Sinks κ} (h : Distinct s) (raw : String) :
    hushedSinks (a.publish s (.hubRaw raw)).1 = hushedSinks s := by
  rw [publish_fst]
  induction a.members generalizing s with
  | nil => rfl
  | cons member members ih => rw [List.foldl_cons, ih (h.deliver _ _), deliver_raw h]

end Sinks

/-! ### Operations of the session -/

lemma isRawEvent_of_terminal {id : CorrelationId} {e : Event} (h : Terminal id e) :
    isRawEvent e = false := by
  cases h <;> rfl

/-- Requesters are only told how their commands end. -/
lemma isRawEvent_summons {p : Pending Party} {x : Occurrence} {d : Delivery Party}
    (h : (summons p x).map Prod.snd = some d) : isRawEvent d.event = false := by
  obtain ⟨c, hc, rfl⟩ := Option.map_eq_some_iff.mp h
  obtain ⟨t, ht, hending⟩ := Option.bind_eq_some_iff.mp hc
  obtain ⟨ending, hget, rfl⟩ := Option.map_eq_some_iff.mp hending
  obtain ⟨-, hevent⟩ := endingOf_eq_some.mp hget
  dsimp only [Ending.delivery]
  rw [hevent]
  exact isRawEvent_of_terminal (tidings_terminal ht _)

lemma isRawEvent_publications {message : Message} (h : isRawLine message = false) :
    ∀ e ∈ publications message, isRawEvent e = false := by
  cases message with
  | raw raw => cases h
  | _ => simp [publications, isRawEvent]

lemma handle_hushed (s : Session) (time : Int) {bytes : ByteArray}
    (h : isRawLine (.ofDatagram bytes) = false) :
    hushedSession (s.handle time (.ofDatagram bytes)) =
      (hushedSession s).handle time (.ofDatagram bytes) := by
  have hsinks : hushedSinks (publishAll s.audience
      ((replied s.pending (.ofDatagram bytes)).2.toList.foldl Sinks.perform s.sinks)
        (publications (.ofDatagram bytes))) =
      publishAll s.audience
        ((replied s.pending (.ofDatagram bytes)).2.toList.foldl Sinks.perform (hushedSinks s.sinks))
        (publications (.ofDatagram bytes)) := by
    rw [publishAll_hushed _ _ (isRawEvent_publications h), told_hushed]
    intro d hd
    rw [← summons_heard s.pending time] at hd
    exact isRawEvent_summons hd
  rw [handle_eq, handle_eq]
  unfold hushedSession
  dsimp only [publishAll] at hsinks ⊢
  rw [hsinks]

lemma handle_raw {s : Session} (h : Distinct s.sinks) (time : Int) (raw : String) :
    hushedSession (s.handle time (.raw raw)) = hushedSession s := by
  have hsinks := publish_raw s.audience h raw
  unfold hushedSession Session.handle Session.publish
  dsimp only
  rw [hsinks]

lemma rung_hushed (s : Session) (alarm : Alarm) :
    hushedSession (rung s alarm) = rung (hushedSession s) alarm := by
  have hsinks : hushedSinks ((s.pending.ring alarm).2.toList.foldl Sinks.perform s.sinks) =
      (s.pending.ring alarm).2.toList.foldl Sinks.perform (hushedSinks s.sinks) := by
    apply told_hushed
    intro d hd
    rw [← summons_takesOut (x := .rang alarm) (ring_takesOut s.pending alarm) rfl] at hd
    exact isRawEvent_summons hd
  unfold rung
  rw [tell_eq, tell_eq]
  unfold hushedSession
  dsimp only
  rw [hsinks]

lemma settle_hushed (s : Session) (command : Command) (cause : Option String) :
    (hushedSession s).settle command.id cause =
      (hushedSession (s.settle command.id cause).1, (s.settle command.id cause).2) := by
  cases cause with
  | none => rfl
  | some cause =>
    let failed := s.pending.fail command.id (Failure.transport cause).message
    have hsinks : hushedSinks (failed.2.toList.foldl Sinks.perform s.sinks) =
        failed.2.toList.foldl Sinks.perform (hushedSinks s.sinks) := by
      apply told_hushed
      intro d hd
      rw [← summons_takesOut (x := .sent command (some cause))
        (fail_takesOut s.pending command.id (Failure.transport cause).message) rfl] at hd
      exact isRawEvent_summons hd
    apply Prod.ext
    · rw [settle_lost, settle_lost]
      unfold hushedSession
      dsimp only
      rw [hsinks]
    · rfl

lemma reserve_hushed (s : Session) (request : Request) (requester : Option Party) :
    (hushedSession s).reserve request requester =
      (hushedSession (s.reserve request requester).1, (s.reserve request requester).2) := by
  unfold Session.reserve hushedSession
  cases requester with
  | none => rfl
  | some party =>
    dsimp only
    cases s.pending.register s.clock s.timing.replyTimeout (request.toCommand s.nextId) party <;> rfl

lemma finish_hushed (s : Session) (call : Call) (result : CallResult) :
    hushedSession (s.finish call result) = (hushedSession s).finish call result := by
  have hsinks := erase_hushed s.sinks (.call call.number)
  unfold hushedSession Session.finish Session.setCall
  dsimp only
  rw [hsinks]

lemma proceed_hushed (s : Session) (result : Except Failure CorrelationId) (errand : Errand) :
    hushedSession (errand.proceed s result) = errand.proceed (hushedSession s) result := by
  cases errand with
  | submission observer => rfl
  | opening call =>
    cases result with
    | ok id => rfl
    | error failure => exact finish_hushed s call _
  | query call reply poll => rfl

lemma connect_hushed (s : Session) : hushedSession s.connect.1 = (hushedSession s).connect.1 := by
  have hsinks := insert_hushed s.sinks (.observer s.audience.nextId) .stream
  unfold hushedSession Session.connect
  dsimp only
  rw [hsinks]
  rfl

lemma disconnect_hushed (s : Session) (id : ObserverId) :
    hushedSession (s.disconnect id) = (hushedSession s).disconnect id := by
  have hsinks := erase_hushed s.sinks (.observer id)
  unfold hushedSession Session.disconnect
  dsimp only
  rw [hsinks]

lemma opened_hushed (s : Session) (purpose : Purpose) :
    hushedSession (opened s purpose) = opened (hushedSession s) purpose := by
  have hsinks := insert_hushed s.sinks (.call (s.called + 1)) .oneShot
  unfold hushedSession opened
  dsimp only
  rw [hsinks]
  rfl

/-! ### Turns -/

lemma hushed_with {d : Desk σ} {s t : Session} (h : hushedSession s = t) :
    Desk.hushed { d with session := s } = { d.hushed with session := t } := by
  rw [← h]
  rfl

lemma joined_hushed (d : Desk σ) : d.joined.hushed = d.hushed.joined := by
  have hsession := connect_hushed d.session
  unfold Desk.joined Desk.hushed
  dsimp only
  rw [hsession, List.filter_append]
  rfl

lemma launch_hushed (d : Desk σ) (request : Request) (errand : Errand) :
    (d.launch request errand).hushed = d.hushed.launch request errand := by
  have hreserve := reserve_hushed d.session request errand.requester
  have hsession : d.hushed.session = hushedSession d.session := rfl
  unfold Desk.launch
  rw [hsession, hreserve]
  rcases d.session.reserve request errand.requester with ⟨s, command, failure | ⟨⟩⟩
  · unfold Desk.hushed
    dsimp only
    rw [proceed_hushed, List.filter_append]
    rfl
  · unfold Desk.hushed
    dsimp only
    rw [List.filter_append]
    rfl

lemma land_hushed (d : Desk σ) (flight : Flight) :
    (d.land send flight).hushed = d.hushed.land send flight := by
  have hsettle := settle_hushed d.session flight.command
    ((send flight.command.encode).run d.world).1
  unfold Desk.land Desk.hushed
  dsimp only
  rw [hsettle, proceed_hushed, List.filter_append]
  rfl

lemma call_hushed (d : Desk σ) (purpose : Purpose) :
    (d.call purpose).hushed = d.hushed.call purpose := by
  unfold Desk.call
  rw [launch_hushed, hushed_with (opened_hushed d.session purpose)]
  rfl

lemma outcome_hushed (d : Desk σ) (n : Nat) :
    (d.hushed.session.sinks.get? (.call n)).bind Sink.outcome? =
      (d.session.sinks.get? (.call n)).bind Sink.outcome? := by
  have hget : d.hushed.session.sinks.get? (.call n) =
      (d.session.sinks.get? (.call n)).map hushedSink := get?_hushed _ _
  rw [hget, Option.bind_map]
  congr
  funext sink
  cases sink <;> rfl

/-- A turn that hears no raw line is the same turn without the raw lines. -/
theorem Turn.hushed {d e : Desk σ} (hturn : Turn send d e)
    (hquiet : (occurred d e).any isNoise = false) : Turn send d.hushed e.hushed := by
  cases hturn with
  | connect =>
    rw [joined_hushed]
    exact .connect d.hushed
  | disconnect id =>
    rw [hushed_with (disconnect_hushed d.session id)]
    exact .disconnect d.hushed id
  | shutdown => exact .shutdown d.hushed
  | pass time htime => exact .pass d.hushed time htime
  | hear time bytes hlistens =>
    rw [occurred_eq rfl, List.any_cons, List.any_nil, Bool.or_false] at hquiet
    have hhear : (d.hear time bytes).hushed = d.hushed.hear time bytes := by
      unfold Desk.hear Desk.hushed
      dsimp only
      rw [handle_hushed d.session time hquiet, List.filter_append, List.filter_singleton, hquiet]
      rfl
    rw [hhear]
    exact .hear d.hushed time bytes hlistens
  | ring alarm hset hdue =>
    have hring : (d.ring alarm).hushed = d.hushed.ring alarm := by
      unfold Desk.ring Desk.hushed
      dsimp only
      rw [rung_hushed, List.filter_append]
      rfl
    rw [hring]
    exact .ring d.hushed alarm hset hdue
  | write text hfree =>
    have hwrite : (d.write send text).hushed = d.hushed.write send text := by
      unfold Desk.write Desk.hushed
      dsimp only
      rw [List.filter_append]
      rfl
    rw [hwrite]
    exact .write d.hushed text hfree
  | submit request observer hfree =>
    rw [launch_hushed]
    exact .submit d.hushed request observer hfree
  | call purpose hfree =>
    rw [call_hushed]
    exact .call d.hushed purpose hfree
  | land flight hflight =>
    rw [land_hushed]
    exact .land d.hushed flight hflight
  | learn call outcome hcall hstage hbusy houtcome hends =>
    rw [hushed_with (finish_hushed d.session call _)]
    exact .learn d.hushed call outcome hcall hstage hbusy ((outcome_hushed d _).trans houtcome) hends
  | inquire call outcome reply poll hcall hstage hfree houtcome hpolls =>
    rw [launch_hushed]
    exact .inquire d.hushed call outcome reply poll hcall hstage hfree
      ((outcome_hushed d _).trans houtcome) hpolls
  | ask call reply poll wake hcall hstage hfree hdue hleft =>
    rw [launch_hushed]
    exact .ask d.hushed call reply poll wake hcall hstage hfree hdue hleft
  | check call reply poll wake c hcall hstage hbusy hdue hcheck =>
    rw [hushed_with (finish_hushed d.session call _)]
    exact .check d.hushed call reply poll wake c hcall hstage hbusy hdue hcheck

/-- A turn that hears a raw line does nothing else. -/
lemma Turn.noise {d e : Desk σ} (hturn : Turn send d e)
    (hnoise : (occurred d e).any isNoise = true) :
    ∃ time bytes raw, Message.ofDatagram bytes = .raw raw ∧ e = d.hear time bytes := by
  obtain ⟨time, bytes, -, rfl⟩ | hsame := hturn.hears
  · rw [occurred_eq rfl, List.any_cons, List.any_nil, Bool.or_false] at hnoise
    obtain ⟨raw, hraw⟩ := eq_raw_of_isRawLine hnoise
    exact ⟨time, bytes, raw, hraw, rfl⟩
  · obtain ⟨later, hlog, hnone⟩ := hsame.log
    rw [occurred_eq hlog] at hnoise
    obtain ⟨x, hx, hraw⟩ := List.any_eq_true.mp hnoise
    cases x with
    | heard time bytes => exact absurd hx (not_heard_of_mem hnone)
    | _ => cases hraw

lemma hear_raw {d : Desk σ} (hseated : Seated d.session) (time : Int) {bytes : ByteArray}
    {raw : String} (hraw : Message.ofDatagram bytes = .raw raw) :
    (d.hear time bytes).hushed = d.hushed := by
  unfold Desk.hear Desk.hushed
  dsimp only
  have hnoise : isNoise (.heard time bytes) = true := by
    rw [isNoise, hraw]
    rfl
  rw [hraw, handle_raw hseated.sinks, List.filter_append, List.filter_singleton, hnoise,
    Bool.not_true, cond_false, List.append_nil]

/-- Whoever attends is told of a raw line once. -/
lemma hear_raw_told {d : Desk σ} (hseated : Seated d.session) (time : Int) {bytes : ByteArray}
    {raw : String} (hraw : Message.ofDatagram bytes = .raw raw) {id : ObserverId}
    (hattends : d.Attends id) : (d.hear time bytes).session.stream id =
      d.session.stream id ++ [.hubRaw (trim (Octets.text bytes))] := by
  obtain ⟨hcontains, inbox, hinbox⟩ := hattends
  have hslot : (d.hear time bytes).session.sinks.get? (.observer id) =
      some (.channel true (inbox ++ [.hubRaw raw])) := by
    have htold := get?_publishAll_channel hseated.keys (hseated.mem_keys hcontains) hinbox
      [.hubRaw raw]
    rw [Desk.hear, hraw]
    exact htold
  rw [stream_eq hslot, stream_eq hinbox, ofDatagram_eq_raw hraw]

/-! ### Connected observers -/

/-- Whoever is in the audience was there before and has kept its number to itself, or has just joined
and its receiver is there. -/
lemma Turn.newcomer {d e : Desk σ} (hturn : Turn send d e) {id : ObserverId}
    (he : e.session.audience.contains id = true) :
    d.session.audience.contains id = true ∧ (e = d.joined → d.session.audience.nextId ≠ id) ∨
      e.Attends id := by
  by_cases hnew : e = d.joined ∧ d.session.audience.nextId = id
  · obtain ⟨rfl, rfl⟩ := hnew
    exact .inr ⟨he, [], Sinks.get?_insert_self _ _ _⟩
  · refine .inl ⟨?_, fun hjoined hid => hnew ⟨hjoined, hid⟩⟩
    obtain ⟨member, hmember, heq⟩ := List.any_eq_true.mp he
    obtain rfl | ⟨other, rfl⟩ | ⟨haudience, -⟩ := hturn.audience
    · rcases of_mem_seat hmember with rfl | hmember
      · exact absurd ⟨rfl, of_decide_eq_true heq⟩ hnew
      · exact List.any_eq_true.mpr ⟨member, hmember, heq⟩
    · exact List.any_eq_true.mpr ⟨member, (List.mem_filter.mp hmember).1, heq⟩
    · rw [← haudience]
      exact he

/-- All observers are seated, and as long as none fails every one of them attends. -/
structure Manned (d : Desk σ) : Prop where
  seated : Seated d.session
  attends : ∀ id, d.session.audience.contains id = true → d.Attends id

lemma Turn.manned {d e : Desk σ} (hturn : Turn send d e) (h : Manned d) : Manned e where
  seated := hturn.seated h.seated
  attends id he := by
    rcases hturn.newcomer he with ⟨hd, hnew⟩ | hattends
    · obtain ⟨-, inbox, hinbox⟩ := h.attends id hd
      exact ⟨he, _, (hturn.receives h.seated hnew hd he).slot inbox hinbox⟩
    · exact hattends

lemma manned_start (timing : Timing) (world : σ) : Manned (.start timing world) where
  seated := seated_start timing
  attends _ h := nomatch h

lemma manned_of_chain {d : Desk σ} {run : List (Desk σ)} (hd : Manned d)
    (hrun : (d :: run).IsChain (Turn send)) : ∀ x ∈ d :: run, Manned x := by
  induction run generalizing d with
  | nil =>
    intro x hx
    rw [List.mem_singleton.mp hx]
    exact hd
  | cons e run ih =>
    obtain ⟨hturn, hrest⟩ := List.isChain_cons_cons.mp hrun
    intro x hx
    rcases List.mem_cons.mp hx with rfl | hx
    · exact hd
    · exact ih (hturn.manned hd) hrest x hx

/-! ### Runs -/

/-- The desks of a run after `d` without the turns that heard raw lines, and without those lines. -/
def quieted : Desk σ → List (Desk σ) → List (Desk σ)
  | _, [] => []
  | d, e :: run =>
    if (occurred d e).any isNoise then quieted e run else e.hushed :: quieted e run

/-- Turn by turn, a run is a run as well without its raw lines, and it comes to the same desk. -/
lemma isChain_quieted {d : Desk σ} {run : List (Desk σ)} (hseated : Seated d.session)
    (hrun : (d :: run).IsChain (Turn send)) :
    (d.hushed :: quieted d run).IsChain (Turn send) ∧
      (quieted d run).getLastD d.hushed = (run.getLastD d).hushed := by
  induction run generalizing d with
  | nil => exact ⟨.singleton _, rfl⟩
  | cons e run ih =>
    obtain ⟨hturn, hrest⟩ := List.isChain_cons_cons.mp hrun
    obtain ⟨hchain, hlast⟩ := ih (hturn.seated hseated) hrest
    rw [quieted, List.getLastD_cons]
    by_cases hnoise : (occurred d e).any isNoise = true
    -- a raw line leaves the quiet desk as it was, so the quiet run goes on from there
    · obtain ⟨time, bytes, raw, hraw, rfl⟩ := hturn.noise hnoise
      rw [if_pos hnoise, ← hear_raw hseated time hraw]
      exact ⟨hchain, hlast⟩
    · rw [if_neg hnoise, List.getLastD_cons]
      exact ⟨.cons_cons (hturn.hushed (Bool.eq_false_of_not_eq_true hnoise)) hchain, hlast⟩

lemma quieted_append (d : Desk σ) (before after : List (Desk σ)) :
    quieted d (before ++ after) = quieted d before ++ quieted (before.getLastD d) after := by
  induction before generalizing d with
  | nil => rfl
  | cons e before ih =>
    rw [List.cons_append, quieted, quieted, ih, List.getLastD_cons]
    split <;> rfl

/-- Nothing tells the two apart but the raw lines that the observers were told of. -/
structure AlikeButRaw (d d' : Desk σ) : Prop where
  doors : d'.session.doors = d.session.doors
  liveness : d'.session.liveness = d.session.liveness
  clock : d'.session.clock = d.session.clock
  pending : d'.session.pending = d.session.pending
  calls : d'.session.calls = d.session.calls
  outcome : ∀ n, outcomeAt d' n = outcomeAt d n
  audience : d'.session.audience = d.session.audience
  world : d'.world = d.world
  stream : ∀ id, d'.session.stream id = (d.session.stream id).filter fun e => !isRawEvent e
  heard : heardOf d'.log = (heardOf d.log).filter fun heard => !isRawLine (.ofDatagram heard.2)

lemma alike_hushed (d : Desk σ) : AlikeButRaw d d.hushed where
  doors := rfl
  liveness := rfl
  clock := rfl
  pending := rfl
  calls := rfl
  outcome n := outcome_hushed d n
  audience := rfl
  world := rfl
  stream id := by
    have hget : d.hushed.session.sinks.get? (.observer id) =
        (d.session.sinks.get? (.observer id)).map hushedSink := get?_hushed _ _
    unfold Session.stream
    rw [hget]
    cases d.session.sinks.get? (.observer id) with
    | none => rfl
    | some sink => cases sink <;> rfl
  heard := by
    have hhushed : d.hushed.log = d.log.filter fun x => !isNoise x := rfl
    rw [hhushed]
    induction d.log with
    | nil => rfl
    | cons x log ih =>
      cases x with
      | heard time bytes =>
        by_cases hnoise : isRawLine (.ofDatagram bytes) = true
        · simp_all [heardOf, isNoise]
        · simp_all [heardOf, isNoise]
      | _ => simpa [heardOf, isNoise] using ih

/-- What the reader hands out of the datagrams that are no raw lines is what it hands out of all of
them, without the raw lines. -/
lemma serves_quiet {datagrams : List ByteArray} {messages : List Message} {counts : List Nat}
    {r : Reader} (h : Serves .initial datagrams messages counts r) :
    let quiet := datagrams.filter fun bytes => !isRawLine (.ofDatagram bytes)
    Serves .initial quiet (messages.filter fun message => !isRawLine message)
      (List.replicate quiet.length 2) .initial := by
  obtain ⟨rfl, -, -⟩ := h.unique (serves_initial datagrams)
  rw [List.filter_map]
  exact serves_initial _

/-- Take a run of a session and leave out every datagram that spells no message. What is left is a run,
which at each point differs from the first in nothing but the raw lines in the streams; each datagram
that was left out had put one such line into the stream of everyone in the audience; and the reader of
datagrams hands out the same messages. -/
theorem raw_datagrams_inert {timing : Timing} {world : σ} {run : List (Desk σ)}
    (hrun : (.start timing world :: run).IsChain (Turn send)) :
    let start := Desk.start timing world
    (start :: quieted start run).IsChain (Turn send) ∧
      (∀ before, before <+: run → quieted start before <+: quieted start run ∧
        AlikeButRaw (before.getLastD start) ((quieted start before).getLastD start)) ∧
      (∀ d e, [d, e] <:+: start :: run → ∀ time bytes, .heard time bytes ∈ occurred d e →
        isRawLine (.ofDatagram bytes) = true → e.hushed = d.hushed ∧
          ∀ id, d.session.audience.contains id = true →
            e.session.stream id = d.session.stream id ++ [.hubRaw (trim (Octets.text bytes))]) ∧
      ∀ datagrams messages counts r, Serves .initial datagrams messages counts r →
        let quiet := datagrams.filter fun bytes => !isRawLine (.ofDatagram bytes)
        Serves .initial quiet (messages.filter fun message => !isRawLine message)
          (List.replicate quiet.length 2) .initial := by
  have hseated : Seated (Desk.start timing world).session := seated_start timing
  refine ⟨(isChain_quieted hseated hrun).1, ?_, ?_, fun _ _ _ _ h => serves_quiet h⟩
  · rintro before ⟨after, rfl⟩
    have happend : ((Desk.start timing world :: before) ++ after).IsChain (Turn send) := hrun
    have hbefore := happend.left_of_append
    have hlast := (isChain_quieted hseated hbefore).2
    refine ⟨?_, ?_⟩
    · rw [quieted_append]
      exact List.prefix_append _ _
    · have halike := alike_hushed (before.getLastD (.start timing world))
      rw [← hlast] at halike
      exact halike
  · intro d e hstep time bytes hheard hraw
    have hpair : [d, e].IsChain (Turn send) := hrun.infix hstep
    obtain ⟨hturn, -⟩ := List.isChain_cons_cons.mp hpair
    have hd := manned_of_chain (manned_start timing world) hrun d
      (hstep.subset List.mem_cons_self)
    have hnoise : (occurred d e).any isNoise = true := List.any_eq_true.mpr ⟨_, hheard, hraw⟩
    obtain ⟨time', bytes', raw, hdecoded, rfl⟩ := hturn.noise hnoise
    rw [occurred_eq rfl] at hheard
    cases List.mem_singleton.mp hheard
    refine ⟨hear_raw hd.seated time hdecoded, fun id hid => ?_⟩
    exact hear_raw_told hd.seated time hdecoded (hd.attends id hid)

/-- An observer comes, and while a command of a call is out the hub sends an empty datagram and one
that would be a reply but for one octet. -/
def noisyRun : List (Desk Unit) :=
  let start := Desk.start .default ()
  let joined := start.joined
  let asked := joined.call (.command (.status ⟨"D1"⟩))
  let empty := asked.hear 0 .empty
  let garbled := empty.hear 1 ("D1 FEEDBACK 1 D0 STATUS_".toUTF8.push 255)
  let sent := garbled.land plainLink ⟨⟨⟨"D1"⟩, ⟨1⟩, .default, queryAction⟩,
    .opening ⟨1, .command (.status ⟨"D1"⟩), .awaiting⟩⟩
  [joined, asked, empty, garbled, sent, sent.hear 2 "D1 FEEDBACK 1 D0 STATUS_LOCKED".toUTF8]

lemma noisyRun_isChain : (.start .default () :: noisyRun).IsChain (Turn plainLink) := by
  unfold noisyRun
  refine .cons_cons (.connect _) (.cons_cons (.call _ _ rfl) (.cons_cons (.hear _ _ _ ?_)
    (.cons_cons (.hear _ _ _ ?_) (.cons_cons (.land _ _ rfl) (.cons_cons (.hear _ _ _ ?_)
      (.singleton _))))))
  · decide +kernel
  · decide +kernel
  · decide +kernel

theorem raw_datagrams_inert_noisy :
    let start := Desk.start .default ()
    let last := noisyRun.getLastD start
    (quieted start noisyRun).length = 4 ∧
      last.session.stream ⟨1⟩ = [.hubRaw "", .hubRaw "D1 FEEDBACK 1 D0 STATUS_\uFFFD",
        .doorFeedback ⟨"D1"⟩ .default .locked "STATUS_LOCKED",
        .commandFeedback ⟨"D1"⟩ ⟨1⟩ .default .locked "STATUS_LOCKED"
          "D1 FEEDBACK 1 D0 STATUS_LOCKED"] ∧
      (start :: quieted start noisyRun).IsChain (Turn plainLink) ∧
      AlikeButRaw last ((quieted start noisyRun).getLastD start) := by
  obtain ⟨hchain, halike, -⟩ := raw_datagrams_inert noisyRun_isChain
  refine ⟨?_, ?_, hchain, (halike noisyRun List.prefix_rfl).2⟩
  · decide +kernel
  · decide +kernel

end HubBridge.Proofs
