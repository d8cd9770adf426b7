import HubBridge.Proofs.Messages
import HubBridge.Proofs.Ledger
import HubBridge.Proofs.Turns
import HubBridge.Session.Wire

/-!
# Ids are fresh

All commands of a session share one counter and one table, and a command that is lost has used up
its id. `Orderly` relates the counter, the waiting commands and what went out: it holds after all turns
as long as the counter has not run through its 64 bits. So the ids are given out as 1, 2, 3 and on, no
command is refused for its id, and a command that is lost ends nothing but its own entry.
-/

namespace HubBridge.Proofs

def ordinal (id : CorrelationId) : Nat := id.value.toNat

lemma ordinal_next {id : CorrelationId} (h : ordinal id + 1 < UInt64.size) :
    ordinal id.next = ordinal id + 1 := by
  unfold ordinal CorrelationId.next at *
  rw [UInt64.toNat_add, UInt64.toNat_one]
  exact Nat.mod_eq_of_lt h

/-! ### What the log tells of commands -/

/-- The commands that went out, oldest first, each with the cause if it was lost. -/
def dispatched (log : List Occurrence) : List (Command × Option String) :=
  log.filterMap fun
    | .sent command cause => some (command, cause)
    | _ => none

/-- The datagrams that were handed to the link and what it answered, oldest first. -/
def posts (log : List Occurrence) : List (ByteArray × Option String) :=
  log.filterMap fun
    | .sent command cause => some (command.encode, cause)
    | .wrote text cause => some (encodeRaw text, cause)
    | _ => none

lemma dispatched_append (log later : List Occurrence) :
    dispatched (log ++ later) = dispatched log ++ dispatched later := List.filterMap_append

lemma posts_append (log later : List Occurrence) :
    posts (log ++ later) = posts log ++ posts later := List.filterMap_append

variable {σ : Type} {send : Link (StateM σ)}

lemma issued_length_le {log later : List Occurrence} (h : log <+: later) :
    (issued log).length ≤ (issued later).length := by
  obtain ⟨rest, rfl⟩ := h
  rw [issued_append, List.length_append]
  exact Nat.le_add_right _ _

/-- Fewer commands got an id than there are ids: the counter has not come round. -/
def IdsSuffice (log : List Occurrence) : Prop := (issued log).length < UInt64.size - 1

instance (log : List Occurrence) : Decidable (IdsSuffice log) :=
  inferInstanceAs (Decidable (_ < _))

lemma IdsSuffice.of_prefix {log later : List Occurrence} (h : IdsSuffice later)
    (hlog : log <+: later) : IdsSuffice log :=
  Nat.lt_of_le_of_lt (issued_length_le hlog) h

/-! ### Launching a command -/

/-- The table with the entry of a command, if somebody asked for it. -/
def enrolled (p : Pending Party) (now timeout : Nat) (command : Command) :
    Option Party → Pending Party
  | none => p
  | some party =>
    { entries := p.entries.insert command.id (entryFor p now timeout command party)
      alarms := p.alarms ++ [⟨p.nextSerial, command.id, now + timeout⟩]
      nextSerial := p.nextSerial + 1 }

lemma get?_enrolled (p : Pending Party) (now timeout : Nat) (command : Command)
    (requester : Option Party) (id : CorrelationId) :
    (enrolled p now timeout command requester).get? id =
      if id = command.id then
        (requester.map (entryFor p now timeout command)).or (p.get? id)
      else p.get? id := by
  cases requester with
  | none => exact (ite_self _).symm
  | some party => exact get?_insert p _ command.id id _ rfl

/-- Under an id that was free there is now the entry of the command, or nothing. -/
lemma get?_enrolled_free {p : Pending Party} {id : CorrelationId} (h : p.get? id = none)
    (now timeout : Nat) (request : Request) (requester : Option Party) (other : CorrelationId) :
    (enrolled p now timeout (request.toCommand id) requester).get? other =
      if other = id then requester.map (entryFor p now timeout (request.toCommand id))
      else p.get? other := by
  have hid : (request.toCommand id).id = id := rfl
  rw [get?_enrolled, hid]
  split
  · rename_i hother
    rw [hother, h, Option.or_none]
  · rfl

lemma mem_alarms_enrolled {p : Pending Party} {now timeout : Nat} {command : Command}
    {requester : Option Party} {a : Alarm}
    (h : a ∈ (enrolled p now timeout command requester).alarms) :
    a ∈ p.alarms ∨ a = ⟨p.nextSerial, command.id, now + timeout⟩ := by
  cases requester with
  | none => exact .inl h
  | some party =>
    rcases List.mem_append.mp h with h | h
    · exact .inl h
    · exact .inr (List.mem_singleton.mp h)

lemma reserve_eq {s : Session} (h : s.pending.contains s.nextId = false) (request : Request)
    (requester : Option Party) :
    s.reserve request requester =
      ({ s with
          nextId := s.nextId.next
          pending := enrolled s.pending s.clock s.timing.replyTimeout
            (request.toCommand s.nextId) requester },
        request.toCommand s.nextId, .ok ()) := by
  unfold Session.reserve
  cases requester with
  | none => rfl
  | some party =>
    have hfree : s.pending.contains (request.toCommand s.nextId).id = false := h
    dsimp only
    rw [register_eq_ok hfree]
    rfl

/-- A command whose id is free is on its way out. -/
lemma Desk.launch_eq {d : Desk σ} (h : d.session.pending.contains d.session.nextId = false)
    (request : Request) (errand : Errand) :
    d.launch request errand =
      let command := request.toCommand d.session.nextId
      { d with
        session := { d.session with
          nextId := d.session.nextId.next
          pending := enrolled d.session.pending d.session.clock d.session.timing.replyTimeout
            command errand.requester }
        flight := some ⟨command, errand⟩
        log := d.log ++ [.issued command] } := by
  unfold Desk.launch
  rw [reserve_eq h]

/-! ### What becomes of the table -/

/-- `q` holds no entry and no alarm that `p` does not. -/
structure Fewer {κ : Type} (p q : Pending κ) : Prop where
  entry : ∀ id entry, q.get? id = some entry → p.get? id = some entry
  alarm : ∀ a ∈ q.alarms, a ∈ p.alarms

lemma Fewer.rfl {κ : Type} {p : Pending κ} : Fewer p p := ⟨fun _ _ h => h, fun _ h => h⟩

lemma TakesOut.fewer {κ : Type} {p : Pending κ} {id : CorrelationId}
    {event : PendingCommand κ → Event} {result : Pending κ × Option (Delivery κ)}
    (h : TakesOut p id event result) : Fewer p result.1 where
  entry other entry hget := by
    rw [h.get?] at hget
    split at hget
    · cases hget
    · exact hget
  alarm := h.alarms

lemma replied_fewer (p : Pending Party) (message : Message) : Fewer p (replied p message).1 := by
  unfold replied
  cases replyEvent message with
  | none => exact .rfl
  | some reply => exact (resolve_takesOut p reply.1 reply.2).fewer

lemma pending_tell (s : Session) (delivery : Option (Delivery Party)) :
    (s.tell delivery).pending = s.pending ∧ (s.tell delivery).nextId = s.nextId := by
  cases delivery <;> exact ⟨rfl, rfl⟩

lemma settle_lost (s : Session) (id : CorrelationId) (cause : String) :
    let failed := s.pending.fail id (Failure.transport cause).message
    (s.settle id (some cause)).1 =
      { s with pending := failed.1, sinks := failed.2.toList.foldl Sinks.perform s.sinks } := by
  unfold Session.settle
  dsimp only
  rw [tell_eq]

lemma pending_settle (s : Session) (id : CorrelationId) (cause : Option String) :
    Fewer s.pending (s.settle id cause).1.pending ∧ (s.settle id cause).1.nextId = s.nextId := by
  cases cause with
  | none => exact ⟨.rfl, rfl⟩
  | some cause =>
    rw [settle_lost]
    exact ⟨(fail_takesOut s.pending id (Failure.transport cause).message).fewer, rfl⟩

lemma pending_proceed (s : Session) (result : Except Failure CorrelationId) (errand : Errand) :
    (errand.proceed s result).pending = s.pending ∧ (errand.proceed s result).nextId = s.nextId := by
  cases errand with
  | submission observer => exact ⟨rfl, rfl⟩
  | opening call => cases result <;> exact ⟨rfl, rfl⟩
  | query call reply poll => exact ⟨rfl, rfl⟩

/-! ### The invariant -/

/-- The counter, the waiting commands and what went out fit together. -/
structure Orderly (d : Desk σ) : Prop where
  ids : (issued d.log).map (fun command => ordinal command.id) =
    List.range' 1 (issued d.log).length
  next : ordinal d.session.nextId = (issued d.log).length + 1
  /-- Each command goes out once and in its turn. -/
  out : (dispatched d.log).map Prod.fst ++ (d.flight.map Flight.command).toList = issued d.log
  entry : ∀ id entry, d.session.pending.get? id = some entry →
    entry.command.id = id ∧ ordinal id < ordinal d.session.nextId
  alarm : ∀ a ∈ d.session.pending.alarms, ordinal a.id < ordinal d.session.nextId
  /-- The entry under the id of the command on its way out is that of this command. -/
  own : ∀ flight entry, d.flight = some flight →
    d.session.pending.get? flight.command.id = some entry →
    entry.command = flight.command ∧ flight.errand.requester = some entry.requester

lemma orderly_start (timing : Timing) (world : σ) : Orderly (.start timing world) where
  ids := rfl
  next := rfl
  out := rfl
  entry id entry h := by simp [Desk.start, Session.start] at h
  alarm a h := by cases h
  own flight entry h := by cases h

lemma Orderly.free {d : Desk σ} (h : Orderly d) : d.session.pending.get? d.session.nextId = none := by
  by_contra hsome
  obtain ⟨entry, hget⟩ := Option.ne_none_iff_exists'.mp hsome
  exact absurd (h.entry _ entry hget).2 (Nat.lt_irrefl _)

lemma Orderly.not_contains {d : Desk σ} (h : Orderly d) :
    d.session.pending.contains d.session.nextId = false := by
  rw [Pending.contains, h.free, Option.isSome_none]

/-- A turn that sends nothing leaves the waiting commands as they are, or takes some out. -/
lemma Orderly.fewer {d e : Desk σ} (h : Orderly d) (hnext : e.session.nextId = d.session.nextId)
    (hflight : e.flight = d.flight) (hissued : issued e.log = issued d.log)
    (hdispatched : dispatched e.log = dispatched d.log)
    (hfewer : Fewer d.session.pending e.session.pending) : Orderly e where
  ids := by rw [hissued]; exact h.ids
  next := by rw [hissued, hnext]; exact h.next
  out := by rw [hissued, hdispatched, hflight]; exact h.out
  entry id entry hget := by rw [hnext]; exact h.entry id entry (hfewer.entry id entry hget)
  alarm a ha := by rw [hnext]; exact h.alarm a (hfewer.alarm a ha)
  own flight entry hf hget := by
    rw [hflight] at hf
    exact h.own flight entry hf (hfewer.entry _ entry hget)

/-- A call begins, for which nothing was sent yet. -/
lemma Orderly.opened {d : Desk σ} (h : Orderly d) (purpose : Purpose) :
    Orderly { d with session := opened d.session purpose } :=
  h.fewer rfl rfl rfl rfl .rfl

lemma Orderly.launch {d : Desk σ} (h : Orderly d) (hfree : d.flight = none)
    (request : Request) (errand : Errand) (hbound : IdsSuffice (d.launch request errand).log) :
    Orderly (d.launch request errand) := by
  rw [IdsSuffice, Desk.launch_log, issued_append, List.length_append] at hbound
  have hroom : (issued d.log).length + 1 < UInt64.size - 1 := hbound
  have hnext : ordinal d.session.nextId.next = (issued d.log).length + 1 + 1 := by
    rw [ordinal_next (by rw [h.next]; omega), h.next]
  have hless : ∀ id, ordinal id < ordinal d.session.nextId →
      ordinal id < ordinal d.session.nextId.next := by
    intro id hlt
    rw [h.next] at hlt
    rw [hnext]
    omega
  have hnow : ordinal d.session.nextId < ordinal d.session.nextId.next := by
    rw [hnext, h.next]
    omega
  rw [Desk.launch_eq h.not_contains]
  dsimp only
  constructor
  · rw [issued_append, List.map_append, h.ids, List.length_append]
    change _ ++ [ordinal d.session.nextId] = List.range' 1 (_ + 1)
    rw [h.next, List.range'_concat, Nat.one_mul, Nat.add_comm]
  · rw [issued_append, List.length_append]
    exact hnext
  · have hout := h.out
    rw [hfree, Option.map_none, Option.toList_none, List.append_nil] at hout
    rw [issued_append, dispatched_append, ← hout, List.map_append, List.append_assoc]
    rfl
  · intro id entry hget
    rw [get?_enrolled_free h.free] at hget
    split at hget
    · rename_i hid
      obtain ⟨party, -, rfl⟩ := Option.map_eq_some_iff.mp hget
      rw [hid]
      exact ⟨rfl, hnow⟩
    · obtain ⟨hcommand, hlt⟩ := h.entry id entry hget
      exact ⟨hcommand, hless id hlt⟩
  · intro a ha
    rcases mem_alarms_enrolled ha with ha | rfl
    · exact hless a.id (h.alarm a ha)
    · exact hnow
  · rintro flight entry hf hget
    cases hf
    rw [get?_enrolled_free h.free] at hget
    obtain ⟨party, hparty, rfl⟩ := Option.map_eq_some_iff.mp ((if_pos rfl).symm.trans hget)
    exact ⟨rfl, hparty⟩

lemma Orderly.land {d : Desk σ} (h : Orderly d) {flight : Flight}
    (hflight : d.flight = some flight) : Orderly (d.land send flight) := by
  have hfewer : Fewer d.session.pending (d.land send flight).session.pending := by
    unfold Desk.land
    dsimp only
    rw [(pending_proceed _ _ _).1]
    exact (pending_settle _ _ _).1
  have hnext : (d.land send flight).session.nextId = d.session.nextId := by
    unfold Desk.land
    dsimp only
    rw [(pending_proceed _ _ _).2]
    exact (pending_settle _ _ _).2
  have hissued : issued (d.land send flight).log = issued d.log := by
    unfold Desk.land
    rw [issued_append]
    exact List.append_nil _
  constructor
  · rw [hissued]
    exact h.ids
  · rw [hissued, hnext]
    exact h.next
  · have hout := h.out
    rw [hflight] at hout
    rw [hissued, ← hout]
    unfold Desk.land
    rw [dispatched_append, List.map_append, List.append_assoc]
    rfl
  · intro id entry hget
    rw [hnext]
    exact h.entry id entry (hfewer.entry id entry hget)
  · intro a ha
    rw [hnext]
    exact h.alarm a (hfewer.alarm a ha)
  · intro other entry hf
    cases hf

lemma Turn.orderly {d e : Desk σ} (hturn : Turn send d e) (h : Orderly d)
    (hbound : IdsSuffice e.log) : Orderly e := by
  have launch : ∀ {x : Desk σ} request errand, Orderly x → x.flight = none → e.log =
      (x.launch request errand).log → Orderly (x.launch request errand) := by
    intro x request errand hx hfree hlog
    rw [hlog] at hbound
    exact hx.launch hfree request errand hbound
  cases hturn with
  | connect =>
    exact h.fewer rfl rfl ((issued_append _ _).trans (List.append_nil _))
      ((dispatched_append _ _).trans (List.append_nil _)) .rfl
  | disconnect id => exact h.fewer rfl rfl rfl rfl .rfl
  | shutdown => exact h.fewer rfl rfl rfl rfl .rfl
  | pass time htime => exact h.fewer rfl rfl rfl rfl .rfl
  | hear time bytes hlistens =>
    apply h.fewer
    · unfold Desk.hear
      dsimp only
      rw [handle_eq]
    · rfl
    · exact (issued_append _ _).trans (List.append_nil _)
    · exact (dispatched_append _ _).trans (List.append_nil _)
    · unfold Desk.hear
      dsimp only
      rw [handle_eq]
      exact replied_fewer _ _
  | ring alarm hset hdue =>
    apply h.fewer
    · unfold Desk.ring rung
      exact (pending_tell _ _).2
    · rfl
    · exact (issued_append _ _).trans (List.append_nil _)
    · exact (dispatched_append _ _).trans (List.append_nil _)
    · unfold Desk.ring rung
      dsimp only
      rw [(pending_tell _ _).1]
      exact (ring_takesOut _ _).fewer
  | write text hfree =>
    exact h.fewer rfl rfl ((issued_append _ _).trans (List.append_nil _))
      ((dispatched_append _ _).trans (List.append_nil _)) .rfl
  | submit request observer hfree => exact launch request _ h hfree rfl
  | call purpose hfree =>
    have hopened := h.opened purpose
    exact launch purpose.request _ hopened hfree rfl
  | land flight hflight => exact h.land hflight
  | learn call outcome hcall hstage hbusy houtcome hends => exact h.fewer rfl rfl rfl rfl .rfl
  | inquire call outcome reply poll hcall hstage hfree houtcome hpolls =>
    exact launch _ _ h hfree rfl
  | ask call reply poll wake hcall hstage hfree hdue hleft => exact launch _ _ h hfree rfl
  | check call reply poll wake c hcall hstage hbusy hdue hcheck =>
    exact h.fewer rfl rfl rfl rfl .rfl

lemma Turns.orderly {timing : Timing} {world : σ} {d : Desk σ}
    (h : Turns send (.start timing world) d) (hbound : IdsSuffice d.log) :
    Orderly d := by
  induction h with
  | refl => exact orderly_start timing world
  | tail _ hturn ih => exact hturn.orderly (ih (hbound.of_prefix hturn.log_prefix)) hbound

/-! ### The link -/

variable (send) in
/-- The link was handed the posts of the log, in this order, and nothing else. -/
def Relayed (world : σ) (d : Desk σ) : Prop :=
  (((posts d.log).map Prod.fst).mapM send).run world = ((posts d.log).map Prod.snd, d.world)

lemma Relayed.post {world : σ} {d e : Desk σ} (h : Relayed send world d) (bytes : ByteArray)
    (hposts : posts e.log = posts d.log ++ [(bytes, ((send bytes).run d.world).1)])
    (hworld : e.world = ((send bytes).run d.world).2) : Relayed send world e := by
  unfold Relayed at h ⊢
  rw [hposts, hworld, List.map_append, List.map_append, List.mapM_append, StateT.run_bind, h]
  rfl

lemma Relayed.idle {world : σ} {d e : Desk σ} (h : Relayed send world d)
    (hposts : posts e.log = posts d.log) (hworld : e.world = d.world) : Relayed send world e := by
  unfold Relayed at h ⊢
  rw [hposts, hworld]
  exact h

lemma Desk.launch_world (d : Desk σ) (request : Request) (errand : Errand) :
    (d.launch request errand).world = d.world := by
  unfold Desk.launch
  rcases d.session.reserve request errand.requester with ⟨s, command, failure | ⟨⟩⟩ <;> rfl

lemma Desk.launch_posts (d : Desk σ) (request : Request) (errand : Errand) :
    posts (d.launch request errand).log = posts d.log := by
  rw [Desk.launch_log, posts_append]
  exact List.append_nil _

lemma Turn.relayed {world : σ} {d e : Desk σ} (hturn : Turn send d e)
    (h : Relayed send world d) : Relayed send world e := by
  cases hturn with
  | connect => exact h.idle ((posts_append _ _).trans (List.append_nil _)) rfl
  | disconnect id => exact h.idle rfl rfl
  | shutdown => exact h.idle rfl rfl
  | pass time htime => exact h.idle rfl rfl
  | hear time bytes hlistens => exact h.idle ((posts_append _ _).trans (List.append_nil _)) rfl
  | ring alarm hset hdue => exact h.idle ((posts_append _ _).trans (List.append_nil _)) rfl
  | write text hfree => exact h.post (encodeRaw text) (posts_append _ _) rfl
  | submit request observer hfree =>
    exact h.idle (Desk.launch_posts _ _ _) (Desk.launch_world _ _ _)
  | call purpose hfree => exact h.idle (Desk.launch_posts _ _ _) (Desk.launch_world _ _ _)
  | land flight hflight => exact h.post flight.command.encode (posts_append _ _) rfl
  | learn call outcome hcall hstage hbusy houtcome hends => exact h.idle rfl rfl
  | inquire call outcome reply poll hcall hstage hfree houtcome hpolls =>
    exact h.idle (Desk.launch_posts _ _ _) (Desk.launch_world _ _ _)
  | ask call reply poll wake hcall hstage hfree hdue hleft =>
    exact h.idle (Desk.launch_posts _ _ _) (Desk.launch_world _ _ _)
  | check call reply poll wake c hcall hstage hbusy hdue hcheck => exact h.idle rfl rfl

/-! ### The result -/

/-- The commands that were sent and not lost, oldest first. -/
def arrived (log : List Occurrence) : List Command :=
  ((dispatched log).filter fun x => x.2.isNone).map Prod.fst

variable (send) in
/-- What the ids of a session's commands obey. -/
structure IdsInOrder (world : σ) (d : Desk σ) : Prop where
  /-- The ids are given out as 1, 2, 3 and on. -/
  allocated : (issued d.log).map (fun command => ordinal command.id) =
    List.range' 1 (issued d.log).length
  next : ordinal d.session.nextId = (issued d.log).length + 1
  /-- Every command that has an id goes out once and in its turn. -/
  once : (dispatched d.log).map Prod.fst ++ (d.flight.map Flight.command).toList = issued d.log
  /-- Nothing else goes out but lines that are sent as they are, which have no part in the ids. -/
  relayed : Relayed send world d
  increasing : (arrived d.log).Pairwise fun a b => ordinal a.id < ordinal b.id
  /-- An id that is missing at the far end is that of a command that was lost, or is on its way. -/
  gap : ∀ command ∈ issued d.log, command ∈ arrived d.log ∨
    (∃ cause, (command, some cause) ∈ dispatched d.log) ∨
    ∃ flight, d.flight = some flight ∧ flight.command = command
  waits : ∀ id ∈ d.session.pending.ids, ordinal id < ordinal d.session.nextId
  /-- No command is refused for its id. -/
  accepted : ∀ request requester, (d.session.reserve request requester).2.2 = .ok ()
  /-- A command that is lost ends its own entry at most, and none if nobody asked for it. -/
  spares : ∀ flight, d.flight = some flight →
    (∀ entry, d.session.pending.get? flight.command.id = some entry →
      entry.command = flight.command ∧ flight.errand.requester = some entry.requester) ∧
    (flight.errand.requester = none → ∀ cause,
      d.session.pending.fail flight.command.id cause = (d.session.pending, none))

lemma Orderly.increasing {d : Desk σ} (h : Orderly d) :
    (arrived d.log).Pairwise fun a b => ordinal a.id < ordinal b.id := by
  have hissued : (issued d.log).Pairwise fun a b => ordinal a.id < ordinal b.id := by
    rw [← List.pairwise_map (f := fun command : Command => ordinal command.id) (R := (· < ·)), h.ids]
    exact List.pairwise_lt_range'
  rw [← h.out] at hissued
  have hsent := (List.pairwise_append.mp hissued).1
  unfold arrived
  exact hsent.sublist (List.filter_sublist.map Prod.fst)

lemma Orderly.gap {d : Desk σ} (h : Orderly d) {command : Command}
    (hissued : command ∈ issued d.log) : command ∈ arrived d.log ∨
      (∃ cause, (command, some cause) ∈ dispatched d.log) ∨
      ∃ flight, d.flight = some flight ∧ flight.command = command := by
  rw [← h.out, List.mem_append] at hissued
  rcases hissued with hsent | hflight
  · obtain ⟨⟨c, cause⟩, hmem, rfl⟩ := List.mem_map.mp hsent
    cases cause with
    | none => exact .inl (List.mem_map_of_mem (List.mem_filter.mpr ⟨hmem, rfl⟩))
    | some cause => exact .inr (.inl ⟨cause, hmem⟩)
  · rw [Option.mem_toList, Option.map_eq_some_iff] at hflight
    exact .inr (.inr hflight)

lemma Orderly.fail_untracked {d : Desk σ} (h : Orderly d) {flight : Flight}
    (hflight : d.flight = some flight) (huntracked : flight.errand.requester = none)
    (cause : String) :
    d.session.pending.fail flight.command.id cause = (d.session.pending, none) := by
  unfold Pending.fail
  cases hget : d.session.pending.get? flight.command.id with
  | none => rfl
  | some entry =>
    obtain ⟨-, howner⟩ := h.own flight entry hflight hget
    rw [huntracked] at howner
    cases howner

/-- After any turns of a session that has sent fewer commands than there are ids. -/
theorem ids_in_order {timing : Timing} {world : σ} {d : Desk σ}
    (h : Turns send (.start timing world) d) (hbound : IdsSuffice d.log) :
    IdsInOrder send world d := by
  have horderly := h.orderly hbound
  constructor
  · exact horderly.ids
  · exact horderly.next
  · exact horderly.out
  · exact h.keeps (motive := Relayed send world) (fun _ _ hturn hx => hturn.relayed hx) rfl
  · exact horderly.increasing
  · intro command hissued
    exact horderly.gap hissued
  · intro id hid
    obtain ⟨entry, hget⟩ := Option.isSome_iff_exists.mp
      (Std.TreeMap.mem_iff_isSome_getElem?.mp (Std.TreeMap.mem_keys.mp hid))
    exact (horderly.entry id entry hget).2
  · intro request requester
    rw [reserve_eq horderly.not_contains]
  · intro flight hflight
    exact ⟨fun entry => horderly.own flight entry hflight, horderly.fail_untracked hflight⟩

/-- A link that loses the second datagram. -/
def lossyLink : Link (StateM Wire) :=
  Wire.link fun n => if n = 2 then some "network down" else none

/-- A call, a command of nobody that is lost, a line, and a command of an observer on its way. -/
def lossyDesk : Desk Wire :=
  let asked := (Desk.start .default .idle).call (.command (.status ⟨"D1"⟩))
  let sent := asked.land lossyLink ⟨⟨⟨"D1"⟩, ⟨1⟩, .default, queryAction⟩,
    .opening ⟨1, .command (.status ⟨"D1"⟩), .awaiting⟩⟩
  let launched := sent.launch ⟨⟨"D2"⟩, .default, lockAction⟩ (.submission none)
  let lost := launched.land lossyLink ⟨⟨⟨"D2"⟩, ⟨2⟩, .default, lockAction⟩, .submission none⟩
  let wrote := lost.write lossyLink "PING"
  wrote.launch (.status ⟨"D3"⟩) (.submission (some ⟨1⟩))

lemma lossyDesk_turns : Turns lossyLink (.start .default .idle) lossyDesk := by
  unfold lossyDesk
  refine .tail (.tail (.tail (.tail (.tail (.tail .refl (.call _ _ ?_)) (.land _ _ ?_))
    (.submit _ _ none ?_)) (.land _ _ ?_)) (.write _ _ ?_)) (.submit _ _ (some ⟨1⟩) ?_)
  all_goals rfl

theorem ids_in_order_lossy :
    IdsSuffice lossyDesk.log ∧
      IdsInOrder lossyLink .idle lossyDesk ∧
      (issued lossyDesk.log).map (fun command => ordinal command.id) = [1, 2, 3] ∧
      (arrived lossyDesk.log).map (fun command => ordinal command.id) = [1] := by
  have hbound : IdsSuffice lossyDesk.log := by decide +kernel
  refine ⟨hbound, ids_in_order lossyDesk_turns hbound, ?_, ?_⟩
  · decide +kernel
  · decide +kernel

end HubBridge.Proofs
