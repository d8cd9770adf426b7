import HubBridge.Proofs.FreshIds
import HubBridge.Proofs.Seats

/-!
# What a turn does to commands and calls

Most turns pass the waiting commands and the calls by. The others end one entry, launch a command, let
one land or end a call; `Deed` says which, and what the rest looks like afterwards. On this rests that
every entry has its alarm set and that no entry waits for a call which has not begun.
-/

namespace HubBridge.Proofs

/-- The occurrence decides nothing for a command that has its id. -/
def Silent : Occurrence → Prop
  | .heard _ bytes => replyEvent (.ofDatagram bytes) = none
  | .rang _ | .sent .. => False
  | .joined _ | .issued _ | .wrote .. => True

variable {σ : Type} {send : Link (StateM σ)}

/-- The two sessions agree on the ids, the calls and what is on its way out. -/
structure SameCalls (d e : Desk σ) : Prop where
  nextId : e.session.nextId = d.session.nextId
  calls : e.session.calls = d.session.calls
  called : e.session.called = d.session.called
  flight : e.flight = d.flight
  members : ∀ member ∈ e.session.audience.members,
    member ∈ d.session.audience.members ∨ ∃ id, member.2 = .observer id

/-- Nothing that a command or a call would notice. -/
structure Aside (d e : Desk σ) : Prop extends SameCalls d e where
  pending : e.session.pending = d.session.pending
  slot : ∀ n, (∀ member ∈ d.session.audience.members, member.2 ≠ .call n) →
    e.session.sinks.get? (.call n) = d.session.sinks.get? (.call n)
  log : ∃ later, e.log = d.log ++ later ∧ ∀ x ∈ later, Silent x

/-- The entry of `id` is taken out and its requester told `event`, for what occurred. -/
structure Ends (d e : Desk σ) (id : CorrelationId) (event : PendingCommand Party → Event)
    (result : Pending Party × Option (Delivery Party)) (x : Occurrence) : Prop
    extends SameCalls d e where
  takesOut : TakesOut d.session.pending id event result
  pending : e.session.pending = result.1
  slot : ∀ n, (∀ member ∈ d.session.audience.members, member.2 ≠ .call n) →
    e.session.sinks.get? (.call n) =
      (result.2.toList.foldl Sinks.perform d.session.sinks).get? (.call n)
  log : e.log = d.log ++ [x]

def outcomeAt (d : Desk σ) (n : Nat) : Option Outcome :=
  (d.session.sinks.get? (.call n)).bind Sink.outcome?

/-- The call has reason to ask: it begins to poll, or its poll goes on. -/
def Asks (d : Desk σ) (call : Call) (reply : Reply) (poll : Poll) : Prop :=
  call ∈ d.session.calls ∧
    ((call.stage = .awaiting ∧ ∃ outcome, outcomeAt d call.number = some outcome ∧
        inquiry call.purpose outcome = some (reply, poll)) ∨
      ∃ wake, call.stage = .polling reply poll wake)

/-- The call has reason to end with this: with the outcome that it finds, or with its poll. -/
def Concludes (d : Desk σ) (call : Call) (result : CallResult) : Prop :=
  call ∈ d.session.calls ∧ ¬d.Busy call ∧
    ((call.stage = .awaiting ∧ ∃ outcome, outcomeAt d call.number = some outcome ∧
        inquiry call.purpose outcome = none ∧ result = call.purpose.result outcome) ∨
      ∃ reply poll wake c, call.stage = .polling reply poll wake ∧
        result = .actuation (.ok ⟨reply, some c⟩))

variable (send) in
/-- A turn, by what it means for commands and calls. -/
inductive Deed : Desk σ → Desk σ → Prop
  | aside {d e : Desk σ} (h : Aside d e) : Deed d e
  | answer {d e : Desk σ} (time : Int) (bytes : ByteArray) (id : CorrelationId) (event : Event)
      (hreply : replyEvent (.ofDatagram bytes) = some (id, event))
      (h : Ends d e id (fun _ => event) (d.session.pending.resolve id event)
        (.heard time bytes)) : Deed d e
  | ring {d e : Desk σ} (alarm : Alarm) (hset : alarm ∈ d.session.pending.alarms)
      (h : Ends d e alarm.id (expiryOf alarm.id) (d.session.pending.ring alarm) (.rang alarm)) :
      Deed d e
  | launch (d : Desk σ) (request : Request) (errand : Errand) (hfree : d.flight = none)
      (hopens : ∀ call, errand ≠ .opening call)
      (hasks : ∀ call reply poll, errand = .query call reply poll → Asks d call reply poll) :
      Deed d (d.launch request errand)
  | call (d : Desk σ) (purpose : Purpose) (hfree : d.flight = none) : Deed d (d.call purpose)
  | land (d : Desk σ) (flight : Flight) (hflight : d.flight = some flight) :
      Deed d (d.land send flight)
  | finish (d : Desk σ) (call : Call) (result : CallResult) (h : Concludes d call result) :
      Deed d { d with session := d.session.finish call result }

lemma hear_deed (d : Desk σ) (time : Int) (bytes : ByteArray) :
    Deed send d (d.hear time bytes) := by
  have hsame : SameCalls d (d.hear time bytes) := by
    unfold Desk.hear
    rw [handle_eq]
    exact ⟨rfl, rfl, rfl, rfl, fun _ hm => .inl hm⟩
  have hpending : (d.hear time bytes).session.pending =
      (replied d.session.pending (.ofDatagram bytes)).1 := by
    unfold Desk.hear
    rw [handle_eq]
  have hslot : ∀ n, (∀ member ∈ d.session.audience.members, member.2 ≠ .call n) →
      (d.hear time bytes).session.sinks.get? (.call n) =
        ((replied d.session.pending (.ofDatagram bytes)).2.toList.foldl Sinks.perform
          d.session.sinks).get? (.call n) :=
    fun n hn => sink_handle d.session time (.ofDatagram bytes) hn
  unfold replied at hpending hslot
  cases hreply : replyEvent (.ofDatagram bytes) with
  | none =>
    rw [hreply] at hpending hslot
    refine .aside ⟨hsame, hpending, hslot, [.heard time bytes], rfl, ?_⟩
    intro x hx
    rw [List.mem_singleton.mp hx]
    exact hreply
  | some reply =>
    obtain ⟨id, event⟩ := reply
    rw [hreply] at hpending hslot
    exact .answer time bytes id event hreply
      ⟨hsame, resolve_takesOut _ id event, hpending, hslot, rfl⟩

lemma ring_ends (d : Desk σ) (alarm : Alarm) :
    Ends d (d.ring alarm) alarm.id (expiryOf alarm.id) (d.session.pending.ring alarm)
      (.rang alarm) := by
  have hbooks := sameBooks_rung d.session alarm
  refine ⟨⟨?_, ?_, ?_, rfl, ?_⟩, ring_takesOut _ alarm, ?_, ?_, rfl⟩
  · exact (pending_tell _ _).2
  · exact hbooks.calls
  · exact hbooks.called
  · intro member hm
    rw [Desk.ring, hbooks.audience] at hm
    exact .inl hm
  · exact (pending_tell _ _).1
  · intro n _
    unfold Desk.ring rung
    rw [tell_eq]

theorem Turn.deed {d e : Desk σ} (h : Turn send d e) : Deed send d e := by
  cases h with
  | connect =>
    refine .aside ⟨⟨rfl, rfl, rfl, rfl, ?_⟩, rfl, ?_, _, rfl, ?_⟩
    · intro member hm
      rcases of_mem_seat hm with rfl | hm
      · exact .inr ⟨_, rfl⟩
      · exact .inl hm
    · intro n _
      exact Sinks.get?_insert_of_ne _ (by simp) _
    · intro x hx
      rw [List.mem_singleton.mp hx]
      trivial
  | disconnect id =>
    refine .aside ⟨⟨rfl, rfl, rfl, rfl, ?_⟩, rfl, ?_, [], (List.append_nil _).symm, ?_⟩
    · intro member hm
      exact .inl (List.mem_filter.mp hm).1
    · intro n _
      exact Sinks.get?_erase_of_ne _ (by simp)
    · intro x hx
      cases hx
  | shutdown =>
    exact .aside ⟨⟨rfl, rfl, rfl, rfl, fun _ hm => .inl hm⟩, rfl, fun _ _ => rfl, [],
      (List.append_nil _).symm, fun _ hx => nomatch hx⟩
  | pass time htime =>
    exact .aside ⟨⟨rfl, rfl, rfl, rfl, fun _ hm => .inl hm⟩, rfl, fun _ _ => rfl, [],
      (List.append_nil _).symm, fun _ hx => nomatch hx⟩
  | hear time bytes hlistens => exact hear_deed d time bytes
  | ring alarm hset hdue => exact .ring alarm hset (ring_ends d alarm)
  | write text hfree =>
    refine .aside ⟨⟨rfl, rfl, rfl, rfl, fun _ hm => .inl hm⟩, rfl, fun _ _ => rfl, _, rfl, ?_⟩
    intro x hx
    rw [List.mem_singleton.mp hx]
    trivial
  | submit request observer hfree =>
    exact .launch d request _ hfree (fun _ h => nomatch h) (fun _ _ _ h => nomatch h)
  | call purpose hfree => exact .call d purpose hfree
  | land flight hflight => exact .land d flight hflight
  | learn call outcome hcall hstage hbusy houtcome hends =>
    exact .finish d call _ ⟨hcall, hbusy, .inl ⟨hstage, outcome, houtcome, hends, rfl⟩⟩
  | inquire call outcome reply poll hcall hstage hfree houtcome hpolls =>
    refine .launch d _ _ hfree (fun _ h => nomatch h) ?_
    rintro _ _ _ ⟨⟩
    exact ⟨hcall, .inl ⟨hstage, outcome, houtcome, hpolls⟩⟩
  | ask call reply poll wake hcall hstage hfree hdue hleft =>
    refine .launch d _ _ hfree (fun _ h => nomatch h) ?_
    rintro _ _ _ ⟨⟩
    exact ⟨hcall, .inr ⟨wake, hstage⟩⟩
  | check call reply poll wake c hcall hstage hbusy hdue hcheck =>
    exact .finish d call _ ⟨hcall, hbusy, .inr ⟨reply, poll, wake, c, hstage, rfl⟩⟩

section Ends

variable {d e : Desk σ} {id : CorrelationId} {event : PendingCommand Party → Event}
  {result : Pending Party × Option (Delivery Party)} {x : Occurrence}

lemma Ends.get? (h : Ends d e id event result x) (other : CorrelationId) :
    e.session.pending.get? other = if other = id then none else d.session.pending.get? other := by
  rw [h.pending, h.takesOut.get?]

/-- A call whose entry is not taken out is told nothing. -/
lemma Ends.slot_same (h : Ends d e id event result x) {n : Nat}
    (hmembers : ∀ member ∈ d.session.audience.members, member.2 ≠ .call n)
    (hother : ∀ entry, d.session.pending.get? id = some entry → entry.requester ≠ .call n) :
    e.session.sinks.get? (.call n) = d.session.sinks.get? (.call n) := by
  rw [h.slot n hmembers]
  exact h.takesOut.slot_same _ hother

lemma Ends.slot_told (h : Ends d e id event result x) {n : Nat}
    (hmembers : ∀ member ∈ d.session.audience.members, member.2 ≠ .call n)
    {entry : PendingCommand Party} (hget : d.session.pending.get? id = some entry)
    (hcaller : entry.requester = .call n) :
    e.session.sinks.get? (.call n) =
      (d.session.sinks.get? (.call n)).map fun sink => (sink.deliver (event entry)).1 := by
  rw [h.slot n hmembers, h.takesOut.told, endingOf, hget]
  exact (get?_perform _ _ _).trans (if_pos hcaller.symm)

end Ends

/-! ### Entries and their alarms -/

/-- Every entry has its alarm set, and alarms are told apart by their serial numbers. -/
structure Wound (p : Pending Party) : Prop where
  isSet : ∀ id entry, p.get? id = some entry → ⟨entry.alarm, id, entry.deadline⟩ ∈ p.alarms
  serial_lt : ∀ a ∈ p.alarms, a.serial < p.nextSerial
  serial_inj : ∀ a ∈ p.alarms, ∀ b ∈ p.alarms, a.serial = b.serial → a = b

/-- Whatever takes out an entry leaves the alarms of the others set. -/
lemma Wound.takesOut {p : Pending Party} (h : Wound p) {id : CorrelationId}
    {event : PendingCommand Party → Event} {result : Pending Party × Option (Delivery Party)}
    (ht : TakesOut p id event result)
    (hkeep : ∀ a ∈ p.alarms, a.id ≠ id → a ∈ result.1.alarms) : Wound result.1 where
  isSet other entry hget := by
    rw [ht.get?] at hget
    split at hget
    · cases hget
    · exact hkeep _ (h.isSet other entry hget) (by assumption)
  serial_lt a ha := by
    rw [ht.nextSerial]
    exact h.serial_lt a (ht.alarms a ha)
  serial_inj a ha b hb := h.serial_inj a (ht.alarms a ha) b (ht.alarms b hb)

/-- The alarm of an entry has no serial number in common with the alarms of other ids. -/
lemma Wound.keep {p : Pending Party} (h : Wound p) {a b : Alarm} (ha : a ∈ p.alarms)
    (hb : b ∈ p.alarms) (hid : b.id ≠ a.id) : b ∈ (p.cancel a.serial).alarms := by
  apply List.mem_filter.mpr
  refine ⟨hb, decide_eq_true ?_⟩
  intro hserial
  exact hid (by rw [h.serial_inj b hb a ha hserial])

lemma Wound.resolve {p : Pending Party} (h : Wound p) (id : CorrelationId) (e : Event) :
    Wound (p.resolve id e).1 := by
  apply h.takesOut (resolve_takesOut p id e)
  intro a ha hid
  unfold Pending.resolve
  cases hget : p.get? id with
  | none => exact ha
  | some entry => exact h.keep (h.isSet id entry hget) ha hid

lemma Wound.fail {p : Pending Party} (h : Wound p) (id : CorrelationId) (cause : String) :
    Wound (p.fail id cause).1 := by
  apply h.takesOut (fail_takesOut p id cause)
  intro a ha hid
  unfold Pending.fail
  cases hget : p.get? id with
  | none => exact ha
  | some entry => exact h.keep (h.isSet id entry hget) ha hid

lemma Wound.ring {p : Pending Party} (h : Wound p) {a : Alarm} (ha : a ∈ p.alarms) :
    Wound (p.ring a).1 := by
  apply h.takesOut (ring_takesOut p a)
  intro b hb hid
  rw [alarms_ring]
  exact h.keep ha hb hid

lemma Wound.enrolled {p : Pending Party} (h : Wound p) {now timeout : Nat} {command : Command}
    {requester : Option Party} : Wound (enrolled p now timeout command requester) := by
  cases requester with
  | none => exact h
  | some party =>
    constructor
    · intro id entry hget
      rw [get?_enrolled] at hget
      split at hget
      · rename_i hid
        cases hget
        rw [hid]
        exact List.mem_append_right _ (List.mem_singleton.mpr rfl)
      · exact List.mem_append_left _ (h.isSet id entry hget)
    · intro a ha
      change a.serial < p.nextSerial + 1
      rcases mem_alarms_enrolled ha with ha | rfl
      · have := h.serial_lt a ha
        omega
      · exact Nat.lt_succ_self _
    · intro a ha b hb hserial
      rcases mem_alarms_enrolled ha with ha | rfl
      · rcases mem_alarms_enrolled hb with hb | rfl
        · exact h.serial_inj a ha b hb hserial
        · have := h.serial_lt a ha
          dsimp only at hserial
          omega
      · rcases mem_alarms_enrolled hb with hb | rfl
        · have := h.serial_lt b hb
          dsimp only at hserial
          omega
        · rfl

/-! ### What holds between turns -/

/-- No two calls share a number, no observer goes by the name of a call, no entry waits for a call
that has not begun, and every entry has its alarm. -/
structure Tidy (d : Desk σ) : Prop where
  numbered : Numbered d.session
  members : ∀ member ∈ d.session.audience.members, ∀ n, member.2 ≠ .call n
  requester : ∀ id entry n, d.session.pending.get? id = some entry →
    entry.requester = .call n → n ≤ d.session.called
  wound : Wound d.session.pending

lemma wound_empty : Wound .empty where
  isSet id entry h := by simp at h
  serial_lt a ha := by cases ha
  serial_inj a ha := by cases ha

lemma tidy_start (timing : Timing) (world : σ) : Tidy (.start timing world) where
  numbered := numbered_start timing
  members _ hm := nomatch hm
  requester id entry n h := by simp [Desk.start, Session.start] at h
  wound := wound_empty

lemma SameCalls.tidy {d e : Desk σ} (hsame : SameCalls d e) (h : Tidy d)
    (hfewer : Fewer d.session.pending e.session.pending) (hwound : Wound e.session.pending) :
    Tidy e where
  numbered := by
    constructor
    · rw [hsame.calls]
      exact h.numbered.nodup
    · rw [hsame.calls, hsame.called]
      exact h.numbered.le_called
  members member hm n := by
    rcases hsame.members member hm with hm | ⟨id, hid⟩
    · exact h.members member hm n
    · rw [hid]
      simp
  requester id entry n hget := by
    rw [hsame.called]
    exact h.requester id entry n (hfewer.entry id entry hget)
  wound := hwound

lemma Tidy.launch {d : Desk σ} (h : Tidy d) (hfree : d.session.pending.contains d.session.nextId = false)
    (request : Request) (errand : Errand)
    (hcaller : ∀ n, errand.requester = some (.call n) → n ≤ d.session.called) :
    Tidy (d.launch request errand) := by
  rw [Desk.launch_eq hfree]
  refine ⟨⟨h.numbered.nodup, h.numbered.le_called⟩, h.members, ?_, h.wound.enrolled⟩
  intro id entry n hget hentry
  rw [get?_enrolled_free (get?_eq_none hfree)] at hget
  split at hget
  · obtain ⟨party, hparty, rfl⟩ := Option.map_eq_some_iff.mp hget
    obtain rfl : party = .call n := hentry
    exact hcaller n hparty
  · exact h.requester id entry n hget hentry

lemma wound_settle {s : Session} (h : Wound s.pending) (id : CorrelationId)
    (cause : Option String) : Wound (s.settle id cause).1.pending := by
  cases cause with
  | none => exact h
  | some cause =>
    rw [settle_lost]
    exact h.fail id _

lemma numbered_proceed {s : Session} (h : Numbered s) (result : Except Failure CorrelationId)
    (errand : Errand) : Numbered (errand.proceed s result) := by
  cases errand with
  | submission observer => exact h
  | opening call =>
    cases result with
    | ok id => exact h
    | error failure => exact (finish_resumed s call _).numbered h
  | query call reply poll =>
    have hresumed : Resumed s ((Errand.query call reply poll).proceed s result) call :=
      ⟨rfl, rfl, rfl, rfl, numbers_setCall s _, fun _ hx hn => setCall_keeps hx hn⟩
    exact hresumed.numbered h

lemma audience_proceed (s : Session) (result : Except Failure CorrelationId) (errand : Errand) :
    (errand.proceed s result).audience = s.audience ∧
      (errand.proceed s result).called = s.called := by
  cases errand with
  | submission observer => exact ⟨rfl, rfl⟩
  | opening call => cases result <;> exact ⟨rfl, rfl⟩
  | query call reply poll => exact ⟨rfl, rfl⟩

lemma clock_proceed (s : Session) (result : Except Failure CorrelationId) (errand : Errand) :
    (errand.proceed s result).clock = s.clock := by
  cases errand with
  | submission observer => rfl
  | opening call => cases result <;> rfl
  | query call reply poll => rfl

lemma Tidy.land {d : Desk σ} (h : Tidy d) (flight : Flight) : Tidy (d.land send flight) := by
  have hbooks := sameBooks_settle d.session flight.command.id
    ((send flight.command.encode).run d.world).1
  have hfewer := (pending_settle d.session flight.command.id
    ((send flight.command.encode).run d.world).1).1
  unfold Desk.land
  constructor
  · exact numbered_proceed (hbooks.numbered h.numbered) _ _
  · rw [(audience_proceed _ _ _).1, hbooks.audience]
    exact h.members
  · rw [(audience_proceed _ _ _).2, hbooks.called, (pending_proceed _ _ _).1]
    intro id entry n hget
    exact h.requester id entry n (hfewer.entry id entry hget)
  · rw [(pending_proceed _ _ _).1]
    exact wound_settle h.wound _ _

lemma Tidy.finish {d : Desk σ} (h : Tidy d) (call : Call) (result : CallResult) :
    Tidy { d with session := d.session.finish call result } :=
  ⟨(finish_resumed _ _ _).numbered h.numbered, h.members, h.requester, h.wound⟩

lemma Tidy.opened {d : Desk σ} (h : Tidy d) (purpose : Purpose) :
    Tidy { d with session := opened d.session purpose } := by
  refine ⟨numbered_opened h.numbered purpose, h.members, ?_, h.wound⟩
  intro id entry n hget hentry
  exact Nat.le_succ_of_le (h.requester id entry n hget hentry)

lemma Turn.tidy {d e : Desk σ} (hturn : Turn send d e) (h : Tidy d) (horderly : Orderly d) :
    Tidy e := by
  cases hturn.deed with
  | aside haside =>
    apply haside.toSameCalls.tidy h
    · rw [haside.pending]
      exact .rfl
    · rw [haside.pending]
      exact h.wound
  | answer time bytes id event hreply hends =>
    apply hends.toSameCalls.tidy h
    · rw [hends.pending]
      exact hends.takesOut.fewer
    · rw [hends.pending]
      exact h.wound.resolve id event
  | ring alarm hset hends =>
    apply hends.toSameCalls.tidy h
    · rw [hends.pending]
      exact hends.takesOut.fewer
    · rw [hends.pending]
      exact h.wound.ring hset
  | launch request errand hfree hopens hasks =>
    apply h.launch horderly.not_contains
    intro n hrequester
    cases errand with
    | submission observer => cases observer <;> cases hrequester
    | opening call => exact absurd rfl (hopens call)
    | query call reply poll => cases hrequester
  | call purpose hfree =>
    apply (h.opened purpose).launch horderly.not_contains
    intro n hrequester
    cases hrequester
    exact Nat.le_refl _
  | land flight hflight => exact h.land flight
  | finish call result hcall => exact h.finish call result

lemma Turns.tidy {timing : Timing} {world : σ} {d : Desk σ}
    (h : Turns send (.start timing world) d) (hbound : IdsSuffice d.log) :
    Tidy d := by
  induction h with
  | refl => exact tidy_start timing world
  | tail hturns hturn ih =>
    have hearlier : IdsSuffice _ := hbound.of_prefix hturn.log_prefix
    exact hturn.tidy (ih hearlier) (Turns.orderly hturns hearlier)

end HubBridge.Proofs
