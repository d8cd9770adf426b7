import HubBridge.Proofs.Verdicts

/-!
# Where a call stands

A call waits for the end of one command. `Standing` follows it from the turn in which it begins: after
every turn the table, the slot of the call and its stage agree with what the log tells of the command.
Each kind of turn has its lemma, `Standing.turn` puts them together, and `Standing.turns` is the run.
-/

namespace HubBridge.Proofs

/-- What a call was given when it began. -/
structure Asked where
  purpose : Purpose
  number : Nat
  id : CorrelationId
  /-- When its alarm rings. -/
  deadline : Nat

namespace Asked

def moduleId (a : Asked) : ModuleId := a.purpose.request.moduleId

def command (a : Asked) : Command := a.purpose.request.toCommand a.id

def call (a : Asked) (stage : CallStage) : Call := ⟨a.number, a.purpose, stage⟩

variable {σ : Type} {send : Link (StateM σ)}

def ofDesk (d : Desk σ) (purpose : Purpose) : Asked :=
  ⟨purpose, d.session.called + 1, d.session.nextId, d.session.clock + d.session.timing.replyTimeout⟩

/-- What the table and the slot of the call hold before and after its entry has ended, and what
stage the call is in. -/
inductive Stands (a : Asked) (d : Desk σ) (later : List Occurrence) : CallStage → Prop
  | unheard (alarm : Nat) (hends : ending? a.moduleId a.id later = none)
      (hentry : d.session.pending.get? a.id =
        some ⟨a.command, .call a.number, a.deadline, alarm⟩)
      (hslot : d.session.sinks.get? (.call a.number) = some .oneShot)
      (hkept : ∀ cause, passage a.id later ≠ some (some cause)) : Stands a d later .awaiting
  | told (outcome : Outcome) (hends : ending? a.moduleId a.id later = some outcome)
      (hgone : d.session.pending.get? a.id = none)
      (hslot : d.session.sinks.get? (.call a.number) = some (.reply true (.answered outcome)))
      (hkept : ∀ cause, passage a.id later ≠ some (some cause)) : Stands a d later .awaiting
  | learned (outcome : Outcome) {stage : CallStage} (hsent : passage a.id later = some none)
      (hends : ending? a.moduleId a.id later = some outcome)
      (hgone : d.session.pending.get? a.id = none)
      (hlearned : Learned a.purpose outcome stage) : Stands a d later stage
  | lost (cause : String) (hlost : passage a.id later = some (some cause))
      (hgone : d.session.pending.get? a.id = none) :
      Stands a d later (.finished (a.purpose.result (.error (.transport cause))))

/-- The call is not at its end, and polls or is about to poll for the reply that it has learned of. -/
structure Inquires (a : Asked) (later : List Occurrence) (stage : CallStage) (reply : Reply)
    (poll : Poll) : Prop where
  goesOn : ∀ result, stage ≠ .finished result
  sent : passage a.id later = some none
  follows : ∃ outcome first, ending? a.moduleId a.id later = some outcome ∧
    inquiry a.purpose outcome = some (reply, first) ∧ ∃ attempts, poll = { first with attempts }

/-- The command on its way out is not that of the call. If it is a query of the call's poll, the call
has learned of the reply which the poll follows. -/
structure Foreign (a : Asked) (later : List Occurrence) (stage : CallStage) (flight : Flight) :
    Prop where
  id : flight.command.id ≠ a.id
  opening : ∀ call, flight.errand = .opening call → call.number ≠ a.number
  query : ∀ call reply poll, flight.errand = .query call reply poll → call.number = a.number →
    call = a.call stage ∧ a.Inquires later stage reply poll

structure Standing (a : Asked) (d : Desk σ) (later : List Occurrence) (stage : CallStage) :
    Prop where
  call : a.call stage ∈ d.session.calls
  stands : a.Stands d later stage
  number_le : a.number ≤ d.session.called
  requester : ∀ id entry, d.session.pending.get? id = some entry →
    entry.requester = .call a.number → id = a.id
  /-- No alarm but its own rings for the call. -/
  alarm : ∀ x ∈ d.session.pending.alarms, x.id = a.id → x.due = a.deadline
  rang : ∀ x, .rang x ∈ later → x.id = a.id → x.due = a.deadline
  flying : passage a.id later = none →
    d.flight = some ⟨a.command, .opening (a.call .awaiting)⟩
  flown : passage a.id later ≠ none → ∀ flight, d.flight = some flight →
    a.Foreign later stage flight

/-! ### Turns that pass a call by -/

variable {a : Asked} {d e : Desk σ} {later : List Occurrence} {stage : CallStage}

lemma Stands.same {later' : List Occurrence} (h : a.Stands d later stage)
    (hget : e.session.pending.get? a.id = d.session.pending.get? a.id)
    (hslot : e.session.sinks.get? (.call a.number) = d.session.sinks.get? (.call a.number))
    (hpassage : passage a.id later' = passage a.id later)
    (hends : ending? a.moduleId a.id later' = ending? a.moduleId a.id later) :
    a.Stands e later' stage := by
  cases h with
  | unheard alarm hnone hentry hempty hkept =>
    rw [← hget] at hentry
    rw [← hslot] at hempty
    rw [← hends] at hnone
    rw [← hpassage] at hkept
    exact .unheard alarm hnone hentry hempty hkept
  | told outcome hsome hgone hfull hkept =>
    rw [← hget] at hgone
    rw [← hslot] at hfull
    rw [← hends] at hsome
    rw [← hpassage] at hkept
    exact .told outcome hsome hgone hfull hkept
  | learned outcome hsent hsome hgone hlearned =>
    rw [← hget] at hgone
    rw [← hends] at hsome
    rw [← hpassage] at hsent
    exact .learned outcome hsent hsome hgone hlearned
  | lost cause hlost hgone =>
    rw [← hget] at hgone
    rw [← hpassage] at hlost
    exact .lost cause hlost hgone

/-- What occurred tells nothing new of the call. -/
structure Unmoved (a : Asked) (later more : List Occurrence) : Prop where
  passage : passage a.id (later ++ more) = passage a.id later
  ends : ending? a.moduleId a.id (later ++ more) = ending? a.moduleId a.id later
  rang : ∀ x, .rang x ∈ later ++ more → x.id = a.id → .rang x ∈ later

lemma unmoved_of_silent (a : Asked) (later : List Occurrence) {more : List Occurrence}
    (h : ∀ x ∈ more, Silent x) : a.Unmoved later more where
  passage := by rw [passage_append, passage_of_silent h, Option.or_none]
  ends := by rw [ending?_append, ending?_of_silent h, Option.or_none]
  rang x hx _ := by
    rcases List.mem_append.mp hx with hx | hx
    · exact hx
    · exact (h _ hx).elim

lemma Inquires.append {reply : Reply} {poll : Poll} (h : a.Inquires later stage reply poll)
    (more : List Occurrence) :
    a.Inquires (later ++ more) stage reply poll := by
  obtain ⟨outcome, first, hending, hinquiry, hpoll⟩ := h.follows
  refine ⟨h.goesOn, ?_, outcome, first, ?_, hinquiry, hpoll⟩
  · rw [passage_append, h.sent, Option.some_or]
  · rw [ending?_append, hending, Option.some_or]

lemma Foreign.append {flight : Flight} (h : a.Foreign later stage flight) (more : List Occurrence) :
    a.Foreign (later ++ more) stage flight := by
  refine ⟨h.id, h.opening, ?_⟩
  intro call reply poll herrand hnumber
  obtain ⟨hcall, hinquires⟩ := h.query call reply poll herrand hnumber
  exact ⟨hcall, hinquires.append more⟩

/-- A turn that leaves the call, its entry and its slot as they are. -/
lemma Standing.same {more : List Occurrence} (h : a.Standing d later stage)
    (hsame : a.Unmoved later more) (hcall : a.call stage ∈ e.session.calls)
    (hget : e.session.pending.get? a.id = d.session.pending.get? a.id)
    (hslot : e.session.sinks.get? (.call a.number) = d.session.sinks.get? (.call a.number))
    (hcalled : d.session.called ≤ e.session.called)
    (hrequester : ∀ id entry, e.session.pending.get? id = some entry →
      entry.requester = .call a.number → d.session.pending.get? id = some entry)
    (halarm : ∀ x ∈ e.session.pending.alarms, x.id = a.id → x ∈ d.session.pending.alarms)
    (hflying : passage a.id later = none → e.flight = d.flight)
    (hflown : passage a.id later ≠ none → ∀ flight, e.flight = some flight →
      d.flight = some flight ∨ a.Foreign (later ++ more) stage flight) :
    a.Standing e (later ++ more) stage where
  call := hcall
  stands := h.stands.same hget hslot hsame.passage hsame.ends
  number_le := Nat.le_trans h.number_le hcalled
  requester id entry he hcaller := h.requester id entry (hrequester id entry he hcaller) hcaller
  alarm x hx hid := h.alarm x (halarm x hx hid) hid
  rang x hx hid := h.rang x (hsame.rang x hx hid) hid
  flying hnone := by
    rw [hsame.passage] at hnone
    rw [hflying hnone]
    exact h.flying hnone
  flown hsome flight hflight := by
    rw [hsame.passage] at hsome
    rcases hflown hsome flight hflight with hold | hnew
    · exact (h.flown hsome flight hold).append more
    · exact hnew

lemma Standing.aside (h : a.Standing d later stage) (ht : Tidy d) (haside : Aside d e) :
    ∃ more, e.log = d.log ++ more ∧ a.Standing e (later ++ more) stage := by
  obtain ⟨more, hlog, hsilent⟩ := haside.log
  refine ⟨more, hlog, h.same (unmoved_of_silent a later hsilent) ?_ ?_ ?_ ?_ ?_ ?_ ?_ ?_⟩
  · rw [haside.calls]
    exact h.call
  · rw [haside.pending]
  · exact haside.slot a.number fun member hm => ht.members member hm a.number
  · rw [haside.called]
  · intro id entry hget _
    rwa [haside.pending] at hget
  · intro x hx _
    rwa [haside.pending] at hx
  · intro _
    exact haside.flight
  · intro _ flight hflight
    rw [haside.flight] at hflight
    exact .inl hflight

/-! ### Replies and alarms -/

lemma deliver_oneShot {e : Event} {outcome : Outcome} (h : e.outcome? = some outcome) :
    (Sink.oneShot.deliver e).1 = .reply true (.answered outcome) := by
  unfold Sink.oneShot Sink.deliver
  rw [h]
  rfl

/-- What occurred ends the command of the call if it ended an entry of its id, and tells it nothing
if not. -/
structure Tells (a : Asked) (id : CorrelationId) (event : PendingCommand Party → Event)
    (x : Occurrence) : Prop where
  passage : passage a.id [x] = none
  other : id ≠ a.id → ending? a.moduleId a.id [x] = none
  own : id = a.id → ∃ outcome, ending? a.moduleId a.id [x] = some outcome ∧
    ∀ entry, entry.command = a.command → (event entry).outcome? = some outcome

lemma Stands.ends {id : CorrelationId} {event : PendingCommand Party → Event}
    {result : Pending Party × Option (Delivery Party)} {x : Occurrence} (h : a.Stands d later stage)
    (hends : Ends d e id event result x) (htells : a.Tells id event x)
    (hmembers : ∀ member ∈ d.session.audience.members, member.2 ≠ .call a.number)
    (hrequester : ∀ other entry, d.session.pending.get? other = some entry →
      entry.requester = .call a.number → other = a.id) :
    a.Stands e (later ++ [x]) stage := by
  have hpassage : passage a.id (later ++ [x]) = passage a.id later := by
    rw [passage_append, htells.passage, Option.or_none]
  have hlater : ∀ outcome, ending? a.moduleId a.id later = some outcome →
      ending? a.moduleId a.id (later ++ [x]) = some outcome := by
    intro outcome hsome
    rw [ending?_append, hsome, Option.some_or]
  have hgone : d.session.pending.get? a.id = none → e.session.pending.get? a.id = none := by
    intro hnone
    rw [hends.get?, hnone, ite_self]
  -- An entry of the call could only be taken out under its own id.
  have hslot : d.session.pending.get? a.id = none ∨ id ≠ a.id →
      e.session.sinks.get? (.call a.number) = d.session.sinks.get? (.call a.number) := by
    intro hcase
    apply hends.slot_same hmembers
    intro entry hget hcaller
    have hid := hrequester id entry hget hcaller
    rcases hcase with hnone | hne
    · rw [← hid, hget] at hnone
      cases hnone
    · exact hne hid
  cases h with
  | unheard alarm hnone hentry hempty hkept =>
    by_cases hid : id = a.id
    · obtain ⟨outcome, hending, htold⟩ := htells.own hid
      subst hid
      refine .told outcome ?_ ?_ ?_ (hpassage ▸ hkept)
      · rw [ending?_append, hnone, hending, Option.none_or]
      · rw [hends.get?, if_pos rfl]
      · rw [hends.slot_told hmembers hentry rfl, hempty, Option.map_some,
          deliver_oneShot (htold _ rfl)]
    · refine .unheard alarm ?_ ?_ ?_ (hpassage ▸ hkept)
      · rw [ending?_append, hnone, htells.other hid, Option.none_or]
      · rw [hends.get?, if_neg (Ne.symm hid)]
        exact hentry
      · rw [hslot (.inr hid)]
        exact hempty
  | told outcome hsome hnone hfull hkept =>
    refine .told outcome (hlater outcome hsome) (hgone hnone) ?_ (hpassage ▸ hkept)
    rw [hslot (.inl hnone)]
    exact hfull
  | learned outcome hsent hsome hnone hlearned =>
    exact .learned outcome (hpassage ▸ hsent) (hlater outcome hsome) (hgone hnone) hlearned
  | lost cause hlost hnone => exact .lost cause (hpassage ▸ hlost) (hgone hnone)

lemma Standing.ends {id : CorrelationId} {event : PendingCommand Party → Event}
    {result : Pending Party × Option (Delivery Party)} {x : Occurrence}
    (h : a.Standing d later stage) (ht : Tidy d) (hends : Ends d e id event result x)
    (htells : a.Tells id event x)
    (hrang : ∀ alarm, x = .rang alarm → alarm ∈ d.session.pending.alarms) :
    a.Standing e (later ++ [x]) stage := by
  have hpassage : passage a.id (later ++ [x]) = passage a.id later := by
    rw [passage_append, htells.passage, Option.or_none]
  refine ⟨?_, ?_, ?_, ?_, ?_, ?_, ?_, ?_⟩
  · rw [hends.calls]
    exact h.call
  · apply h.stands.ends hends htells
    · intro member hm
      exact ht.members member hm a.number
    · exact h.requester
  · rw [hends.called]
    exact h.number_le
  · intro other entry hget hcaller
    rw [hends.get?] at hget
    split at hget
    · cases hget
    · exact h.requester other entry hget hcaller
  · intro y hy hid
    rw [hends.pending] at hy
    exact h.alarm y (hends.takesOut.alarms y hy) hid
  · intro y hy hid
    rcases List.mem_append.mp hy with hy | hy
    · exact h.rang y hy hid
    · exact h.alarm y (hrang y (List.mem_singleton.mp hy).symm) hid
  · intro hnone
    rw [hpassage] at hnone
    rw [hends.flight]
    exact h.flying hnone
  · intro hsome flight hflight
    rw [hpassage] at hsome
    rw [hends.flight] at hflight
    exact (h.flown hsome flight hflight).append [x]

lemma tells_reply (a : Asked) (time : Int) {bytes : ByteArray} {id : CorrelationId} {event : Event}
    (hreply : replyEvent (.ofDatagram bytes) = some (id, event)) :
    a.Tells id (fun _ => event) (.heard time bytes) := by
  have hending : ending? a.moduleId a.id [.heard time bytes] =
      if id = a.id then event.outcome? else none := by
    rw [ending?, List.findSome?_singleton, endingOf?, answer_eq, hreply, Option.bind_some]
  refine ⟨rfl, ?_, ?_⟩
  · intro hne
    rw [hending, if_neg hne]
  · intro hid
    rw [hending, if_pos hid]
    generalize Message.ofDatagram bytes = message at hreply
    cases message with
    | feedback m other target rawAction raw =>
      cases hreply
      exact ⟨_, rfl, fun _ _ => rfl⟩
    | event m target rawEvent raw => cases hreply
    | heartbeat m raw => cases hreply
    | hello m raw => cases hreply
    | raw raw => cases hreply

lemma tells_alarm (a : Asked) (alarm : Alarm) :
    a.Tells alarm.id (expiryOf alarm.id) (.rang alarm) := by
  refine ⟨rfl, ?_, ?_⟩
  · intro hne
    rw [ending?, List.findSome?_singleton, endingOf?, if_neg hne]
  · intro hid
    refine ⟨.error (.timeout a.moduleId a.id), ?_, ?_⟩
    · rw [ending?, List.findSome?_singleton, endingOf?, if_pos hid]
    · intro entry hcommand
      unfold expiryOf
      rw [hcommand, hid]
      rfl

/-! ### Commands that are launched -/

lemma Standing.launch (h : a.Standing d later stage) (horderly : Orderly d)
    (hid : a.id ≠ d.session.nextId) (hfree : d.flight = none) (request : Request) (errand : Errand)
    (hrequester : errand.requester ≠ some (.call a.number))
    (hopening : ∀ call, errand = .opening call → call.number ≠ a.number)
    (hquery : ∀ call reply poll, errand = .query call reply poll → call.number = a.number →
      call = a.call stage ∧ a.Inquires later stage reply poll) :
    a.Standing (d.launch request errand)
      (later ++ [.issued (request.toCommand d.session.nextId)]) stage := by
  have hsilent : ∀ x ∈ [Occurrence.issued (request.toCommand d.session.nextId)], Silent x := by
    intro x hx
    rw [List.mem_singleton.mp hx]
    trivial
  have hsame := unmoved_of_silent a later hsilent
  have hflying : passage a.id later ≠ none := by
    intro hnone
    rw [h.flying hnone] at hfree
    cases hfree
  rw [Desk.launch_eq horderly.not_contains]
  refine h.same hsame h.call ?_ rfl (Nat.le_refl _) ?_ ?_ ?_ ?_
  · exact (get?_enrolled_free horderly.free _ _ _ _ _).trans (if_neg hid)
  · intro other entry hget hcaller
    rw [get?_enrolled_free horderly.free] at hget
    split at hget
    · obtain ⟨party, hparty, rfl⟩ := Option.map_eq_some_iff.mp hget
      obtain rfl : party = .call a.number := hcaller
      exact absurd hparty hrequester
    · exact hget
  · intro x hx hxid
    rcases mem_alarms_enrolled hx with hx | rfl
    · exact hx
    · exact absurd hxid.symm hid
  · intro hnone
    exact absurd hnone hflying
  · intro _ flight hflight
    cases hflight
    refine .inr ⟨Ne.symm hid, hopening, ?_⟩
    intro call reply poll herrand hnumber
    obtain ⟨hcall, hinquires⟩ := hquery call reply poll herrand hnumber
    exact ⟨hcall, hinquires.append _⟩

lemma unmoved_nil (a : Asked) (later : List Occurrence) : a.Unmoved later [] :=
  unmoved_of_silent a later fun _ hx => nomatch hx

lemma Stands.gone (h : a.Stands d later stage) {outcome : Outcome}
    (hends : ending? a.moduleId a.id later = some outcome) :
    d.session.pending.get? a.id = none := by
  cases h with
  | unheard alarm hnone hentry hempty hkept =>
    rw [hends] at hnone
    cases hnone
  | told outcome hsome hgone hfull hkept => exact hgone
  | learned outcome hsent hsome hgone hlearned => exact hgone
  | lost cause hlost hgone => exact hgone

/-- What happens to other calls alone. -/
lemma Standing.besides (h : a.Standing d later stage) {s : Session} (hcall : a.call stage ∈ s.calls)
    (hpending : s.pending = d.session.pending)
    (hslot : s.sinks.get? (.call a.number) = d.session.sinks.get? (.call a.number))
    (hcalled : d.session.called ≤ s.called) : a.Standing { d with session := s } later stage := by
  have hbesides := h.same (e := { d with session := s }) (unmoved_nil a later) hcall
    (by rw [hpending]) hslot hcalled (fun _ _ hget _ => hpending ▸ hget)
    (fun _ hx _ => hpending ▸ hx) (fun _ => rfl) (fun _ _ hflight => .inl hflight)
  rwa [List.append_nil] at hbesides

/-- Another call begins. -/
lemma Standing.join (h : a.Standing d later stage) (purpose : Purpose) :
    a.Standing { d with session := opened d.session purpose } later stage := by
  have hnumber : Party.call (d.session.called + 1) ≠ .call a.number := by
    intro heq
    have hle := h.number_le
    have hsame := Party.call.inj heq
    omega
  exact h.besides (List.mem_append_left _ h.call) rfl (Sinks.get?_insert_of_ne _ hnumber _)
    (Nat.le_succ _)

/-- Another call ends. -/
lemma Standing.finish_other (h : a.Standing d later stage) {call : Call}
    (hne : call.number ≠ a.number) (result : CallResult) :
    a.Standing { d with session := d.session.finish call result } later stage := by
  have hkey : Party.call call.number ≠ .call a.number := fun heq => hne (Party.call.inj heq)
  exact h.besides (setCall_keeps h.call (Ne.symm hne)) rfl (Sinks.get?_erase_of_ne _ hkey)
    (Nat.le_refl _)

/-- The call itself goes on to what it should make of its outcome. -/
lemma Standing.goOn {stage' : CallStage} (h : a.Standing d later stage)
    (hbusy : ∀ flight, d.flight = some flight → flight.errand.caller ≠ some a.number)
    {outcome : Outcome} (hsent : passage a.id later = some none)
    (hends : ending? a.moduleId a.id later = some outcome)
    (hlearned : Learned a.purpose outcome stage') {s : Session} (hcall : a.call stage' ∈ s.calls)
    (hpending : s.pending = d.session.pending) (hcalled : s.called = d.session.called) :
    a.Standing { d with session := s } later stage' := by
  have hout : passage a.id later ≠ none := by
    rw [hsent]
    exact Option.some_ne_none _
  refine ⟨hcall, ?_, ?_, ?_, ?_, h.rang, fun hnone => absurd hnone hout, ?_⟩
  · apply Stands.learned outcome hsent hends _ hlearned
    rw [hpending]
    exact h.stands.gone hends
  · exact hcalled ▸ h.number_le
  · rw [hpending]
    exact h.requester
  · rw [hpending]
    exact h.alarm
  · intro _ flight hflight
    have hforeign := h.flown hout flight hflight
    refine ⟨hforeign.id, hforeign.opening, ?_⟩
    intro call reply poll herrand hnumber
    apply absurd _ (hbusy flight hflight)
    rw [herrand, ← hnumber]
    rfl

/-! ### Commands that land -/

lemma mem_setCall_self {s : Session} {call x : Call} (hx : x ∈ s.calls)
    (hn : x.number = call.number) : call ∈ (s.setCall call).calls :=
  List.mem_map.mpr ⟨x, hx, if_pos hn⟩

lemma passage_sent (id : CorrelationId) (command : Command) (cause : Option String) :
    passage id [.sent command cause] = if command.id = id then some cause else none :=
  List.findSome?_singleton

/-- The command of the call is out. -/
lemma Standing.sent (h : a.Standing d later stage) (hout : passage a.id later = none) (w : σ)
    (log : List Occurrence) :
    a.Standing ⟨d.session, w, none, log⟩ (later ++ [.sent a.command none]) stage := by
  have hpassage : passage a.id (later ++ [.sent a.command none]) = some none := by
    rw [passage_append, hout, Option.none_or, passage_sent]
    exact if_pos rfl
  have hending : ending? a.moduleId a.id (later ++ [.sent a.command none]) =
      ending? a.moduleId a.id later := by
    rw [ending?_append]
    exact Option.or_none
  have hkept : ∀ cause, passage a.id (later ++ [.sent a.command none]) ≠ some (some cause) := by
    rw [hpassage]
    intro cause hcause
    cases hcause
  refine ⟨h.call, ?_, h.number_le, h.requester, h.alarm, ?_, ?_, ?_⟩
  · cases h.stands with
    | unheard alarm hnone hentry hempty _ =>
      exact .unheard alarm (hending.trans hnone) hentry hempty hkept
    | told outcome hsome hgone hfull _ =>
      exact .told outcome (hending.trans hsome) hgone hfull hkept
    | learned outcome hsent hsome hgone hlearned =>
      exact .learned outcome hpassage (hending.trans hsome) hgone hlearned
    | lost cause hlost hgone =>
      rw [hout] at hlost
      cases hlost
  · intro x hx hid
    rcases List.mem_append.mp hx with hx | hx
    · exact h.rang x hx hid
    · cases List.mem_singleton.mp hx
  · intro hnone
    rw [hpassage] at hnone
    cases hnone
  · intro _ flight hflight
    cases hflight

/-- The command of the call was lost, and its entry with it: the call ends with that. -/
lemma Standing.lost (h : a.Standing d later .awaiting) (hout : passage a.id later = none) (w : σ)
    (log : List Occurrence) (cause : String) {s : Session} (hbooks : SameBooks d.session s)
    (hgone : s.pending.get? a.id = none) (hfewer : Fewer d.session.pending s.pending) :
    let result := a.purpose.result (.error (.transport cause))
    a.Standing ⟨s.finish (a.call .awaiting) result, w, none, log⟩
      (later ++ [.sent a.command (some cause)]) (.finished result) := by
  have hpassage : passage a.id (later ++ [.sent a.command (some cause)]) = some (some cause) := by
    rw [passage_append, hout, Option.none_or, passage_sent]
    exact if_pos rfl
  refine ⟨?_, .lost cause hpassage hgone, ?_, ?_, ?_, ?_, ?_, ?_⟩
  · have hcall := h.call
    rw [← hbooks.calls] at hcall
    exact mem_setCall_self hcall rfl
  · exact hbooks.called ▸ h.number_le
  · intro id entry hget
    exact h.requester id entry (hfewer.entry id entry hget)
  · intro x hx
    exact h.alarm x (hfewer.alarm x hx)
  · intro x hx hid
    rcases List.mem_append.mp hx with hx | hx
    · exact h.rang x hx hid
    · cases List.mem_singleton.mp hx
  · intro hnone
    rw [hpassage] at hnone
    cases hnone
  · intro _ flight hflight
    cases hflight

lemma Stands.awaits (h : a.Stands d later stage) (hout : passage a.id later = none) :
    stage = .awaiting := by
  cases h with
  | unheard alarm hnone hentry hempty hkept => rfl
  | told outcome hsome hgone hfull hkept => rfl
  | learned outcome hsent hsome hgone hlearned =>
    rw [hout] at hsent
    cases hsent
  | lost cause hlost hgone =>
    rw [hout] at hlost
    cases hlost

variable (send) in
lemma Standing.land_own (h : a.Standing d later stage) (hout : passage a.id later = none) :
    ∃ stage', stage = .awaiting ∧
      a.Standing (d.land send ⟨a.command, .opening (a.call .awaiting)⟩)
        (later ++ [.sent a.command ((send a.command.encode).run d.world).1]) stage' := by
  obtain rfl := h.stands.awaits hout
  unfold Desk.land
  dsimp only
  rcases (send a.command.encode).run d.world with ⟨cause | cause, w⟩
  · exact ⟨_, rfl, h.sent hout w _⟩
  · have hfail := fail_takesOut d.session.pending a.command.id (Failure.transport cause).message
    refine ⟨_, rfl, h.lost hout w _ cause (sameBooks_settle _ _ (some cause)) ?_ ?_⟩
    · rw [settle_lost, hfail.get?]
      exact if_pos rfl
    · rw [settle_lost]
      exact hfail.fewer

/-- Another command is sent or lost, which the call does not notice. -/
lemma Standing.settle (h : a.Standing d later stage) (hout : passage a.id later ≠ none)
    {command : Command} (hid : command.id ≠ a.id) (cause : Option String) (w : σ)
    (log : List Occurrence) :
    a.Standing ⟨(d.session.settle command.id cause).1, w, none, log⟩
      (later ++ [.sent command cause]) stage := by
  have hbooks := sameBooks_settle d.session command.id cause
  have hfewer := (pending_settle d.session command.id cause).1
  have hget : (d.session.settle command.id cause).1.pending.get? a.id =
      d.session.pending.get? a.id := by
    cases cause with
    | none => rfl
    | some cause =>
      rw [settle_lost, (fail_takesOut _ _ _).get?]
      exact if_neg (Ne.symm hid)
  have hslot : (d.session.settle command.id cause).1.sinks.get? (.call a.number) =
      d.session.sinks.get? (.call a.number) := by
    cases cause with
    | none => rfl
    | some cause =>
      rw [settle_lost]
      apply (fail_takesOut _ _ _).slot_same
      intro entry hentry hcaller
      exact hid (h.requester command.id entry hentry hcaller)
  have hsame : a.Unmoved later [.sent command cause] := by
    refine ⟨?_, ?_, ?_⟩
    · rw [passage_append, passage_sent, if_neg hid, Option.or_none]
    · rw [ending?_append]
      exact Option.or_none
    · intro x hx _
      rcases List.mem_append.mp hx with hx | hx
      · exact hx
      · cases List.mem_singleton.mp hx
  refine h.same hsame (hbooks.calls ▸ h.call) hget hslot (Nat.le_of_eq hbooks.called.symm) ?_ ?_ ?_ ?_
  · intro id entry hentry _
    exact hfewer.entry id entry hentry
  · intro x hx _
    exact hfewer.alarm x hx
  · intro hnone
    exact absurd hnone hout
  · intro _ flight hflight
    cases hflight

/-- The call that sent a command goes on, which moves the call in question only if it polls. -/
lemma Standing.proceed (h : a.Standing d later stage) (hfree : d.flight = none)
    (result : Except Failure CorrelationId) {errand : Errand}
    (hopening : ∀ call, errand = .opening call → call.number ≠ a.number)
    (hquery : ∀ call reply poll, errand = .query call reply poll → call.number = a.number →
      call = a.call stage ∧ a.Inquires later stage reply poll) :
    ∃ stage', a.Standing { d with session := errand.proceed d.session result } later stage' ∧
      ∀ result, stage = .finished result → stage' = stage := by
  cases errand with
  | submission observer => exact ⟨stage, h, fun _ _ => rfl⟩
  | opening call =>
    cases result with
    | ok id => exact ⟨stage, h, fun _ _ => rfl⟩
    | error failure => exact ⟨stage, h.finish_other (hopening call rfl) _, fun _ _ => rfl⟩
  | query call reply poll =>
    by_cases hnumber : call.number = a.number
    · obtain ⟨rfl, hinquires⟩ := hquery call reply poll rfl hnumber
      obtain ⟨outcome, first, hends, hinquiry, attempts, rfl⟩ := hinquires.follows
      have hbusy : ∀ flight, d.flight = some flight → flight.errand.caller ≠ some a.number := by
        intro flight hflight
        rw [hfree] at hflight
        cases hflight
      have hlearned : Learned a.purpose outcome (.polling reply
          (Poll.queried { first with attempts }) (d.session.clock + d.session.timing.poll.wait)) := by
        unfold Learned
        rw [hinquiry]
        exact .inl ⟨_, _, rfl⟩
      refine ⟨_, h.goOn hbusy hinquires.sent hends hlearned (mem_setCall_self h.call rfl) rfl rfl, ?_⟩
      intro result hfinished
      exact absurd hfinished (hinquires.goesOn result)
    · exact ⟨stage, h.besides (setCall_keeps h.call (Ne.symm hnumber)) rfl rfl (Nat.le_refl _),
        fun _ _ => rfl⟩

variable (send) in
/-- A command lands. -/
lemma Standing.land (h : a.Standing d later stage) {flight : Flight}
    (hflight : d.flight = some flight) :
    ∃ stage', a.Standing (d.land send flight)
        (later ++ [.sent flight.command ((send flight.command.encode).run d.world).1]) stage' ∧
      ∀ result, stage = .finished result → stage' = stage := by
  by_cases hout : passage a.id later = none
  · have hown := h.flying hout
    rw [hflight, Option.some_inj] at hown
    subst hown
    obtain ⟨stage', rfl, hlanded⟩ := h.land_own send hout
    exact ⟨stage', hlanded, fun _ hfinished => nomatch hfinished⟩
  · have hforeign := (h.flown hout flight hflight).append
      [.sent flight.command ((send flight.command.encode).run d.world).1]
    have hsettled := h.settle hout hforeign.id ((send flight.command.encode).run d.world).1
      ((send flight.command.encode).run d.world).2
      (d.log ++ [.sent flight.command ((send flight.command.encode).run d.world).1])
    exact hsettled.proceed rfl _ hforeign.opening hforeign.query

/-! ### Calls that end -/

lemma outcomeAt_of_stands (h : a.Stands d later stage) (hawaits : stage = .awaiting)
    {outcome : Outcome} (hfound : outcomeAt d a.number = some outcome) :
    ending? a.moduleId a.id later = some outcome := by
  cases h with
  | unheard alarm hnone hentry hempty hkept =>
    rw [outcomeAt, hempty] at hfound
    cases hfound
  | told outcome' hsome hgone hfull hkept =>
    rw [outcomeAt, hfull] at hfound
    cases hfound
    exact hsome
  | learned outcome' hsent hsome hgone hlearned =>
    subst hawaits
    unfold Learned at hlearned
    split at hlearned
    · cases hlearned
    · rcases hlearned with ⟨_, _, h⟩ | ⟨_, h⟩ <;> cases h
  | lost cause hlost hgone => cases hawaits

lemma passage_of_idle (h : a.Standing d later stage) (hbusy : ¬d.Busy (a.call stage))
    (hgoesOn : ∀ result, stage ≠ .finished result) : passage a.id later = some none := by
  cases hpassage : passage a.id later with
  | none => exact absurd ⟨_, h.flying hpassage, rfl⟩ hbusy
  | some cause =>
    cases cause with
    | none => rfl
    | some cause =>
      cases h.stands with
      | unheard alarm hnone hentry hempty hkept => exact absurd hpassage (hkept cause)
      | told outcome hsome hgone hfull hkept => exact absurd hpassage (hkept cause)
      | learned outcome hsent hsome hgone hlearned =>
        rw [hpassage] at hsent
        cases hsent
      | lost cause' hlost hgone => exact absurd rfl (hgoesOn _)

lemma inquires_of_polling {reply : Reply} {poll : Poll} {wake : Nat}
    (h : a.Stands d later (.polling reply poll wake)) :
    a.Inquires later (.polling reply poll wake) reply poll := by
  cases h with
  | learned outcome hsent hsome hgone hlearned =>
    unfold Learned at hlearned
    split at hlearned
    · cases hlearned
    · rename_i reply' first hinquiry
      rcases hlearned with ⟨attempts, wake', heq⟩ | ⟨c, heq⟩
      · cases heq
        refine ⟨?_, hsent, outcome, first, hsome, hinquiry, attempts, rfl⟩
        intro result hstage
        cases hstage
      · cases heq

lemma eq_of_number (ht : Tidy d) {call : Call} (hcall : call ∈ d.session.calls)
    (hown : a.call stage ∈ d.session.calls) (hnumber : call.number = a.number) :
    call = a.call stage :=
  List.inj_on_of_nodup_map ht.numbered.nodup hcall hown hnumber

lemma Standing.inquires (h : a.Standing d later stage) (hfree : d.flight = none) {reply : Reply}
    {poll : Poll} (hasks : Asks d (a.call stage) reply poll) :
    a.Inquires later stage reply poll := by
  obtain ⟨-, ⟨hstage, outcome, hfound, hinquiry⟩ | ⟨wake, hstage⟩⟩ := hasks
  · obtain rfl : stage = .awaiting := hstage
    have hbusy : ¬d.Busy (a.call .awaiting) := by
      rintro ⟨flight, hflight, -⟩
      rw [hfree] at hflight
      cases hflight
    have hgoesOn : ∀ result, CallStage.awaiting ≠ .finished result := fun _ hstage => nomatch hstage
    exact ⟨hgoesOn, passage_of_idle h hbusy hgoesOn, outcome, poll,
      outcomeAt_of_stands h.stands rfl hfound, hinquiry, poll.attempts, rfl⟩
  · obtain rfl : stage = .polling reply poll wake := hstage
    exact inquires_of_polling h.stands

/-- The call ends with the outcome that it finds. -/
lemma Standing.learn (h : a.Standing d later .awaiting) (hidle : ¬d.Busy (a.call .awaiting))
    {outcome : Outcome} (hfound : outcomeAt d a.number = some outcome)
    (hinquiry : inquiry a.purpose outcome = none) :
    a.Standing { d with session := d.session.finish (a.call .awaiting) (a.purpose.result outcome) }
      later (.finished (a.purpose.result outcome)) := by
  have hsent := passage_of_idle h hidle fun _ hstage => nomatch hstage
  have hlearned : Learned a.purpose outcome (.finished (a.purpose.result outcome)) := by
    unfold Learned
    rw [hinquiry]
  exact h.goOn (fun flight hflight hcaller => hidle ⟨flight, hflight, hcaller⟩) hsent
    (outcomeAt_of_stands h.stands rfl hfound) hlearned (mem_setCall_self h.call rfl) rfl rfl

/-- A call ends. -/
lemma Standing.conclude (h : a.Standing d later stage) (ht : Tidy d) {call : Call}
    {result : CallResult} (hconcludes : Concludes d call result) :
    ∃ stage', a.Standing { d with session := d.session.finish call result } later stage' ∧
      ∀ result, stage = .finished result → stage' = stage := by
  obtain ⟨hcall, hbusy, hreason⟩ := hconcludes
  by_cases hnumber : call.number = a.number
  · obtain rfl := eq_of_number ht hcall h.call hnumber
    have hfree : ∀ flight, d.flight = some flight → flight.errand.caller ≠ some a.number :=
      fun flight hflight hcaller => hbusy ⟨flight, hflight, hcaller⟩
    have hfinished : a.call (.finished result) ∈ (d.session.finish (a.call stage) result).calls :=
      mem_setCall_self h.call rfl
    rcases hreason with ⟨hstage, outcome, hfound, hinquiry, rfl⟩ | ⟨reply, poll, wake, c, hstage, rfl⟩
    · obtain rfl : stage = .awaiting := hstage
      exact ⟨_, h.learn hbusy hfound hinquiry, fun _ hstage => nomatch hstage⟩
    · obtain rfl : stage = .polling reply poll wake := hstage
      have hinquires := inquires_of_polling h.stands
      obtain ⟨outcome, first, hends, hinquiry, attempts, hpoll⟩ := hinquires.follows
      have hlearned : Learned a.purpose outcome (.finished (.actuation (.ok ⟨reply, some c⟩))) := by
        unfold Learned
        rw [hinquiry]
        exact .inr ⟨c, rfl⟩
      exact ⟨_, h.goOn hfree hinquires.sent hends hlearned hfinished rfl rfl,
        fun _ hstage => nomatch hstage⟩
  · exact ⟨stage, h.finish_other hnumber result, fun _ _ => rfl⟩

/-! ### From turn to turn -/

theorem Standing.turn (h : a.Standing d later stage) (hturn : Turn send d e) (ht : Tidy d)
    (horderly : Orderly d) (hid : a.id ≠ d.session.nextId) :
    ∃ more stage', e.log = d.log ++ more ∧ a.Standing e (later ++ more) stage' ∧
      ∀ result, stage = .finished result → stage' = stage := by
  cases hturn.deed with
  | aside haside =>
    obtain ⟨more, hlog, hafter⟩ := h.aside ht haside
    exact ⟨more, stage, hlog, hafter, fun _ _ => rfl⟩
  | answer time bytes id event hreply hends =>
    have hafter := h.ends ht hends (tells_reply a time hreply) fun _ hx => nomatch hx
    exact ⟨_, stage, hends.log, hafter, fun _ _ => rfl⟩
  | ring alarm hset hends =>
    have hafter := h.ends ht hends (tells_alarm a alarm) fun _ hx => by cases hx; exact hset
    exact ⟨_, stage, hends.log, hafter, fun _ _ => rfl⟩
  | launch request errand hfree hopens hasks =>
    have hafter := h.launch horderly hid hfree request errand ?_ ?_ ?_
    · exact ⟨_, stage, Desk.launch_log _ _ _, hafter, fun _ _ => rfl⟩
    · cases errand with
      | submission observer => cases observer <;> simp [Errand.requester]
      | opening call => exact absurd rfl (hopens call)
      | query call reply poll => simp [Errand.requester]
    · intro call hopening
      exact absurd hopening (hopens call)
    · intro call reply poll herrand hnumber
      have hask := hasks call reply poll herrand
      obtain rfl := eq_of_number ht hask.1 h.call hnumber
      exact ⟨rfl, h.inquires hfree hask⟩
  | call purpose hfree =>
    have hnumber : d.session.called + 1 ≠ a.number := by
      have hle := h.number_le
      omega
    have hopened := horderly.opened purpose
    have hafter := (h.join purpose).launch hopened hid hfree purpose.request
      (.opening (begun d.session purpose)) ?_ ?_ ?_
    · exact ⟨_, stage, Desk.launch_log _ _ _, hafter, fun _ _ => rfl⟩
    · intro hrequester
      exact hnumber (Party.call.inj (Option.some.inj hrequester))
    · intro call hopening
      cases hopening
      exact hnumber
    · intro call reply poll herrand
      cases herrand
  | land flight hflight =>
    obtain ⟨stage', hafter, hstays⟩ := h.land send hflight
    exact ⟨_, stage', rfl, hafter, hstays⟩
  | finish call result hconcludes =>
    obtain ⟨stage', hafter, hstays⟩ := h.conclude ht hconcludes
    exact ⟨[], stage', (List.append_nil _).symm, (List.append_nil later).symm ▸ hafter, hstays⟩

/-- A call that has just begun waits, with its command on its way out. -/
lemma standing_ofDesk (ht : Tidy d) (horderly : Orderly d) (purpose : Purpose) :
    (ofDesk d purpose).Standing (d.call purpose) [] .awaiting := by
  have hopened := horderly.opened purpose
  have hget := get?_enrolled_free horderly.free d.session.clock d.session.timing.replyTimeout
    purpose.request (some (.call (d.session.called + 1)))
  have hlaunch := Desk.launch_eq hopened.not_contains purpose.request
    (.opening (begun d.session purpose))
  rw [Desk.call, hlaunch]
  refine ⟨?_, ?_, ?_, ?_, ?_, ?_, ?_, ?_⟩
  · exact List.mem_append_right _ (List.mem_singleton.mpr rfl)
  · refine .unheard d.session.pending.nextSerial rfl ?_ (Sinks.get?_insert_self _ _ _) ?_
    · exact (hget _).trans (if_pos rfl)
    · intro cause hcause
      cases hcause
  · exact Nat.le_refl _
  · intro id entry hentry hcaller
    have hfound := (hget id).symm.trans hentry
    split at hfound
    · assumption
    · have hle : d.session.called + 1 ≤ d.session.called :=
        ht.requester id entry _ hfound hcaller
      omega
  · intro x hx hid
    rcases mem_alarms_enrolled hx with hx | rfl
    · have hlt := horderly.alarm x hx
      rw [hid] at hlt
      exact absurd hlt (Nat.lt_irrefl _)
    · rfl
  · intro x hx
    cases hx
  · intro _
    rfl
  · intro hsome
    exact absurd rfl hsome

lemma ordinal_nextId_le {d x : Desk σ} (hd : Orderly d) (hx : Orderly x) (hlog : d.log <+: x.log) :
    ordinal d.session.nextId ≤ ordinal x.session.nextId := by
  rw [hd.next, hx.next]
  exact Nat.succ_le_succ (issued_length_le hlog)

/-- What holds of a call that has begun holds after all turns that follow. -/
theorem Standing.turns {timing : Timing} {world : σ} (h : a.Standing d later stage)
    (hstart : Turns send (.start timing world) d) (hturns : Turns send d e)
    (hbound : IdsSuffice e.log) (hid : ordinal a.id < ordinal d.session.nextId) :
    ∃ more stage', e.log = d.log ++ more ∧ a.Standing e (later ++ more) stage' ∧
      ∀ result, stage = .finished result → stage' = stage := by
  induction hturns with
  | refl =>
    refine ⟨[], stage, (List.append_nil _).symm, ?_, fun _ _ => rfl⟩
    rw [List.append_nil]
    exact h
  | @tail x y hturns hturn ih =>
    have hearlier : IdsSuffice x.log := hbound.of_prefix hturn.log_prefix
    have hbegan : IdsSuffice d.log := hearlier.of_prefix (Turns.log_prefix hturns)
    have hreached : Turns send (.start timing world) x := hstart.trans hturns
    have horderly : Orderly x := Turns.orderly hreached hearlier
    -- No command that comes after the call has its id.
    have hne : a.id ≠ x.session.nextId := by
      intro heq
      rw [heq] at hid
      exact Nat.not_lt.mpr (ordinal_nextId_le (Turns.orderly hstart hbegan) horderly
        (Turns.log_prefix hturns)) hid
    obtain ⟨more, stage₁, hlog₁, h₁, hstays₁⟩ := ih hearlier
    obtain ⟨more₂, stage₂, hlog₂, h₂, hstays₂⟩ :=
      h₁.turn hturn (Turns.tidy hreached hearlier) horderly hne
    refine ⟨more ++ more₂, stage₂, ?_, ?_, ?_⟩
    · rw [hlog₂, hlog₁, List.append_assoc]
    · rw [← List.append_assoc]
      exact h₂
    · intro result hfinished
      have hsame := hstays₁ result hfinished
      rw [← hsame] at hfinished ⊢
      exact hstays₂ result hfinished

end Asked

end HubBridge.Proofs
