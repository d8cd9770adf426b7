import HubBridge.Proofs.Decisions
import HubBridge.Proofs.OneResult

/-!
# Sessions that hear nothing

A session that does not listen goes on in all other respects: time passes, alarms ring and commands are
sent. So its doors and modules stay as they were, and a command that waits ends by itself, by its own
alarm or by the loss of its own datagram, whether it is an observer's or a call's.
-/

namespace HubBridge.Proofs

variable {σ : Type} {send : Link (StateM σ)}

/-! ### What stays as it is -/

/-- Nothing was heard on the way, nothing is heard afterwards, and what datagrams bring is as it
was. -/
structure Unheard (d e : Desk σ) : Prop where
  listening : e.session.listening = false
  heard : heardOf e.log = heardOf d.log
  doors : e.session.doors = d.session.doors
  liveness : e.session.liveness = d.session.liveness
  clock : d.session.clock ≤ e.session.clock

lemma Unheard.trans {d e f : Desk σ} (h : Unheard d e) (h' : Unheard e f) : Unheard d f :=
  ⟨h'.listening, h'.heard.trans h.heard, h'.doors.trans h.doors, h'.liveness.trans h.liveness,
    Nat.le_trans h.clock h'.clock⟩

lemma Turn.unheard {d e : Desk σ} (hturn : Turn send d e) (hdeaf : d.session.listening = false) :
    Unheard d e := by
  obtain ⟨time, bytes, hlistens, -⟩ | hsame := hturn.hears
  · rw [hdeaf] at hlistens
    cases hlistens
  · exact ⟨hsame.deaf hdeaf, hsame.heard, hsame.doors, hsame.liveness, hsame.clock⟩

lemma Turns.unheard {d e : Desk σ} (h : Turns send d e) (hdeaf : d.session.listening = false) :
    Unheard d e :=
  h.keeps (motive := Unheard d) (fun _ _ hturn hx => hx.trans (hturn.unheard hx.listening))
    ⟨hdeaf, rfl, rfl, rfl, Nat.le_refl _⟩

lemma Unheard.occurred {d e : Desk σ} (h : Unheard d e) (hlog : d.log <+: e.log) :
    heardOf (Proofs.occurred d e) = [] := by
  obtain ⟨later, hlater⟩ := hlog
  have hheard := h.heard
  rw [← hlater, heardOf_append] at hheard
  rw [occurred_eq hlater.symm]
  exact List.append_right_eq_self.mp hheard

/-! ### Alarms and their entries -/

/-- The alarms of an id that waits are set for the deadline of its entry. -/
def Timed (p : Pending Party) : Prop :=
  ∀ a ∈ p.alarms, ∀ entry, p.get? a.id = some entry → a.due = entry.deadline

lemma Timed.fewer {p q : Pending Party} (h : Timed p) (hfewer : Fewer p q) : Timed q :=
  fun a ha entry hget => h a (hfewer.alarm a ha) entry (hfewer.entry a.id entry hget)

lemma Timed.launch {d : Desk σ} (h : Timed d.session.pending) (horderly : Orderly d)
    (request : Request) (errand : Errand) : Timed (d.launch request errand).session.pending := by
  rw [Desk.launch_eq horderly.not_contains]
  intro a ha entry hget
  dsimp only at ha hget
  rw [get?_enrolled_free horderly.free] at hget
  rcases mem_alarms_enrolled ha with ha | rfl
  · have hne : a.id ≠ d.session.nextId := by
      intro heq
      have hless := horderly.alarm a ha
      rw [heq] at hless
      exact Nat.lt_irrefl _ hless
    rw [if_neg hne] at hget
    exact h a ha entry hget
  · obtain ⟨party, -, rfl⟩ := Option.map_eq_some_iff.mp ((if_pos rfl).symm.trans hget)
    rfl

lemma fewer_land (d : Desk σ) (flight : Flight) :
    Fewer d.session.pending (d.land send flight).session.pending := by
  unfold Desk.land
  dsimp only
  rw [(pending_proceed _ _ _).1]
  exact (pending_settle _ _ _).1

lemma Turn.timed {d e : Desk σ} (hturn : Turn send d e) (horderly : Orderly d)
    (h : Timed d.session.pending) : Timed e.session.pending := by
  cases hturn.deed with
  | aside haside =>
    rw [haside.pending]
    exact h
  | answer time bytes id event hreply hends =>
    rw [hends.pending]
    exact h.fewer hends.takesOut.fewer
  | ring alarm hset hends =>
    rw [hends.pending]
    exact h.fewer hends.takesOut.fewer
  | launch request errand hfree hopens hasks => exact h.launch horderly request errand
  | call purpose hfree =>
    exact Timed.launch (d := { d with session := opened d.session purpose }) h
      (horderly.opened purpose) purpose.request _
  | land flight hflight => exact h.fewer (fewer_land d flight)
  | finish call result hconcludes => exact h

lemma Turns.timed {timing : Timing} {world : σ} {d : Desk σ}
    (h : Turns send (.start timing world) d) (hids : IdsSuffice d.log) :
    Timed d.session.pending := by
  induction h with
  | refl => exact fun a ha => nomatch ha
  | tail hturns hturn ih =>
    have hearlier := hids.of_prefix hturn.log_prefix
    exact hturn.timed (Turns.orderly hturns hearlier) (ih hearlier)

/-! ### How a command ends by itself -/

/-- By this time the command has ended by itself: its own alarm rang at its deadline, or its own
datagram was lost. -/
inductive Lapses (entry : PendingCommand Party) (time : Nat) : Occurrence → Prop
  | expired (serial : Nat) (hdue : entry.deadline ≤ time) :
      Lapses entry time (.rang ⟨serial, entry.command.id, entry.deadline⟩)
  | lost (cause : String) : Lapses entry time (.sent entry.command (some cause))

lemma Lapses.mono {entry : PendingCommand Party} {time later : Nat} {x : Occurrence}
    (h : Lapses entry time x) (hle : time ≤ later) : Lapses entry later x := by
  cases h with
  | expired serial hdue => exact .expired serial (Nat.le_trans hdue hle)
  | lost cause => exact .lost cause

lemma eq_of_mem_occurred {d e : Desk σ} {x y : Occurrence} (hlog : e.log = d.log ++ [y])
    (hx : x ∈ occurred d e) : x = y := by
  rw [occurred_eq hlog] at hx
  exact List.mem_singleton.mp hx

lemma undecided_launch {d : Desk σ} {request : Request} {errand : Errand} {id : CorrelationId}
    {x : Occurrence} (hx : x ∈ occurred d (d.launch request errand)) : decides id x = false := by
  rw [eq_of_mem_occurred (Desk.launch_log d request errand) hx]
  rfl

lemma not_mem_occurred {d e : Desk σ} (hlog : e.log = d.log) {x : Occurrence} :
    x ∉ occurred d e := by
  rw [occurred_eq (hlog.trans (List.append_nil _).symm)]
  exact List.not_mem_nil

/-- What decides a command in a turn in which nothing is heard. -/
lemma Turn.lapses {d e : Desk σ} (hturn : Turn send d e) (hdeaf : d.session.listening = false)
    (horderly : Orderly d) (htimed : Timed d.session.pending) {id : CorrelationId}
    {entry : PendingCommand Party} (hget : d.session.pending.get? id = some entry) {x : Occurrence}
    (hx : x ∈ occurred d e) (hdecides : decides id x = true) : Lapses entry d.session.clock x := by
  obtain ⟨rfl, -⟩ := horderly.entry id entry hget
  have launched : ∀ {request errand}, x ∉ occurred d (d.launch request errand) := by
    intro request errand hx
    rw [undecided_launch hx] at hdecides
    cases hdecides
  cases hturn with
  | connect =>
    obtain rfl := eq_of_mem_occurred rfl hx
    cases hdecides
  | disconnect id => exact absurd hx (not_mem_occurred rfl)
  | shutdown => exact absurd hx (not_mem_occurred rfl)
  | pass time htime => exact absurd hx (not_mem_occurred rfl)
  | hear time bytes hlistens =>
    rw [hdeaf] at hlistens
    cases hlistens
  | ring alarm hset hdue =>
    obtain rfl : x = .rang alarm := eq_of_mem_occurred rfl hx
    obtain ⟨serial, other, due⟩ := alarm
    obtain rfl : other = entry.command.id := by
      rw [decides_of_tidings rfl] at hdecides
      exact of_decide_eq_true hdecides
    obtain rfl : due = entry.deadline := htimed _ hset entry hget
    exact .expired serial hdue
  | write text hfree =>
    obtain rfl := eq_of_mem_occurred rfl hx
    cases hdecides
  | submit request observer hfree => exact absurd hx launched
  | call purpose hfree =>
    have hnone : decides entry.command.id x = false :=
      undecided_launch (d := { d with session := opened d.session purpose }) hx
    rw [hnone] at hdecides
    cases hdecides
  | land flight hflight =>
    obtain rfl := eq_of_mem_occurred rfl hx
    generalize ((send flight.command.encode).run d.world).1 = answer at hdecides ⊢
    cases answer with
    | none => cases hdecides
    | some cause =>
      rw [decides_of_tidings rfl] at hdecides
      have hid : flight.command.id = entry.command.id := of_decide_eq_true hdecides
      rw [← (horderly.own flight entry hflight (hid ▸ hget)).1]
      exact .lost cause
  | learn call outcome hcall hstage hbusy houtcome hends => exact absurd hx (not_mem_occurred rfl)
  | inquire call outcome reply poll hcall hstage hfree houtcome hpolls => exact absurd hx launched
  | ask call reply poll wake hcall hstage hfree hdue hleft => exact absurd hx launched
  | check call reply poll wake c hcall hstage hbusy hdue hcheck =>
    exact absurd hx (not_mem_occurred rfl)

/-- Whatever decides a command after nothing was heard any more, the command has ended by itself. -/
lemma lapses_of_isChain {timing : Timing} {world : σ} {d : Desk σ} {run : List (Desk σ)}
    (hstart : Turns send (.start timing world) d) (hdeaf : d.session.listening = false)
    (hrun : (d :: run).IsChain (Turn send)) (hids : IdsSuffice (run.getLastD d).log)
    {id : CorrelationId} {entry : PendingCommand Party}
    (hget : d.session.pending.get? id = some entry) {x : Occurrence}
    (hfirst : (occurred d (run.getLastD d)).find? (decides id) = some x) :
    Lapses entry (run.getLastD d).session.clock x := by
  -- Up to the turn that decides the command its entry stays as it is.
  induction run generalizing d with
  | nil =>
    have hnone : occurred d d = [] := occurred_eq (List.append_nil _).symm
    rw [List.getLastD_nil, hnone] at hfirst
    cases hfirst
  | cons e run ih =>
    obtain ⟨hturn, hrest⟩ := List.isChain_cons_cons.mp hrun
    rw [List.getLastD_cons] at hids hfirst ⊢
    have hlog : d.log <+: (run.getLastD e).log :=
      hturn.log_prefix.trans (log_of_isChain (happenings_of_turns hrest))
    have hbefore := hids.of_prefix hlog
    have horderly : Orderly d := Turns.orderly hstart hbefore
    have hunheard := hturn.unheard hdeaf
    have hlater := (turns_of_isChain hrest).unheard hunheard.listening
    obtain ⟨hreached, -, hdecided⟩ :=
      decided_of_isChain hstart hrun hids (horderly.entry id entry hget).2
    rw [occurred_trans hturn.log_prefix (log_of_isChain (happenings_of_turns hrest)),
      List.find?_append] at hfirst
    cases hdecided with
    | not hnone hsame =>
      rw [find?_eq_none_of_undecided hnone, Option.none_or] at hfirst
      exact ih hreached hunheard.listening hrest hids (hsame.trans hget) hfirst
    | now y hoccurred hdecides hgone =>
      rw [hoccurred, List.find?_cons_of_pos hdecides, Option.some_or] at hfirst
      obtain rfl := Option.some.inj hfirst
      have hmem : y ∈ occurred d e := by
        rw [hoccurred]
        exact List.mem_singleton.mpr rfl
      have hlapses :=
        hturn.lapses hdeaf horderly (Turns.timed hstart hbefore) hget hmem hdecides
      exact hlapses.mono (Nat.le_trans hunheard.clock hlater.clock)

/-! ### Calls -/

/-- What waits after a command was launched is that command or waited before. -/
lemma Orderly.entry_launch {d : Desk σ} (h : Orderly d) {request : Request} {errand : Errand}
    {id : CorrelationId} {entry : PendingCommand Party}
    (hget : (d.launch request errand).session.pending.get? id = some entry) :
    (id = d.session.nextId ∧ errand.requester = some entry.requester) ∨
      d.session.pending.get? id = some entry := by
  rw [Desk.launch_eq h.not_contains] at hget
  dsimp only at hget
  rw [get?_enrolled_free h.free] at hget
  split at hget
  · rename_i hid
    obtain ⟨party, hparty, rfl⟩ := Option.map_eq_some_iff.mp hget
    exact .inl ⟨hid, hparty⟩
  · exact .inr hget

/-- An entry of a call was made when the call began. -/
lemma entry_of_call {timing : Timing} {world : σ} {x : Desk σ}
    (h : Turns send (.start timing world) x) (hids : IdsSuffice x.log) {id : CorrelationId}
    {entry : PendingCommand Party} {n : Nat} (hget : x.session.pending.get? id = some entry)
    (hcaller : entry.requester = .call n) :
    ∃ b purpose, Turns send (.start timing world) b ∧ b.flight = none ∧
      Turns send (b.call purpose) x ∧ id = b.session.nextId ∧ n = b.session.called + 1 := by
  induction h with
  | refl =>
    have hnone : (Pending.empty : Pending Party).get? id = none := Pending.get?_empty id
    rw [show (Desk.start timing world).session.pending = .empty from rfl, hnone] at hget
    cases hget
  | tail hturns hturn ih =>
    rename_i y z
    have hearlier := hids.of_prefix hturn.log_prefix
    have horderly : Orderly y := Turns.orderly hturns hearlier
    have older : y.session.pending.get? id = some entry →
        ∃ b purpose, Turns send (.start timing world) b ∧ b.flight = none ∧
          Turns send (b.call purpose) z ∧ id = b.session.nextId ∧ n = b.session.called + 1 := by
      intro hold
      obtain ⟨b, purpose, hb, hfree, hlater, hid, hn⟩ := ih hearlier hold
      exact ⟨b, purpose, hb, hfree, hlater.tail hturn, hid, hn⟩
    cases hturn.deed with
    | aside haside => exact older (by rwa [haside.pending] at hget)
    | answer time bytes other event hreply hends =>
      rw [hends.pending] at hget
      exact older (hends.takesOut.fewer.entry id entry hget)
    | ring alarm hset hends =>
      rw [hends.pending] at hget
      exact older (hends.takesOut.fewer.entry id entry hget)
    | launch request errand hfree hopens hasks =>
      rcases horderly.entry_launch hget with ⟨-, hparty⟩ | hold
      · rw [hcaller] at hparty
        cases errand with
        | submission observer => cases observer <;> cases hparty
        | opening call => exact absurd rfl (hopens call)
        | query call reply poll => cases hparty
      · exact older hold
    | call purpose hfree =>
      rcases (horderly.opened purpose).entry_launch hget with ⟨hid, hparty⟩ | hold
      · rw [hcaller] at hparty
        cases hparty
        exact ⟨y, purpose, hturns, hfree, .refl, hid, rfl⟩
      · exact older hold
    | land flight hflight => exact older ((fewer_land y flight).entry id entry hget)
    | finish call result hconcludes => exact older hget

lemma ending?_unheard {log : List Occurrence} (h : heardOf log = []) {m : ModuleId}
    {id : CorrelationId} {outcome : Outcome} (hends : ending? m id log = some outcome) :
    outcome = .error (.timeout m id) := by
  obtain ⟨x, hx, hending⟩ := List.exists_of_findSome?_eq_some hends
  cases x with
  | heard time bytes => exact absurd hx (not_heard_of_mem h)
  | rang alarm =>
    dsimp only [endingOf?] at hending
    split at hending
    · exact (Option.some.inj hending).symm
    · cases hending
  | joined newcomer => cases hending
  | issued command => cases hending
  | sent command cause => cases hending
  | wrote text cause => cases hending

/-- A command of which nothing was heard so far, and nothing will be, comes to no reply. -/
lemma verdict_unheard {m : ModuleId} {id : CorrelationId} {earlier later : List Occurrence}
    (hearlier : ending? m id earlier = none) (hlater : heardOf later = []) {outcome : Outcome}
    (h : verdict m id (earlier ++ later) = some outcome) :
    ∃ failure, outcome = .error failure ∧
      (failure = .timeout m id ∨ ∃ cause, failure = .transport cause) := by
  unfold verdict at h
  split at h
  · cases h
  · rename_i cause hcause
    exact ⟨_, (Option.some.inj h).symm, .inr ⟨cause, rfl⟩⟩
  · rw [ending?_append, hearlier, Option.none_or] at h
    exact ⟨_, ending?_unheard hlater h, .inl rfl⟩

/-- How a call comes to its end, once nothing is heard, whose command waited then. -/
structure Returns (send : Link (StateM σ)) (n : Nat) (command : Command) (e : Desk σ)
    (purpose : Purpose) (stage : CallStage) : Prop where
  once : e.session.calls.filter (fun call => call.number = n) = [⟨n, purpose, stage⟩]
  /-- It waits, or has returned that its time was up or its datagram was lost. -/
  failure : stage = .awaiting ∨ ∃ failure, stage = .finished (purpose.result (.error failure)) ∧
    (failure = .timeout command.moduleId command.id ∨ ∃ cause, failure = .transport cause)
  /-- When nothing due is left to do it does not wait for a command that has ended. -/
  returns : Quiet e → e.session.pending.get? command.id = none → stage ≠ .awaiting
  /-- What it has returned is the last. -/
  stays : ∀ result, stage = .finished result → ∀ f, Turns send e f → IdsSuffice f.log →
    f.session.calls.filter (fun call => call.number = n) = [⟨n, purpose, .finished result⟩]

lemma Asked.Stands.of_waiting {a : Asked} {d : Desk σ} {later : List Occurrence} {stage : CallStage}
    (h : a.Stands d later stage) {entry : PendingCommand Party}
    (hget : d.session.pending.get? a.id = some entry) :
    ending? a.moduleId a.id later = none ∧ entry.command = a.command := by
  cases h with
  | unheard alarm hnone hentry hempty hkept =>
    rw [hget] at hentry
    obtain rfl := Option.some.inj hentry
    exact ⟨hnone, rfl⟩
  | told outcome hsome hgone hfull hkept =>
    rw [hget] at hgone
    cases hgone
  | learned outcome hsent hsome hgone hlearned =>
    rw [hget] at hgone
    cases hgone
  | lost cause hlost hgone =>
    rw [hget] at hgone
    cases hgone

lemma Asked.Standing.waits {a : Asked} {d : Desk σ} {later : List Occurrence}
    (h : a.Standing d later .awaiting) (hquiet : Quiet d) :
    d.session.pending.get? a.id ≠ none := by
  cases h.stands with
  | unheard alarm hnone hentry hempty hkept =>
    rw [hentry]
    exact Option.some_ne_none _
  | told outcome hsome hgone hfull hkept =>
    have hlooked : outcomeAt d a.number = none := hquiet.looked _ h.call rfl
    rw [outcomeAt, hfull] at hlooked
    cases hlooked
  | learned outcome hsent hsome hgone hlearned => exact absurd hlearned Asked.not_learned_awaiting

lemma call_returns {timing : Timing} {world : σ} {x e : Desk σ}
    (hx : Turns send (.start timing world) x) (hdeaf : x.session.listening = false)
    (hturns : Turns send x e) (hids : IdsSuffice e.log) {id : CorrelationId}
    {entry : PendingCommand Party} {n : Nat} (hget : x.session.pending.get? id = some entry)
    (hcaller : entry.requester = .call n) :
    ∃ purpose stage, Returns send n entry.command e purpose stage := by
  have hidsx := hids.of_prefix hturns.log_prefix
  obtain ⟨b, purpose, hb, hfree, hbegan, rfl, rfl⟩ := entry_of_call hx hidsx hget hcaller
  obtain ⟨earlier, stage₀, hlog₀, hstands₀, -⟩ :=
    Asked.stands_after hb hfree purpose hbegan hidsx
  obtain ⟨later, stage, hlog, hstands, hid⟩ :=
    Asked.stands_after hb hfree purpose (hbegan.trans hturns) hids
  have he : Turns send (.start timing world) e := hx.trans hturns
  obtain ⟨hnone, hcommand⟩ := hstands₀.stands.of_waiting hget
  obtain rfl : later = earlier ++ occurred x e := by
    obtain ⟨more, hmore⟩ := hturns.log_prefix
    rw [occurred_eq hmore.symm]
    rw [hlog₀, List.append_assoc, hlog] at hmore
    exact (List.append_cancel_left hmore).symm
  rw [hcommand]
  refine ⟨purpose, stage, hstands.once (Turns.tidy he hids), ?_, ?_, ?_⟩
  · rcases hstands.stands.verdict with hwaits | ⟨outcome, hverdict, hlearned, -⟩
    · exact .inl hwaits
    · obtain ⟨failure, rfl, hfailure⟩ := verdict_unheard hnone
        ((hturns.unheard hdeaf).occurred hturns.log_prefix) hverdict
      refine .inr ⟨failure, ?_, hfailure⟩
      have hends : inquiry purpose (.error failure) = none := by
        unfold inquiry
        cases purpose <;> rfl
      unfold Learned at hlearned
      rw [show (Asked.ofDesk b purpose).purpose = purpose from rfl, hends] at hlearned
      exact hlearned
  · rintro hquiet hgone rfl
    exact hstands.waits hquiet hgone
  · rintro result rfl f hlater hlast
    exact hstands.stays he hid hlater hlast

end HubBridge.Proofs
