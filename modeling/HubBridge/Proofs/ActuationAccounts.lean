import HubBridge.Proofs.Courses
import HubBridge.Proofs.LineRoundTrip
import HubBridge.Proofs.OneResult

/-!
# What a lock or unlock call sends

A lock or unlock call sends one tracked command. If the reply only acknowledges it, the call goes on to
poll: it sends one untracked query after the other and counts them, until the lock has moved or the
attempts are used up. `Tally` holds the count against the queries that were sent, at every turn of
whatever else the session does meanwhile.
-/

namespace HubBridge.Proofs

open Text

variable {σ : Type} {send : Link (StateM σ)}

/-! ### What leads to a poll -/

/-- The reply does no more than name the command. -/
def Acknowledges (reply : Reply) : Prop := reply.rawAction = "LOCK" ∨ reply.rawAction = "UNLOCK"

/-- The action of a reply is written without white space around it. -/
lemma trim_of_answer {id : CorrelationId} {bytes : ByteArray} {reply : Reply}
    (h : answer id (.ofDatagram bytes) = some (.ok reply)) :
    trim reply.rawAction = reply.rawAction := by
  by_cases hspelt : ∃ message, Spelt bytes message
  · obtain ⟨message, hspelt⟩ := hspelt
    rw [ofDatagram_of_spelt hspelt] at h
    obtain ⟨line, hlaid, hcomposed⟩ := hspelt
    have hwords := isWord_of_laidOut hlaid
    cases hcomposed with
    | feedback m other target hid hmore =>
      simp only [List.forall_mem_cons] at hwords
      dsimp only [answer] at h
      split at h
      · cases h
        exact trim_unwords hwords.2.2.2.2
      · cases h
    | event m target hmore => cases h
    | heartbeat m more => cases h
    | hello m more => cases h
  · rw [ofDatagram_of_not_spelt (not_exists.mp hspelt)] at h
    cases h

lemma trim_of_ending {m : ModuleId} {id : CorrelationId} {log : List Occurrence} {reply : Reply}
    (h : ending? m id log = some (.ok reply)) : trim reply.rawAction = reply.rawAction := by
  obtain ⟨x, -, hx⟩ := List.exists_of_findSome?_eq_some h
  cases x with
  | heard time bytes => exact trim_of_answer hx
  | rang alarm =>
    dsimp only [endingOf?] at hx
    split at hx <;> cases hx
  | joined newcomer => cases hx
  | issued command => cases hx
  | sent command cause => cases hx
  | wrote text cause => cases hx

lemma ending_of_verdict {m : ModuleId} {id : CorrelationId} {log : List Occurrence} {reply : Reply}
    (h : verdict m id log = some (.ok reply)) : ending? m id log = some (.ok reply) := by
  unfold verdict at h
  split at h
  · cases h
  · cases h
  · exact h

lemma verdict_append {m : ModuleId} {id : CorrelationId} {log : List Occurrence} {outcome : Outcome}
    (h : verdict m id log = some outcome) (more : List Occurrence) :
    verdict m id (log ++ more) = some outcome := by
  unfold verdict at h ⊢
  cases hpassage : passage id log with
  | none =>
    rw [hpassage] at h
    cases h
  | some cause =>
    rw [passage_append, hpassage, Option.some_or]
    rw [hpassage] at h
    cases cause with
    | some cause => exact h
    | none =>
      dsimp only at h ⊢
      rw [ending?_append, h, Option.some_or]

lemma acknowledged_isSome {raw : String} (h : trim raw = raw) :
    (acknowledged raw).isSome = true ↔ raw = "LOCK" ∨ raw = "UNLOCK" := by
  rw [Option.isSome_iff_exists]
  constructor
  · rintro ⟨status, hstatus⟩
    obtain ⟨locked, htrim, -⟩ := acknowledged_eq_some.mp hstatus
    rw [h] at htrim
    cases locked with
    | true => exact .inl htrim
    | false => exact .inr htrim
  · rintro (hlock | hunlock)
    · exact ⟨_, acknowledged_eq_some.mpr ⟨true, h.trans hlock, rfl⟩⟩
    · exact ⟨_, acknowledged_eq_some.mpr ⟨false, h.trans hunlock, rfl⟩⟩

lemma inquiry_eq_some {purpose : Purpose} {outcome : Outcome} {reply : Reply} {poll : Poll}
    (h : inquiry purpose outcome = some (reply, poll)) :
    outcome = .ok reply ∧ (acknowledged reply.rawAction).isSome = true ∧
      poll.moduleId = reply.moduleId ∧ poll.attempts = 0 := by
  unfold inquiry at h
  split at h
  · rename_i m lock reply'
    obtain ⟨expected, hacknowledged, hmap⟩ := Option.bind_eq_some_iff.mp h
    obtain ⟨want, -, heq⟩ := Option.map_eq_some_iff.mp hmap
    cases heq
    rw [hacknowledged]
    exact ⟨rfl, rfl, rfl, rfl⟩
  · cases h

lemma inquiry_actuate_eq_none {m : ModuleId} {lock : Bool} {reply : Reply}
    (h : inquiry (.actuate m lock) (.ok reply) = none) : acknowledged reply.rawAction = none := by
  cases hacknowledged : acknowledged reply.rawAction with
  | none => rfl
  | some expected =>
    obtain ⟨locked, -, hexpected⟩ := acknowledged_eq_some.mp hacknowledged
    have hwant := lockState_eq_some.mpr hexpected
    simp only [inquiry, hacknowledged, Option.bind_some, hwant, Option.map_some] at h
    cases h

/-! ### The tally of a call -/

/-- The queries that were sent for a result, if there was a poll. -/
def polledFor : CallResult → Option Nat
  | .actuation (.ok ⟨_, some c⟩) => some c.attempts
  | _ => none

/-- The queries that a call has counted, if it polls or has polled. -/
def polled : CallStage → Option Nat
  | .awaiting => none
  | .polling _ poll _ => some poll.attempts
  | .finished result => polledFor result

/-- How many queries of the call are on their way out. -/
def asking (number : Nat) : Option Flight → Nat
  | some ⟨_, .query call _ _⟩ => if call.number = number then 1 else 0
  | some ⟨_, .opening _⟩ | some ⟨_, .submission _⟩ | none => 0

/-- The commands that were sent on account of the call. -/
def ownOf (number : Nat) (flights : List Flight) : List Flight :=
  flights.filter fun flight => flight.errand.caller = some number

/-- The call has counted all the queries that were sent, but for the one that is on its way out. -/
structure Tally (number limit : Nat) (flight : Option Flight) (stage : CallStage) (sent : Nat) :
    Prop where
  count : sent = (polled stage).getD 0 + asking number flight
  range : ∀ attempts, polled stage = some attempts → 1 ≤ attempts ∧ attempts ≤ max 1 limit
  asked : ∀ command call reply poll, flight = some ⟨command, .query call reply poll⟩ →
    call.number = number → poll.attempts = (polled stage).getD 0 ∧ poll.attempts < max 1 limit

section Tally

variable {number limit sent : Nat} {stage : CallStage}

lemma polled_result (purpose : Purpose) (outcome : Outcome) :
    polledFor (purpose.result outcome) = none := by
  cases purpose with
  | command request => rfl
  | info m => rfl
  | actuate m lock => cases outcome <;> rfl

lemma asking_of_idle {flight : Option Flight}
    (h : ∀ f, flight = some f → f.errand.caller ≠ some number) : asking number flight = 0 := by
  rcases flight with _ | ⟨command, observer | call | ⟨call, reply, poll⟩⟩
  · rfl
  · rfl
  · rfl
  · have hne : call.number ≠ number := fun heq => h _ rfl (congrArg some heq)
    exact if_neg hne

/-- A command is sent on its way. If it is a query of the call, the poll was about to ask. -/
lemma Tally.launch {flight : Flight} (h : Tally number limit none stage sent)
    (hasks : ∀ command call reply poll, flight = ⟨command, .query call reply poll⟩ →
      call.number = number → poll.attempts = (polled stage).getD 0 ∧ poll.attempts < max 1 limit) :
    Tally number limit (some flight) stage (sent + asking number (some flight)) where
  count := by
    have hcount : sent = (polled stage).getD 0 := h.count
    rw [hcount]
  range := h.range
  asked command call reply poll hflight := hasks command call reply poll (Option.some.inj hflight)

/-- A command that is none of the call's queries has landed. -/
lemma Tally.land {flight : Flight} (h : Tally number limit (some flight) stage sent)
    (hother : asking number (some flight) = 0) : Tally number limit none stage sent where
  count := by
    rw [h.count, hother]
    rfl
  range := h.range
  asked _ _ _ _ hflight := nomatch hflight

/-- A query of the call has landed, and is counted whether it was lost or not. -/
lemma Tally.landQuery {command : Command} {call : Call} {reply : Reply} {poll : Poll}
    (h : Tally number limit (some ⟨command, .query call reply poll⟩) stage sent)
    (hnumber : call.number = number) (wake : Nat) :
    Tally number limit none (.polling reply poll.queried wake) sent where
  count := by
    obtain ⟨hattempts, -⟩ := h.asked command call reply poll rfl hnumber
    rw [h.count, ← hattempts, asking, if_pos hnumber]
    rfl
  range attempts hpolled := by
    obtain ⟨-, hless⟩ := h.asked command call reply poll rfl hnumber
    cases hpolled
    exact ⟨Nat.succ_pos _, hless⟩
  asked _ _ _ _ hflight := nomatch hflight

/-- The call ends, with as many queries as it has counted. -/
lemma Tally.finish {flight : Option Flight} {result : CallResult}
    (h : Tally number limit flight stage sent) (hpolled : polledFor result = polled stage)
    (hidle : ∀ f, flight = some f → f.errand.caller ≠ some number) :
    Tally number limit flight (.finished result) sent where
  count := by
    rw [polled, hpolled]
    exact h.count
  range attempts heq := h.range attempts (hpolled.symm.trans heq)
  asked command call reply poll hflight hnumber :=
    absurd (congrArg some hnumber) (hidle _ hflight)

lemma Tally.sent_le {flight : Option Flight} (h : Tally number limit flight stage sent) :
    sent ≤ max 1 limit := by
  have hcounted : (polled stage).getD 0 ≤ max 1 limit := by
    cases hpolled : polled stage with
    | none => exact Nat.zero_le _
    | some attempts => exact (h.range attempts hpolled).2
  rw [h.count]
  rcases flight with _ | ⟨command, observer | call | ⟨call, reply, poll⟩⟩
  · exact hcounted
  · exact hcounted
  · exact hcounted
  · by_cases hnumber : call.number = number
    · obtain ⟨hattempts, hless⟩ := h.asked command call reply poll rfl hnumber
      rw [asking, if_pos hnumber]
      omega
    · rw [asking, if_neg hnumber]
      exact hcounted

end Tally

namespace Asked

variable {a : Asked} {d e : Desk σ} {later : List Occurrence} {stage : CallStage} {limit sent : Nat}

/-- After a turn the call stands somewhere, with its tally right. -/
def Tallied (a : Asked) (limit : Nat) (d e : Desk σ) (sent : Nat) : Prop :=
  ∃ stage, a.call stage ∈ e.session.calls ∧
    Tally a.number limit e.flight stage (sent + asking a.number (launched d e))

/-- Nothing is sent, and the call stays where it is. -/
lemma tallied_same (h : Tally a.number limit d.flight stage sent) (hflight : e.flight = d.flight)
    (hcall : a.call stage ∈ e.session.calls) : a.Tallied limit d e sent := by
  refine ⟨stage, hcall, ?_⟩
  rw [launched_eq_none (.inl hflight), hflight]
  exact h

lemma tallied_launch (h : Tally a.number limit d.flight stage sent) (horderly : Orderly d)
    (hfree : d.flight = none) (hcall : a.call stage ∈ d.session.calls) (request : Request)
    {errand : Errand} (hasks : ∀ call reply poll, errand = .query call reply poll →
      call.number = a.number →
        poll.attempts = (polled stage).getD 0 ∧ poll.attempts < max 1 limit) :
    a.Tallied limit d (d.launch request errand) sent := by
  rw [hfree] at h
  refine ⟨stage, ?_, ?_⟩
  · rw [Desk.launch_eq horderly.not_contains]
    exact hcall
  · rw [launched_of_free hfree, Desk.launch_eq horderly.not_contains]
    apply h.launch
    intro command call reply poll hflight
    exact hasks call reply poll (congrArg Flight.errand hflight)

variable (send) in
lemma tallied_land (h : Tally a.number limit d.flight stage sent)
    (hstands : a.Standing d later stage) {flight : Flight} (hflight : d.flight = some flight) :
    a.Tallied limit d (d.land send flight) sent := by
  have hlaunched : launched d (d.land send flight) = none := launched_eq_none (.inr rfl)
  have hbooks := sameBooks_settle d.session flight.command.id
    ((send flight.command.encode).run d.world).1
  have hcall : a.call stage ∈ (d.session.settle flight.command.id
      ((send flight.command.encode).run d.world).1).1.calls := by
    rw [hbooks.calls]
    exact hstands.call
  unfold Tallied
  rw [hlaunched]
  rw [hflight] at h
  obtain ⟨command, errand⟩ := flight
  unfold Desk.land
  dsimp only at hcall ⊢
  generalize d.session.settle command.id ((send command.encode).run d.world).1 = settled at hcall ⊢
  cases errand with
  | submission observer => exact ⟨stage, hcall, h.land rfl⟩
  | opening call =>
    cases hresult : settled.2 with
    | ok id => exact ⟨stage, hcall, h.land rfl⟩
    | error failure =>
      by_cases hnumber : call.number = a.number
      · -- The call's own command: nothing is counted yet.
        have hout : passage a.id later = none := by
          by_contra hout
          exact (hstands.flown hout _ hflight).opening call rfl hnumber
        have hown := hstands.flying hout
        rw [hflight, Option.some_inj] at hown
        cases hown
        obtain rfl := hstands.stands.awaits hout
        refine ⟨_, mem_setCall_self hcall rfl, (h.land rfl).finish ?_ fun _ hnone => nomatch hnone⟩
        exact polled_result a.purpose _
      · exact ⟨stage, setCall_keeps hcall (Ne.symm hnumber), h.land rfl⟩
  | query call reply poll =>
    by_cases hnumber : call.number = a.number
    · have hout : passage a.id later ≠ none := by
        intro hnone
        have hown := hstands.flying hnone
        rw [hflight] at hown
        cases hown
      obtain ⟨rfl, -⟩ := (hstands.flown hout _ hflight).query call reply poll rfl hnumber
      exact ⟨_, mem_setCall_self hcall rfl, h.landQuery rfl _⟩
    · exact ⟨stage, setCall_keeps hcall (Ne.symm hnumber), h.land (if_neg hnumber)⟩

/-- A call ends. -/
lemma tallied_finish (h : Tally a.number limit d.flight stage sent) (ht : Tidy d)
    (hown : a.call stage ∈ d.session.calls) {call : Call} (hcall : call ∈ d.session.calls)
    (hbusy : ¬d.Busy call) {result : CallResult} (hpolled : polledFor result = polled call.stage) :
    a.Tallied limit d { d with session := d.session.finish call result } sent := by
  have hlaunched : launched d { d with session := d.session.finish call result } = none :=
    launched_eq_none (.inl rfl)
  unfold Tallied
  rw [hlaunched]
  by_cases hnumber : call.number = a.number
  · obtain rfl := eq_of_number ht hcall hown hnumber
    refine ⟨_, mem_setCall_self hown rfl, h.finish hpolled ?_⟩
    intro flight hflight hcaller
    exact hbusy ⟨flight, hflight, hcaller⟩
  · exact ⟨stage, setCall_keeps hown (Ne.symm hnumber), h⟩

lemma attempts_of_check {poll : Poll} {bound : UInt32} {lockState : Option Bool} {c : Convergence}
    (h : poll.check bound lockState = some c) : c.attempts = poll.attempts := by
  unfold Poll.check at h
  split at h
  · cases h
    rfl
  · split at h
    · cases h
      rfl
    · cases h

/-- What one turn does to the tally, whatever it is. -/
theorem tallied_turn (h : Tally a.number limit d.flight stage sent)
    (hlimit : limit = d.session.timing.poll.maxAttempts.toNat) (hstands : a.Standing d later stage)
    (ht : Tidy d) (horderly : Orderly d) (hturn : Turn send d e) : a.Tallied limit d e sent := by
  cases hturn with
  | connect => exact tallied_same h rfl hstands.call
  | disconnect id => exact tallied_same h rfl hstands.call
  | shutdown => exact tallied_same h rfl hstands.call
  | pass time htime => exact tallied_same h rfl hstands.call
  | hear time bytes hlistens =>
    refine tallied_same h rfl ?_
    rw [Desk.hear, (handle_calls _ _ _).1]
    exact hstands.call
  | ring alarm hset hdue =>
    refine tallied_same h rfl ?_
    rw [Desk.ring, (sameBooks_rung _ _).calls]
    exact hstands.call
  | write text hfree => exact tallied_same h rfl hstands.call
  | submit request observer hfree =>
    exact tallied_launch h horderly hfree hstands.call request fun _ _ _ herrand => by cases herrand
  | call purpose hfree =>
    have hopened := horderly.opened purpose
    exact tallied_launch (d := { d with session := opened d.session purpose }) h hopened hfree
      (List.mem_append_left _ hstands.call) purpose.request fun _ _ _ herrand => by cases herrand
  | land flight hflight => exact tallied_land send h hstands hflight
  | learn call outcome hcall hstage hbusy houtcome hends =>
    refine tallied_finish h ht hstands.call hcall hbusy ?_
    rw [polled_result, hstage]
    rfl
  | inquire call outcome reply poll hcall hstage hfree houtcome hpolls =>
    refine tallied_launch h horderly hfree hstands.call _ ?_
    rintro _ _ _ ⟨⟩ hnumber
    obtain rfl := eq_of_number ht hcall hstands.call hnumber
    obtain rfl : stage = .awaiting := hstage
    have hattempts : poll.attempts = 0 := (inquiry_eq_some hpolls).2.2.2
    exact ⟨hattempts, hattempts ▸ Nat.lt_of_lt_of_le Nat.zero_lt_one (Nat.le_max_left 1 limit)⟩
  | ask call reply poll wake hcall hstage hfree hdue hleft =>
    refine tallied_launch h horderly hfree hstands.call _ ?_
    rintro _ _ _ ⟨⟩ hnumber
    obtain rfl := eq_of_number ht hcall hstands.call hnumber
    obtain rfl : stage = .polling reply poll wake := hstage
    rw [← hlimit] at hleft
    exact ⟨rfl, Nat.lt_of_lt_of_le hleft (Nat.le_max_right 1 limit)⟩
  | check call reply poll wake c hcall hstage hbusy hdue hcheck =>
    refine tallied_finish h ht hstands.call hcall hbusy ?_
    rw [hstage]
    exact congrArg some (attempts_of_check hcheck)

/-! ### The queries of a call -/

/-- The command is an untracked query to the module whose reply the call polls for. -/
structure Queries (a : Asked) (later : List Occurrence) (flight : Flight) : Prop where
  untracked : flight.errand.requester = none
  status : ∃ reply, verdict a.moduleId a.id later = some (.ok reply) ∧ Acknowledges reply ∧
    flight.command = (Request.status reply.moduleId).toCommand flight.command.id

lemma Queries.append {flight : Flight} (h : a.Queries later flight) (more : List Occurrence) :
    a.Queries (later ++ more) flight := by
  obtain ⟨reply, hverdict, hrest⟩ := h.status
  exact ⟨h.untracked, reply, verdict_append hverdict more, hrest⟩

/-- All that is sent on account of a call, once its own command is out, are its queries. -/
lemma Standing.queries {later' : List Occurrence} {stage' : CallStage} (h : a.Standing d later stage)
    (h' : a.Standing e later' stage') (hlater : later <+: later') (hturn : Turn send d e)
    (horderly : Orderly d) {flight : Flight} (hlaunched : launched d e = some flight)
    (hown : flight.errand.caller = some a.number) :
    a.Queries later' flight ∧ asking a.number (some flight) = 1 := by
  have hfree : d.flight = none := by
    by_contra hbusy
    obtain ⟨other, hother⟩ := Option.ne_none_iff_exists'.mp hbusy
    rw [launched, hother] at hlaunched
    cases hlaunched
  have hflight : e.flight = some flight := by rwa [launched_of_free hfree] at hlaunched
  have hout : passage a.id later' ≠ none := by
    intro hnone
    obtain ⟨more, rfl⟩ := hlater
    rw [passage_append, Option.or_eq_none_iff] at hnone
    rw [h.flying hnone.1] at hfree
    cases hfree
  have hforeign := h'.flown hout flight hflight
  cases herrand : flight.errand with
  | submission observer =>
    rw [herrand] at hown
    cases hown
  | opening call =>
    rw [herrand] at hown
    exact absurd (Option.some.inj hown) (hforeign.opening call herrand)
  | query call reply poll =>
    rw [herrand] at hown
    have hnumber : call.number = a.number := Option.some.inj hown
    obtain ⟨-, hinquires⟩ := hforeign.query call reply poll herrand hnumber
    obtain ⟨outcome, first, hends, hinquiry, attempts, rfl⟩ := hinquires.follows
    obtain ⟨rfl, hacknowledged, hmodule, -⟩ := inquiry_eq_some hinquiry
    have hverdict : verdict a.moduleId a.id later' = some (.ok reply) := by
      unfold Proofs.verdict
      rw [hinquires.sent]
      exact hends
    have hcommand := hturn.query horderly hlaunched herrand
    rw [show (Poll.moduleId { first with attempts }) = reply.moduleId from hmodule] at hcommand
    obtain ⟨command, errand⟩ := flight
    subst herrand
    refine ⟨⟨rfl, reply, hverdict, ?_, hcommand⟩, if_pos hnumber⟩
    exact (acknowledged_isSome (trim_of_ending hends)).mp hacknowledged

/-- How the call stands after a run, and what it has sent. -/
structure Progress (a : Asked) (limit : Nat) (e : Desk σ) (later : List Occurrence)
    (stage : CallStage) (flights : List Flight) : Prop where
  standing : a.Standing e later stage
  tally : Tally a.number limit e.flight stage (ownOf a.number flights).length
  queries : ∀ flight ∈ ownOf a.number flights, a.Queries later flight
  out : ∀ flight ∈ ownOf a.number flights,
    e.flight = some flight ∨ ∃ cause, (flight.command, cause) ∈ dispatched later

lemma mem_ownOf_append {number : Nat} {flights : List Flight} {found : Option Flight}
    {flight : Flight} (h : flight ∈ ownOf number (flights ++ found.toList)) :
    flight ∈ ownOf number flights ∨ found = some flight ∧ flight.errand.caller = some number := by
  obtain ⟨hmem, hcaller⟩ := List.mem_filter.mp h
  have hcaller' : flight.errand.caller = some number := of_decide_eq_true hcaller
  rcases mem_append_toList.mp hmem with hmem | hfound
  · exact .inl (List.mem_filter.mpr ⟨hmem, hcaller⟩)
  · exact .inr ⟨hfound, hcaller'⟩

lemma Progress.turn {log later' : List Occurrence} {stage' : CallStage} {flights : List Flight}
    (h : a.Progress limit d later stage flights) (h' : a.Standing e later' stage')
    (hlog : d.log = log ++ later) (hlog' : e.log = log ++ later')
    (hlimit : limit = d.session.timing.poll.maxAttempts.toNat)
    (hturn : Turn send d e) (ht : Tidy d) (ht' : Tidy e) (horderly : Orderly d) :
    a.Progress limit e later' stage' (flights ++ (launched d e).toList) := by
  have hlater : later <+: later' := by
    have hprefix := hturn.log_prefix
    rw [hlog, hlog'] at hprefix
    exact (List.prefix_append_right_inj _).mp hprefix
  have hqueries : ∀ flight, launched d e = some flight → flight.errand.caller = some a.number →
      a.Queries later' flight ∧ asking a.number (some flight) = 1 :=
    fun flight => h.standing.queries h' hlater hturn horderly
  have hlength : (ownOf a.number (flights ++ (launched d e).toList)).length =
      (ownOf a.number flights).length + asking a.number (launched d e) := by
    unfold ownOf
    rw [List.filter_append, List.length_append]
    congr 1
    cases hlaunched : launched d e with
    | none => rfl
    | some flight =>
      rw [Option.toList_some]
      by_cases hcaller : flight.errand.caller = some a.number
      · rw [(hqueries flight hlaunched hcaller).2, List.filter_singleton, decide_eq_true hcaller]
        rfl
      · rw [asking_of_idle (fun f hf => Option.some.inj hf ▸ hcaller), List.filter_singleton,
          decide_eq_false hcaller]
        rfl
  obtain ⟨found, hcall, htally⟩ := tallied_turn h.tally hlimit h.standing ht horderly hturn
  obtain rfl : stage' = found := by
    have hsame := eq_of_number ht' hcall h'.call rfl
    exact (Call.mk.inj hsame).2.2.symm
  refine ⟨h', hlength ▸ htally, ?_, ?_⟩
  · intro flight hmem
    rcases mem_ownOf_append hmem with hmem | ⟨hlaunched, hcaller⟩
    · obtain ⟨more, rfl⟩ := hlater
      exact (h.queries flight hmem).append more
    · exact (hqueries flight hlaunched hcaller).1
  · intro flight hmem
    rcases mem_ownOf_append hmem with hmem | ⟨hlaunched, -⟩
    · rcases h.out flight hmem with hflight | ⟨cause, hcause⟩
      · refine (hturn.flight hflight).imp_right ?_
        rintro ⟨cause, hsent⟩
        rw [hlog, hlog', List.append_assoc, List.append_cancel_left_eq] at hsent
        refine ⟨cause, ?_⟩
        rw [hsent, dispatched_append]
        exact List.mem_append_right _ (List.mem_singleton.mpr rfl)
      · obtain ⟨more, rfl⟩ := hlater
        refine .inr ⟨cause, ?_⟩
        rw [dispatched_append]
        exact List.mem_append_left _ hcause
    · left
      unfold launched at hlaunched
      split at hlaunched
      · exact hlaunched
      · cases hlaunched

lemma progress_ofDesk (ht : Tidy d) (horderly : Orderly d) (purpose : Purpose) (limit : Nat) :
    (ofDesk d purpose).Progress limit (d.call purpose) [] .awaiting [] := by
  have hstanding := standing_ofDesk ht horderly purpose
  have hnone : ∀ flight, flight ∉ ownOf (ofDesk d purpose).number [] := fun _ hmem => nomatch hmem
  refine ⟨hstanding, ?_, fun flight hmem => absurd hmem (hnone flight),
    fun flight hmem => absurd hmem (hnone flight)⟩
  rw [hstanding.flying rfl]
  constructor
  · rfl
  · intro attempts hpolled
    cases hpolled
  · intro command call reply poll hflight
    cases hflight

/-- All turns that follow the beginning of a call keep the tally. -/
theorem progress_after {timing : Timing} {world : σ} {flights : List Flight} {purpose : Purpose}
    (hstart : Turns send (.start timing world) d) (hfree : d.flight = none)
    (hcourse : Course send (d.call purpose) flights e) (hids : IdsSuffice e.log) :
    ∃ later stage, e.log = (d.call purpose).log ++ later ∧
      (ofDesk d purpose).Progress d.session.timing.poll.maxAttempts.toNat e later stage flights := by
  have hturn : Turn send d (d.call purpose) := .call d purpose hfree
  have hcalled : Turns send (.start timing world) (d.call purpose) := hstart.tail hturn
  induction hcourse with
  | refl =>
    have hbefore : IdsSuffice d.log := hids.of_prefix hturn.log_prefix
    have horderly := Turns.orderly hstart hbefore
    exact ⟨[], .awaiting, (List.append_nil _).symm,
      progress_ofDesk (Turns.tidy hstart hbefore) horderly purpose _⟩
  | @tail flights x y hcourse hnext ih =>
    have hearlier : IdsSuffice x.log := hids.of_prefix hnext.log_prefix
    have hreached : Turns send (.start timing world) x := hcalled.trans hcourse.turns
    obtain ⟨later, stage, hlog, h⟩ := ih hearlier
    obtain ⟨later', stage', hlog', h', -⟩ :=
      stands_after hstart hfree purpose (hcourse.tail hnext).turns hids
    have htiming : x.session.timing = d.session.timing := by
      have hbegan : IdsSuffice (d.call purpose).log :=
        hearlier.of_prefix (Turns.log_prefix hcourse.turns)
      have hbefore : IdsSuffice d.log := hbegan.of_prefix hturn.log_prefix
      rw [(hcourse.adds hcalled hearlier).timing, (hturn.adds (Turns.orderly hstart hbefore)).timing]
    have hlimit : d.session.timing.poll.maxAttempts.toNat =
        x.session.timing.poll.maxAttempts.toNat := by rw [htiming]
    exact ⟨later', stage', hlog', h.turn h' hlog hlog' hlimit hnext (Turns.tidy hreached hearlier)
      (Turns.tidy (hreached.tail hnext) hids) (Turns.orderly hreached hearlier)⟩

/-! ### How the call ends -/

/-- No command of a call that has ended is on its way out. -/
lemma Standing.idle {result : CallResult} (h : a.Standing e later (.finished result)) :
    ∀ flight, e.flight = some flight → flight.errand.caller ≠ some a.number := by
  intro flight hflight hcaller
  have hout : passage a.id later ≠ none := by
    intro hnone
    cases h.stands.awaits hnone
  have hforeign := h.flown hout flight hflight
  obtain ⟨command, observer | call | ⟨call, reply, poll⟩⟩ := flight
  · cases hcaller
  · exact hforeign.opening call rfl (Option.some.inj hcaller)
  · obtain ⟨-, hinquires⟩ := hforeign.query call reply poll rfl (Option.some.inj hcaller)
    exact hinquires.goesOn result rfl

lemma Progress.length_own {flights : List Flight} {result : CallResult}
    (h : a.Progress limit e later (.finished result) flights) :
    (ownOf a.number flights).length = (polledFor result).getD 0 := by
  have hcount := h.tally.count
  rw [asking_of_idle h.standing.idle] at hcount
  exact hcount

end Asked

/-- The result of a lock or unlock call: by what became of its command alone, or after a poll, which
has counted the queries that were sent. -/
inductive Returned (m : ModuleId) (id : CorrelationId) (limit : Nat) (later : List Occurrence)
    (own : List Flight) : CallResult → Prop
  | failed (failure : Failure) (hverdict : verdict m id later = some (.error failure))
      (hnone : own = []) : Returned m id limit later own (.actuation (.error failure))
  | answered (reply : Reply) (hverdict : verdict m id later = some (.ok reply))
      (hother : ¬Acknowledges reply) (hnone : own = []) :
      Returned m id limit later own (.actuation (.ok ⟨reply, none⟩))
  | polled (reply : Reply) (c : Convergence) (hverdict : verdict m id later = some (.ok reply))
      (hacknowledges : Acknowledges reply) (hcount : own.length = c.attempts)
      (hleast : 1 ≤ c.attempts) (hmost : c.attempts ≤ max 1 limit)
      (hsent : ∀ flight ∈ own, ∃ cause, (flight.command, cause) ∈ dispatched later) :
      Returned m id limit later own (.actuation (.ok ⟨reply, some c⟩))

lemma Asked.Progress.returned {a : Asked} {m : ModuleId} {lock : Bool} {limit : Nat} {e : Desk σ}
    {later : List Occurrence} {flights : List Flight} {result : CallResult}
    (h : a.Progress limit e later (.finished result) flights) (hpurpose : a.purpose = .actuate m lock) :
    Returned a.moduleId a.id limit later (ownOf a.number flights) result := by
  have hsent := h.length_own
  obtain ⟨outcome, hverdict, hlearned, -⟩ := h.standing.stands.verdict.resolve_left (nomatch ·)
  unfold Learned at hlearned
  rw [hpurpose] at hlearned
  split at hlearned
  · rename_i hinquiry
    cases hlearned
    rw [polled_result] at hsent
    have hnone : ownOf a.number flights = [] := List.eq_nil_of_length_eq_zero hsent
    cases outcome with
    | error failure => exact .failed failure hverdict hnone
    | ok reply =>
      refine .answered reply hverdict ?_ hnone
      intro hacknowledges
      have htrim := trim_of_ending (ending_of_verdict hverdict)
      have hsome := (acknowledged_isSome htrim).mpr hacknowledges
      rw [inquiry_actuate_eq_none hinquiry] at hsome
      cases hsome
  · rename_i reply poll hinquiry
    obtain ⟨attempts, wake, hstage⟩ | ⟨c, hstage⟩ := hlearned
    · cases hstage
    · cases hstage
      obtain ⟨rfl, hsome, -, -⟩ := inquiry_eq_some hinquiry
      have htrim := trim_of_ending (ending_of_verdict hverdict)
      obtain ⟨hleast, hmost⟩ := h.tally.range c.attempts rfl
      refine .polled reply c hverdict ((acknowledged_isSome htrim).mp hsome) hsent hleast hmost ?_
      intro flight hmem
      refine (h.out flight hmem).resolve_left ?_
      intro hflight
      exact h.standing.idle flight hflight (of_decide_eq_true (List.mem_filter.mp hmem).2)

/-! ### That it ends -/

variable (send) in
/-- The call can come to its end from here, by turns of the session. -/
def Finishes (d : Desk σ) (number : Nat) (purpose : Purpose) : Prop :=
  ∃ e result, Turns send d e ∧ ⟨number, purpose, .finished result⟩ ∈ e.session.calls

variable (send) in
/-- A query is sent or lost, and its call waits for the next look at the lock. -/
lemma exists_queried {d : Desk σ} {call : Call} {reply : Reply} {poll : Poll}
    (hcall : call ∈ d.session.calls)
    (hturn : Turn send d (d.launch (.status poll.moduleId) (.query call reply poll))) :
    ∃ e wake, Turns send d e ∧ e.flight = none ∧ e.session.timing = d.session.timing ∧
      { call with stage := .polling reply poll.queried wake } ∈ e.session.calls := by
  let query : Flight := ⟨(Request.status poll.moduleId).toCommand d.session.nextId,
    .query call reply poll⟩
  let asked := d.launch (.status poll.moduleId) (.query call reply poll)
  have hasked : asked.session = { d.session with nextId := d.session.nextId.next } := rfl
  have hland : Turn send asked (asked.land send query) := .land asked query rfl
  have hbooks := sameBooks_settle asked.session query.command.id
    ((send query.command.encode).run asked.world).1
  have htiming : (asked.land send query).session.timing = d.session.timing := by
    rw [Desk.land, timing_proceed, hbooks.timing, hasked]
  rw [← show asked.session.calls = d.session.calls by rw [hasked], ← hbooks.calls] at hcall
  exact ⟨_, _, .tail (.single hturn) hland, rfl, htiming, Asked.mem_setCall_self hcall rfl⟩

variable (send) in
/-- A poll comes to its end, for every look at the lock leaves it fewer attempts. -/
lemma polling_finishes {d : Desk σ} {number : Nat} {purpose : Purpose} {reply : Reply} {poll : Poll}
    {wake : Nat} (hfree : d.flight = none)
    (hcall : ⟨number, purpose, .polling reply poll wake⟩ ∈ d.session.calls) :
    Finishes send d number purpose := by
  generalize hleft : d.session.timing.poll.maxAttempts.toNat - poll.attempts = left
  induction left using Nat.strong_induction_on generalizing d poll wake with
  | _ left ih =>
    let later : Desk σ := { d with session := { d.session with clock := max d.session.clock wake } }
    have hpass : Turn send d later := .pass d _ (Nat.le_max_left _ _)
    have hdue : wake ≤ later.session.clock := Nat.le_max_right _ _
    cases hcheck : poll.check later.session.timing.poll.maxAttempts
        (later.session.doors.door poll.moduleId).isLocked with
    | some c =>
      have hidle : ¬later.Busy ⟨number, purpose, .polling reply poll wake⟩ := by
        rintro ⟨flight, hflight, -⟩
        rw [show later.flight = none from hfree] at hflight
        cases hflight
      have hends : Turn send later _ := .check later _ reply poll wake c hcall rfl hidle hdue hcheck
      exact ⟨_, _, .tail (.single hpass) hends, Asked.mem_setCall_self hcall rfl⟩
    | none =>
      have hless := Poll.left_of_check hcheck
      have hask : Turn send later _ := .ask later _ reply poll wake hcall rfl hfree hdue hless
      obtain ⟨e, next, hturns, hnone, htiming, hqueried⟩ := exists_queried send (d := later) hcall hask
      have htiming' : e.session.timing = d.session.timing := htiming
      have hattempts : poll.queried.attempts = poll.attempts + 1 := rfl
      have hless' : poll.attempts < d.session.timing.poll.maxAttempts.toNat := hless
      have hfewer : e.session.timing.poll.maxAttempts.toNat - poll.queried.attempts < left := by
        rw [htiming', hattempts]
        omega
      obtain ⟨x, result, hlater, hfinished⟩ := ih _ hfewer hnone hqueried rfl
      exact ⟨x, result, (Relation.ReflTransGen.head hpass hturns).trans hlater, hfinished⟩

lemma Asked.Standing.finishes {a : Asked} {timing : Timing} {world : σ} {d : Desk σ}
    {later : List Occurrence} {stage : CallStage} (h : a.Standing d later stage)
    (hstart : Turns send (.start timing world) d) (hids : IdsSuffice d.log) :
    Finishes send d a.number a.purpose := by
  obtain ⟨e, later', stage', hland, hfree, h'⟩ := h.landed send
  suffices hfinishes : Finishes send e a.number a.purpose by
    obtain ⟨x, result, hturns, hfinished⟩ := hfinishes
    exact ⟨x, result, hland.turns.trans hturns, hfinished⟩
  cases stage' with
  | finished result => exact ⟨e, result, .refl, h'.call⟩
  | polling reply poll wake => exact polling_finishes send hfree h'.call
  | awaiting =>
    let due : Desk σ := { e with
      session := { e.session with clock := max e.session.clock a.deadline } }
    have hpass : Turn send e due := .pass e _ (Nat.le_max_left _ _)
    have hreached : Turns send (.start timing world) due := (hstart.trans hland.turns).tail hpass
    have hdue : a.Standing due later' .awaiting := h'.besides h'.call rfl rfl (Nat.le_refl _)
    obtain ⟨x, later'', outcome, htold, hnone, hx, hfound⟩ := hdue.told send
      (Turns.tidy hreached (hland.idsSuffice hids)) hfree (Nat.le_max_right _ _)
    have hturns : Turns send e x := .head hpass htold.turns
    cases hinquiry : inquiry a.purpose outcome with
    | none =>
      have hidle : ¬x.Busy (a.call .awaiting) := by
        rintro ⟨flight, hflight, -⟩
        rw [hnone] at hflight
        cases hflight
      have hlearn : Turn send x _ := .learn x _ outcome hx.call rfl hidle hfound hinquiry
      exact ⟨_, _, hturns.tail hlearn, Asked.mem_setCall_self hx.call rfl⟩
    | some begins =>
      obtain ⟨reply, poll⟩ := begins
      have hinquire : Turn send x _ :=
        .inquire x _ outcome reply poll hx.call rfl hnone hfound hinquiry
      obtain ⟨y, wake, hasked, hidle, -, hcall⟩ := exists_queried send hx.call hinquire
      obtain ⟨z, result, hlater, hfinished⟩ := polling_finishes send hidle hcall
      exact ⟨z, result, (hturns.trans hasked).trans hlater, hfinished⟩

/-! ### The accounts -/

/-- From `d` to `x` one command is sent on its way to lock or unlock the module, and waits in the table
for the call that sent it. -/
structure Opens (m : ModuleId) (lock : Bool) (d x : Desk σ) : Prop where
  flight : x.flight = some ⟨⟨m, d.session.nextId, ⟨"D0"⟩, if lock then "LOCK" else "UNLOCK"⟩,
    .opening ⟨d.session.called + 1, .actuate m lock, .awaiting⟩⟩
  entry : ∃ deadline alarm, x.session.pending.get? d.session.nextId =
    some ⟨⟨m, d.session.nextId, ⟨"D0"⟩, if lock then "LOCK" else "UNLOCK"⟩,
      .call (d.session.called + 1), deadline, alarm⟩
  others : ∀ id, id ≠ d.session.nextId → x.session.pending.get? id = d.session.pending.get? id

variable (send) in
/-- What a lock or unlock call that began at `d` has sent and what it returns, after `later` has occurred
and a run has sent `flights` on their way, for whomever. -/
structure Accounts (m : ModuleId) (lock : Bool) (d e : Desk σ) (flights : List Flight)
    (later : List Occurrence) (stage : CallStage) : Prop where
  once : e.session.calls.filter (fun call => call.number = d.session.called + 1) =
    [⟨d.session.called + 1, .actuate m lock, stage⟩]
  returned : ∀ result, stage = .finished result →
    Returned m d.session.nextId d.session.timing.poll.maxAttempts.toNat later
      (ownOf (d.session.called + 1) flights) result
  /-- All that it sends besides its command are queries, for a reply that acknowledges the command. -/
  queries : ∀ flight ∈ ownOf (d.session.called + 1) flights, flight.errand.requester = none ∧
    ∃ reply, verdict m d.session.nextId later = some (.ok reply) ∧ Acknowledges reply ∧
      flight.command = (Request.status reply.moduleId).toCommand flight.command.id
  few : (ownOf (d.session.called + 1) flights).length ≤
    max 1 d.session.timing.poll.maxAttempts.toNat
  ids : ordinal e.session.nextId = ordinal d.session.nextId + 1 + flights.length
  /-- Its command is the only entry that it adds, and waits no longer than the call does. -/
  entry : ∀ id entry, e.session.pending.get? id = some entry →
    d.session.pending.get? id = some entry ∨
      (id = d.session.nextId ∧ stage = .awaiting ∧ entry.requester = .call (d.session.called + 1)) ∨
      ∃ flight ∈ flights, flight.errand.caller ≠ some (d.session.called + 1) ∧
        entry.command = flight.command ∧ flight.errand.requester = some entry.requester
  freed : stage ≠ .awaiting → e.session.pending.get? d.session.nextId = none
  /-- If nobody else sends anything, the ids that were used up are those of its command and its
  queries, and the table holds nothing new when it has returned. -/
  alone : (∀ flight ∈ flights, flight.errand.caller = some (d.session.called + 1)) →
    ∀ result, stage = .finished result →
      ordinal e.session.nextId = ordinal d.session.nextId + 1 + (polledFor result).getD 0 ∧
        ∀ id entry, e.session.pending.get? id = some entry →
          d.session.pending.get? id = some entry
  ends : Finishes send e (d.session.called + 1) (.actuate m lock)

lemma opens_call {d : Desk σ} (h : Orderly d) (m : ModuleId) (lock : Bool) :
    Opens m lock d (d.call (.actuate m lock)) := by
  have hopened := h.opened (.actuate m lock)
  have hrequest : (Purpose.actuate m lock).request.toCommand d.session.nextId =
      ⟨m, d.session.nextId, ⟨"D0"⟩, if lock then "LOCK" else "UNLOCK"⟩ := by
    cases lock <;> rfl
  have hlaunch := Desk.launch_eq hopened.not_contains (Purpose.actuate m lock).request
    (.opening (begun d.session (.actuate m lock)))
  have hget := get?_enrolled_free h.free d.session.clock d.session.timing.replyTimeout
    (Purpose.actuate m lock).request (some (.call (d.session.called + 1)))
  rw [Desk.call, hlaunch]
  refine ⟨?_, ⟨d.session.clock + d.session.timing.replyTimeout, d.session.pending.nextSerial, ?_⟩, ?_⟩
  · rw [← hrequest]
    rfl
  · refine ((hget _).trans (if_pos rfl)).trans ?_
    rw [Option.map_some, entryFor, hrequest]
  · intro id hne
    exact (hget id).trans (if_neg hne)

/-- All that a run adds to the table after a call has begun are the entry of the call's command, while
the call waits, and those of commands that others have sent. -/
lemma Asked.Progress.entry {d e : Desk σ} {m : ModuleId} {lock : Bool} {limit : Nat}
    {flights : List Flight} {later : List Occurrence} {stage : CallStage}
    (h : (Asked.ofDesk d (.actuate m lock)).Progress limit e later stage flights)
    (hopens : Opens m lock d (d.call (.actuate m lock)))
    (hadds : AddsAll (d.call (.actuate m lock)) e flights)
    (hfreed : stage ≠ .awaiting → e.session.pending.get? d.session.nextId = none)
    {id : CorrelationId} {entry : PendingCommand Party}
    (hget : e.session.pending.get? id = some entry) :
    d.session.pending.get? id = some entry ∨
      (id = d.session.nextId ∧ stage = .awaiting ∧ entry.requester = .call (d.session.called + 1)) ∨
      ∃ flight ∈ flights, flight.errand.caller ≠ some (d.session.called + 1) ∧
        entry.command = flight.command ∧ flight.errand.requester = some entry.requester := by
  rcases hadds.entry id entry hget with hold | ⟨flight, hmem, hcommand, howner⟩
  · by_cases hid : id = d.session.nextId
    · subst hid
      have hawaits : stage = .awaiting := by
        by_contra hdone
        rw [hfreed hdone] at hget
        cases hget
      obtain ⟨deadline, alarm, hentry⟩ := hopens.entry
      rw [hentry, Option.some_inj] at hold
      exact .inr (.inl ⟨rfl, hawaits, hold ▸ rfl⟩)
    · rw [hopens.others id hid] at hold
      exact .inl hold
  · refine .inr (.inr ⟨flight, hmem, ?_, hcommand, howner⟩)
    intro hcaller
    have hown : flight ∈ ownOf (d.session.called + 1) flights :=
      List.mem_filter.mpr ⟨hmem, decide_eq_true hcaller⟩
    rw [(h.queries flight hown).untracked] at howner
    cases howner

/-- After any turns that follow the beginning of the call, whatever the hub answers and whoever else
uses the session. -/
theorem actuation_accounts {timing : Timing} {world : σ} {d e : Desk σ} {m : ModuleId} {lock : Bool}
    {flights : List Flight} (hstart : Turns send (.start timing world) d) (hfree : d.flight = none)
    (hcourse : Course send (d.call (.actuate m lock)) flights e) (hids : IdsSuffice e.log) :
    Opens m lock d (d.call (.actuate m lock)) ∧
      ∃ later stage, e.log = (d.call (.actuate m lock)).log ++ later ∧
        Accounts send m lock d e flights later stage := by
  have hturn : Turn send d (d.call (.actuate m lock)) := .call d _ hfree
  have hcalled : Turns send (.start timing world) (d.call (.actuate m lock)) := hstart.tail hturn
  have hreached : Turns send (.start timing world) e := hcalled.trans hcourse.turns
  have hbegan : IdsSuffice (d.call (.actuate m lock)).log :=
    hids.of_prefix (Turns.log_prefix hcourse.turns)
  have hbefore : IdsSuffice d.log := hbegan.of_prefix hturn.log_prefix
  have hopens := opens_call (Turns.orderly hstart hbefore) m lock
  obtain ⟨later, stage, hlog, h⟩ := Asked.progress_after hstart hfree hcourse hids
  have hmodule : (Asked.ofDesk d (.actuate m lock)).moduleId = m := by cases lock <;> rfl
  have hfreed : stage ≠ .awaiting → e.session.pending.get? d.session.nextId = none := by
    intro hdone
    obtain ⟨outcome, -, -, hgone⟩ := h.standing.stands.verdict.resolve_left hdone
    exact hgone
  have hordinal : ordinal e.session.nextId = ordinal d.session.nextId + 1 + flights.length := by
    have hone : Course send d [] d := .refl
    have hlength := (hone.tail hturn).ordinal hstart hbegan
    rw [launched_of_free hfree, hopens.flight] at hlength
    rw [hcourse.ordinal hcalled hids, hlength]
    rfl
  have hadds := hcourse.adds hcalled hids
  refine ⟨hopens, later, stage, hlog, ?_⟩
  constructor
  · exact h.standing.once (Turns.tidy hreached hids)
  · rintro result rfl
    have hreturned := h.returned rfl
    rw [hmodule] at hreturned
    exact hreturned
  · intro flight hmem
    obtain ⟨huntracked, hstatus⟩ := h.queries flight hmem
    rw [hmodule] at hstatus
    exact ⟨huntracked, hstatus⟩
  · exact h.tally.sent_le
  · exact hordinal
  · intro id entry hget
    exact h.entry hopens hadds hfreed hget
  · exact hfreed
  · rintro halone result rfl
    have hown : ownOf (d.session.called + 1) flights = flights :=
      List.filter_eq_self.mpr fun flight hmem => decide_eq_true (halone flight hmem)
    have hlength : (ownOf (d.session.called + 1) flights).length = (polledFor result).getD 0 :=
      h.length_own
    rw [hown] at hlength
    refine ⟨hlength ▸ hordinal, ?_⟩
    intro id entry hget
    rcases h.entry hopens hadds hfreed hget with hold | ⟨-, hawaits, -⟩ | ⟨flight, hmem, hcaller, -⟩
    · exact hold
    · cases hawaits
    · exact absurd (halone flight hmem) hcaller
  · exact h.standing.finishes hreached hids

/-- A desk whose polls ask three times at most. -/
def patientDesk : Desk Wire := .start ⟨5000, ⟨500, 3⟩⟩ .idle

/-- The call that locks `D1`, when it has come so far. -/
def locking (stage : CallStage) : Call := ⟨1, .actuate ⟨"D1"⟩ true, stage⟩

def lockReply : Reply := ⟨⟨"D1"⟩, ⟨1⟩, ⟨"D0"⟩, .unknown, "LOCK"⟩

/-- The poll that the reply leads to, after so many queries. -/
def lockPoll (attempts : Nat) : Poll := ⟨⟨"D1"⟩, .locked, true, attempts⟩

def lockQuery (id : CorrelationId) (stage : CallStage) (attempts : Nat) : Flight :=
  ⟨(Request.status ⟨"D1"⟩).toCommand id, .query (locking stage) lockReply (lockPoll attempts)⟩

def firstWait : CallStage := .polling lockReply (lockPoll 1) 500

def lastWait : CallStage := .polling lockReply (lockPoll 2) 1000

def lockResult : CallResult := .actuation (.ok ⟨lockReply, some ⟨⟨"D1"⟩, .locked, .converged, 2⟩⟩)

/-- The hub acknowledges the command, and the first query is lost. -/
def askedDesk : Desk Wire :=
  let asked := patientDesk.call (.actuate ⟨"D1"⟩ true)
  let sent := asked.land lossyLink ⟨⟨⟨"D1"⟩, ⟨1⟩, ⟨"D0"⟩, "LOCK"⟩, .opening (locking .awaiting)⟩
  let heard := sent.hear 0 "D1 FEEDBACK 1 D0 LOCK".toUTF8
  let first := heard.launch (.status ⟨"D1"⟩) (.query (locking .awaiting) lockReply (lockPoll 0))
  let lost := first.land lossyLink (lockQuery ⟨2⟩ .awaiting 0)
  { lost with session := { lost.session with clock := 500 } }

/-- The second query is sent, and before the call looks again the hub reports the lock. -/
def polledDesk : Desk Wire :=
  let second := askedDesk.launch (.status ⟨"D1"⟩) (.query (locking firstWait) lockReply (lockPoll 1))
  let sent := second.land lossyLink (lockQuery ⟨3⟩ firstWait 1)
  let reported := sent.hear 0 "D1 EVENT D0 LOCK LOCKED".toUTF8
  { reported with session := { reported.session with clock := 1000 } }

def lockedDesk : Desk Wire :=
  { polledDesk with session := polledDesk.session.finish (locking lastWait) lockResult }

lemma lockedDesk_course : Course lossyLink (patientDesk.call (.actuate ⟨"D1"⟩ true))
    [lockQuery ⟨2⟩ .awaiting 0, lockQuery ⟨3⟩ firstWait 1] lockedDesk := by
  have hasked : Course lossyLink (patientDesk.call (.actuate ⟨"D1"⟩ true))
      [lockQuery ⟨2⟩ .awaiting 0] askedDesk := by
    unfold askedDesk
    refine .quiet (.quiet (.sends (.quiet (.quiet .refl (.land _ _ ?_) rfl) (.hear _ _ _ ?_) rfl)
      (.inquire _ (locking .awaiting) (.ok lockReply) lockReply (lockPoll 0) ?_ rfl ?_ ?_ ?_) rfl)
      (.land _ _ ?_) rfl) (.pass _ 500 ?_) rfl
    · rfl
    · decide +kernel
    · decide +kernel
    · rfl
    · decide +kernel
    · decide +kernel
    · rfl
    · decide +kernel
  have hpolled : Course lossyLink (patientDesk.call (.actuate ⟨"D1"⟩ true))
      [lockQuery ⟨2⟩ .awaiting 0, lockQuery ⟨3⟩ firstWait 1] polledDesk := by
    unfold polledDesk
    refine .quiet (.quiet (.quiet (.sends hasked
      (.ask _ (locking firstWait) lockReply (lockPoll 1) 500 ?_ rfl ?_ ?_ ?_) rfl)
      (.land _ _ ?_) rfl) (.hear _ _ _ ?_) rfl) (.pass _ 1000 ?_) rfl
    · decide +kernel
    · rfl
    · decide +kernel
    · decide +kernel
    · rfl
    · decide +kernel
    · decide +kernel
  have hidle : ¬polledDesk.Busy (locking lastWait) := by
    rintro ⟨flight, hflight, -⟩
    cases hflight
  refine .quiet hpolled
    (.check polledDesk (locking lastWait) lockReply (lockPoll 2) 1000 _ ?_ rfl hidle ?_ ?_) rfl
  · decide +kernel
  · decide +kernel
  · decide +kernel

theorem actuation_accounts_polled :
    IdsSuffice lockedDesk.log ∧ lockedDesk.session.calls = [locking (.finished lockResult)] ∧
      ordinal lockedDesk.session.nextId = 4 ∧
      ∃ later stage,
        Returned ⟨"D1"⟩ ⟨1⟩ 3 later [lockQuery ⟨2⟩ .awaiting 0, lockQuery ⟨3⟩ firstWait 1] lockResult ∧
        Accounts lossyLink ⟨"D1"⟩ true patientDesk lockedDesk
          [lockQuery ⟨2⟩ .awaiting 0, lockQuery ⟨3⟩ firstWait 1] later stage := by
  have hids : IdsSuffice lockedDesk.log := by decide +kernel
  have hcalls : lockedDesk.session.calls = [locking (.finished lockResult)] := by decide +kernel
  obtain ⟨-, later, stage, -, h⟩ := actuation_accounts .refl rfl lockedDesk_course hids
  have honce := h.once
  rw [hcalls] at honce
  cases honce
  have hown : ∀ flight ∈ [lockQuery ⟨2⟩ .awaiting 0, lockQuery ⟨3⟩ firstWait 1],
      flight.errand.caller = some 1 := by
    simp [lockQuery, Errand.caller, locking]
  exact ⟨hids, hcalls, (h.alone hown lockResult rfl).1, later, _, h.returned lockResult rfl, h⟩

end HubBridge.Proofs
