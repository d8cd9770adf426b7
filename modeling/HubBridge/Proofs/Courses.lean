import HubBridge.Proofs.TurnEffects

/-!
# The commands of a run

A `Course` is a run that keeps record of the commands which it sends on their way, and on whose account.
They are all that got an id on the way, and no entry is new but theirs.
-/

namespace HubBridge.Proofs

variable {σ : Type} {send : Link (StateM σ)}

/-- The command that a turn sends on its way. -/
def launched (d e : Desk σ) : Option Flight := if d.flight.isNone then e.flight else none

variable (send) in
/-- Turns from one desk to another, and the commands that they send on their way, oldest first. -/
inductive Course (d : Desk σ) : List Flight → Desk σ → Prop
  | refl : Course d [] d
  | tail {flights : List Flight} {x y : Desk σ} (hcourse : Course d flights x)
      (hturn : Turn send x y) : Course d (flights ++ (launched x y).toList) y

lemma Course.turns {d e : Desk σ} {flights : List Flight} (h : Course send d flights e) :
    Turns send d e := by
  induction h with
  | refl => exact .refl
  | tail _ hturn ih => exact ih.tail hturn

lemma Course.quiet {d x y : Desk σ} {flights : List Flight} (h : Course send d flights x)
    (hturn : Turn send x y) (hnone : launched x y = none) : Course send d flights y := by
  have htail := h.tail hturn
  rwa [hnone, Option.toList_none, List.append_nil] at htail

lemma Course.sends {d x y : Desk σ} {flights : List Flight} {flight : Flight}
    (h : Course send d flights x) (hturn : Turn send x y) (hsome : launched x y = some flight) :
    Course send d (flights ++ [flight]) y := by
  have htail := h.tail hturn
  rwa [hsome, Option.toList_some] at htail

lemma Turns.course {d e : Desk σ} (h : Turns send d e) : ∃ flights, Course send d flights e := by
  induction h with
  | refl => exact ⟨[], .refl⟩
  | tail _ hturn ih =>
    obtain ⟨flights, hcourse⟩ := ih
    exact ⟨_, hcourse.tail hturn⟩

/-! ### One turn -/

/-- All that a turn adds to the commands that have an id and to those that wait is the command that it
sends on its way. -/
structure Adds (d e : Desk σ) : Prop where
  timing : e.session.timing = d.session.timing
  issued : issued e.log = issued d.log ++ ((launched d e).map Flight.command).toList
  entry : ∀ id entry, e.session.pending.get? id = some entry →
    d.session.pending.get? id = some entry ∨ ∃ flight, launched d e = some flight ∧
      entry.command = flight.command ∧ flight.errand.requester = some entry.requester

lemma launched_eq_none {d e : Desk σ} (h : e.flight = d.flight ∨ e.flight = none) :
    launched d e = none := by
  unfold launched
  split
  · rename_i hfree
    rcases h with h | h
    · rw [h]
      exact Option.isNone_iff_eq_none.mp hfree
    · exact h
  · rfl

lemma launched_of_free {d e : Desk σ} (hfree : d.flight = none) : launched d e = e.flight := by
  rw [launched, hfree]
  rfl

/-- A turn that sends nothing on its way. -/
lemma adds_nothing {d e : Desk σ} (htiming : e.session.timing = d.session.timing)
    (hissued : Proofs.issued e.log = Proofs.issued d.log) (hflight : e.flight = d.flight ∨ e.flight = none)
    (hfewer : Fewer d.session.pending e.session.pending) : Adds d e where
  timing := htiming
  issued := by
    rw [launched_eq_none hflight, hissued]
    exact (List.append_nil _).symm
  entry id entry hget := .inl (hfewer.entry id entry hget)

lemma Orderly.adds_launch {d : Desk σ} (h : Orderly d) (hfree : d.flight = none)
    (request : Request) (errand : Errand) : Adds d (d.launch request errand) := by
  have hlaunched : launched d (d.launch request errand) =
      some ⟨request.toCommand d.session.nextId, errand⟩ := by
    rw [launched_of_free hfree, Desk.launch_eq h.not_contains]
  constructor
  · rw [Desk.launch_eq h.not_contains]
  · rw [hlaunched, Desk.launch_log, issued_append]
    rfl
  · intro id entry hget
    rw [Desk.launch_eq h.not_contains] at hget
    dsimp only at hget
    rw [get?_enrolled_free h.free] at hget
    split at hget
    · obtain ⟨party, hparty, rfl⟩ := Option.map_eq_some_iff.mp hget
      exact .inr ⟨_, hlaunched, rfl, hparty⟩
    · exact .inl hget

lemma timing_proceed (s : Session) (result : Except Failure CorrelationId) (errand : Errand) :
    (errand.proceed s result).timing = s.timing := by
  cases errand with
  | submission observer => rfl
  | opening call => cases result <;> rfl
  | query call reply poll => rfl

lemma Turn.adds {d e : Desk σ} (hturn : Turn send d e) (h : Orderly d) : Adds d e := by
  cases hturn with
  | connect =>
    exact adds_nothing rfl ((issued_append _ _).trans (List.append_nil _)) (.inl rfl) .rfl
  | disconnect id => exact adds_nothing rfl rfl (.inl rfl) .rfl
  | shutdown => exact adds_nothing rfl rfl (.inl rfl) .rfl
  | pass time htime => exact adds_nothing rfl rfl (.inl rfl) .rfl
  | hear time bytes hlistens =>
    refine adds_nothing ?_ ((issued_append _ _).trans (List.append_nil _)) (.inl rfl) ?_
    · unfold Desk.hear
      rw [handle_eq]
    · unfold Desk.hear
      rw [handle_eq]
      exact replied_fewer _ _
  | ring alarm hset hdue =>
    have hpending : (d.ring alarm).session.pending = (d.session.pending.ring alarm).1 :=
      (pending_tell _ _).1
    refine adds_nothing (sameBooks_rung _ _).timing
      ((issued_append _ _).trans (List.append_nil _)) (.inl rfl) ?_
    rw [hpending]
    exact (ring_takesOut _ _).fewer
  | write text hfree =>
    exact adds_nothing rfl ((issued_append _ _).trans (List.append_nil _)) (.inl rfl) .rfl
  | submit request observer hfree => exact h.adds_launch hfree request _
  | call purpose hfree =>
    have hopened := h.opened purpose
    have hadds := hopened.adds_launch hfree purpose.request (.opening (begun d.session purpose))
    exact ⟨hadds.timing, hadds.issued, hadds.entry⟩
  | land flight hflight =>
    refine adds_nothing ?_ ((issued_append _ _).trans (List.append_nil _)) (.inr rfl) ?_
    · exact (timing_proceed _ _ _).trans (sameBooks_settle _ _ _).timing
    · unfold Desk.land
      rw [(pending_proceed _ _ _).1]
      exact (pending_settle _ _ _).1
  | learn call outcome hcall hstage hbusy houtcome hends =>
    exact adds_nothing rfl rfl (.inl rfl) .rfl
  | inquire call outcome reply poll hcall hstage hfree houtcome hpolls =>
    exact h.adds_launch hfree _ _
  | ask call reply poll wake hcall hstage hfree hdue hleft => exact h.adds_launch hfree _ _
  | check call reply poll wake c hcall hstage hbusy hdue hcheck =>
    exact adds_nothing rfl rfl (.inl rfl) .rfl

/-- A query asks the module that its poll is about. -/
lemma Turn.query {d e : Desk σ} (hturn : Turn send d e) (h : Orderly d) {flight : Flight} {call : Call}
    {reply : Reply} {poll : Poll} (hlaunched : launched d e = some flight)
    (herrand : flight.errand = .query call reply poll) :
    flight.command = (Request.status poll.moduleId).toCommand flight.command.id := by
  have quiet : ¬(e.flight = d.flight ∨ e.flight = none) := by
    intro hflight
    rw [launched_eq_none hflight] at hlaunched
    cases hlaunched
  have launch : ∀ {x : Desk σ} request errand, Orderly x → x.flight = none → d.flight = none →
      e.flight = (x.launch request errand).flight →
      flight = ⟨request.toCommand x.session.nextId, errand⟩ := by
    intro x request errand hx hfree hd heq
    rw [launched_of_free hd, heq, Desk.launch_eq hx.not_contains] at hlaunched
    exact (Option.some.inj hlaunched).symm
  cases hturn with
  | connect => exact absurd (.inl rfl) quiet
  | disconnect id => exact absurd (.inl rfl) quiet
  | shutdown => exact absurd (.inl rfl) quiet
  | pass time htime => exact absurd (.inl rfl) quiet
  | hear time bytes hlistens => exact absurd (.inl rfl) quiet
  | ring alarm hset hdue => exact absurd (.inl rfl) quiet
  | write text hfree => exact absurd (.inl rfl) quiet
  | submit request observer hfree =>
    rw [launch request _ h hfree hfree rfl] at herrand
    cases herrand
  | call purpose hfree =>
    have hopened := h.opened purpose
    rw [launch purpose.request _ hopened hfree hfree rfl] at herrand
    cases herrand
  | land flight hflight => exact absurd (.inr rfl) quiet
  | learn call outcome hcall hstage hbusy houtcome hends => exact absurd (.inl rfl) quiet
  | inquire call outcome reply poll hcall hstage hfree houtcome hpolls =>
    obtain rfl := launch _ _ h hfree hfree rfl
    cases herrand
    rfl
  | ask call reply poll wake hcall hstage hfree hdue hleft =>
    obtain rfl := launch _ _ h hfree hfree rfl
    cases herrand
    rfl
  | check call reply poll wake c hcall hstage hbusy hdue hcheck => exact absurd (.inl rfl) quiet

/-- What is on its way stays so until it is sent or lost. -/
lemma Turn.flight {d e : Desk σ} (hturn : Turn send d e) {flight : Flight}
    (hflight : d.flight = some flight) :
    e.flight = some flight ∨ ∃ cause, e.log = d.log ++ [.sent flight.command cause] := by
  have busy : d.flight ≠ none := by
    rw [hflight]
    exact Option.some_ne_none _
  cases hturn.deed with
  | aside haside => exact .inl (haside.flight.trans hflight)
  | answer time bytes id event hreply hends => exact .inl (hends.flight.trans hflight)
  | ring alarm hset hends => exact .inl (hends.flight.trans hflight)
  | launch request errand hfree hopens hasks => exact absurd hfree busy
  | call purpose hfree => exact absurd hfree busy
  | land other hother =>
    rw [hflight, Option.some_inj] at hother
    subst hother
    exact .inr ⟨_, rfl⟩
  | finish call result hconcludes => exact .inl hflight

/-! ### The whole run -/

lemma mem_append_toList {flights : List Flight} {flight : Flight} {found : Option Flight} :
    flight ∈ flights ++ found.toList ↔ flight ∈ flights ∨ found = some flight := by
  rw [List.mem_append, Option.mem_toList]

variable {timing : Timing} {world : σ} {d e : Desk σ} {flights : List Flight}

/-- All that a run adds to the commands that have an id and to those that wait are the commands that it
sends on their way. -/
structure AddsAll (d e : Desk σ) (flights : List Flight) : Prop where
  timing : e.session.timing = d.session.timing
  issued : issued e.log = issued d.log ++ flights.map Flight.command
  entry : ∀ id entry, e.session.pending.get? id = some entry →
    d.session.pending.get? id = some entry ∨ ∃ flight ∈ flights,
      entry.command = flight.command ∧ flight.errand.requester = some entry.requester

theorem Course.adds (h : Course send d flights e) (hstart : Turns send (.start timing world) d)
    (hids : IdsSuffice e.log) : AddsAll d e flights := by
  induction h with
  | refl => exact ⟨rfl, (List.append_nil _).symm, fun _ _ hget => .inl hget⟩
  | @tail flights x y hcourse hturn ih =>
    have hearlier : IdsSuffice x.log := hids.of_prefix hturn.log_prefix
    have hall := ih hearlier
    have hone := hturn.adds (Turns.orderly (hstart.trans hcourse.turns) hearlier)
    constructor
    · exact hone.timing.trans hall.timing
    · rw [hone.issued, hall.issued, List.append_assoc, List.map_append]
      cases launched x y <;> rfl
    · intro id entry hget
      rcases hone.entry id entry hget with hold | ⟨flight, hlaunched, howner⟩
      · rcases hall.entry id entry hold with hold | ⟨flight, hmem, howner⟩
        · exact .inl hold
        · exact .inr ⟨flight, mem_append_toList.mpr (.inl hmem), howner⟩
      · exact .inr ⟨flight, mem_append_toList.mpr (.inr hlaunched), howner⟩

/-- The counter has gone on by one for each of them. -/
lemma Course.ordinal (h : Course send d flights e) (hstart : Turns send (.start timing world) d)
    (hids : IdsSuffice e.log) :
    ordinal e.session.nextId = ordinal d.session.nextId + flights.length := by
  have hearlier : IdsSuffice d.log := hids.of_prefix (Turns.log_prefix h.turns)
  have hd := Turns.orderly hstart hearlier
  have he := Turns.orderly (hstart.trans h.turns) hids
  rw [he.next, hd.next, (h.adds hstart hids).issued, List.length_append, List.length_map]
  omega

end HubBridge.Proofs
