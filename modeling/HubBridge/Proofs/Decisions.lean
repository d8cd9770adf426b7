import HubBridge.Proofs.CallStanding
import HubBridge.Proofs.ObserverStreams

/-!
# What decides a command

A reply, an alarm and the loss of the datagram race for the entry of a command. Along any run, the first
of them takes the entry out and is told to whoever asked, and the others find nothing. Here this is
read off the log: `decides` picks out what can end a command, and an observer is told just once.
-/

namespace HubBridge.Proofs

variable {σ : Type} {send : Link (StateM σ)}

/-! ### What decides a command -/

/-- The occurrence ends the command of the id, if that still waits. -/
def decides (id : CorrelationId) (x : Occurrence) : Bool := (tidings x).any fun t => t.1 = id

lemma decides_eq_true {id : CorrelationId} {x : Occurrence} (h : decides id x = true) :
    ∃ event, tidings x = some (id, event) := by
  unfold decides at h
  cases hx : tidings x with
  | none =>
    rw [hx] at h
    cases h
  | some t =>
    rw [hx] at h
    obtain rfl : t.1 = id := of_decide_eq_true h
    exact ⟨t.2, rfl⟩

lemma decides_of_tidings {id other : CorrelationId} {x : Occurrence}
    {event : PendingCommand Party → Event} (h : tidings x = some (other, event)) :
    decides id x = decide (other = id) := by
  rw [decides, h, Option.any_some]

lemma tidings_of_silent {x : Occurrence} (h : Silent x) : tidings x = none := by
  cases x with
  | heard time bytes =>
    have hnone : replyEvent (.ofDatagram bytes) = none := h
    rw [tidings, hnone]
    rfl
  | rang alarm => cases h
  | joined newcomer => rfl
  | issued command => rfl
  | sent command cause => cases h
  | wrote text cause => rfl

/-- Either nothing that occurs in a turn decides the command, whose entry stays as it is, or the turn
is just what decides it, and the entry is gone. -/
inductive Decided (id : CorrelationId) (d e : Desk σ) : Prop
  | not (hnone : ∀ x ∈ occurred d e, decides id x = false)
      (hget : e.session.pending.get? id = d.session.pending.get? id) : Decided id d e
  | now (x : Occurrence) (hoccurred : occurred d e = [x]) (hdecides : decides id x = true)
      (hgone : e.session.pending.get? id = none) : Decided id d e

lemma decided_of_silence {d e : Desk σ} {id : CorrelationId}
    (hnone : ∀ x ∈ occurred d e, tidings x = none)
    (hget : e.session.pending.get? id = d.session.pending.get? id) : Decided id d e := by
  refine .not ?_ hget
  intro x hx
  rw [decides, hnone x hx]
  rfl

lemma decided_of_tidings {d e : Desk σ} {id other : CorrelationId} {x : Occurrence}
    {event : PendingCommand Party → Event} (hoccurred : occurred d e = [x])
    (hx : tidings x = some (other, event)) (hget : e.session.pending.get? id =
      if id = other then none else d.session.pending.get? id) : Decided id d e := by
  have hdecides : decides id x = decide (other = id) := decides_of_tidings hx
  by_cases hid : id = other
  · rw [if_pos hid] at hget
    exact .now x hoccurred (hdecides.trans (decide_eq_true hid.symm)) hget
  · rw [if_neg hid] at hget
    refine .not ?_ hget
    intro y hy
    rw [hoccurred, List.mem_singleton] at hy
    rw [hy, hdecides]
    exact decide_eq_false (Ne.symm hid)

lemma decided_launch {d : Desk σ} (h : Orderly d) {id : CorrelationId}
    (hid : id ≠ d.session.nextId) (request : Request) (errand : Errand) :
    Decided id d (d.launch request errand) := by
  apply decided_of_silence
  · intro x hx
    rw [occurred_eq (Desk.launch_log d request errand), List.mem_singleton] at hx
    rw [hx]
    rfl
  · rw [Desk.launch_eq h.not_contains]
    exact (get?_enrolled_free h.free _ _ _ _ _).trans (if_neg hid)

lemma decided_land (d : Desk σ) (flight : Flight) (id : CorrelationId) :
    Decided id d (d.land send flight) := by
  have hoccurred : occurred d (d.land send flight) = _ := occurred_eq rfl
  have hpending : (d.land send flight).session.pending = (d.session.settle flight.command.id
      ((send flight.command.encode).run d.world).1).1.pending := (pending_proceed _ _ _).1
  generalize ((send flight.command.encode).run d.world).1 = answer at hoccurred hpending
  cases answer with
  | none =>
    apply decided_of_silence
    · intro x hx
      rw [hoccurred, List.mem_singleton] at hx
      rw [hx]
      rfl
    · rw [hpending]
      rfl
  | some cause =>
    apply decided_of_tidings hoccurred rfl
    rw [hpending, settle_lost]
    exact (fail_takesOut _ _ _).get? id

lemma Turn.decided {d e : Desk σ} (hturn : Turn send d e) (h : Orderly d) {id : CorrelationId}
    (hid : ordinal id < ordinal d.session.nextId) : Decided id d e := by
  have hne : id ≠ d.session.nextId := by
    rintro rfl
    exact Nat.lt_irrefl _ hid
  cases hturn.deed with
  | aside haside =>
    obtain ⟨later, hlog, hsilent⟩ := haside.log
    apply decided_of_silence
    · intro x hx
      rw [occurred_eq hlog] at hx
      exact tidings_of_silent (hsilent x hx)
    · rw [haside.pending]
  | answer time bytes other event hreply hends =>
    have htidings : tidings (.heard time bytes) = some (other, fun _ => event) := by
      rw [tidings, hreply]
      rfl
    exact decided_of_tidings (occurred_eq hends.log) htidings (hends.get? id)
  | ring alarm hset hends => exact decided_of_tidings (occurred_eq hends.log) rfl (hends.get? id)
  | launch request errand hfree hopens hasks => exact decided_launch h hne request errand
  | call purpose hfree =>
    have hopened := h.opened purpose
    have hlaunched : Decided id { d with session := opened d.session purpose } (d.call purpose) :=
      decided_launch hopened hne purpose.request _
    -- the table and the log are those of `d`
    cases hlaunched with
    | not hnone hget => exact .not hnone hget
    | now x hoccurred hdecides hgone => exact .now x hoccurred hdecides hgone
  | land flight hflight => exact decided_land d flight id
  | finish call result hconcludes =>
    refine decided_of_silence ?_ rfl
    have hnone : occurred d { d with session := d.session.finish call result } = [] :=
      occurred_eq (List.append_nil _).symm
    rw [hnone]
    intro x hx
    cases hx

/-! ### What is told of one command -/

/-- What an observer is told of how the command of an id ends. -/
def outcomesOf (id : CorrelationId) (rs : List Reception) : List Reception :=
  rs.filter fun r => r.outcomeId? = some id

lemma outcomesOf_append (id : CorrelationId) (rs rs' : List Reception) :
    outcomesOf id (rs ++ rs') = outcomesOf id rs ++ outcomesOf id rs' := List.filter_append _ _

lemma outcomesOf_broadcasts (id : CorrelationId) (events : List Event) :
    outcomesOf id (events.map .broadcast) = [] := by
  apply List.filter_eq_nil_iff.mpr
  intro r hr
  obtain ⟨e, -, rfl⟩ := List.mem_map.mp hr
  simp [Reception.outcomeId?]

lemma summons_eq_some {p : Pending Party} {x : Occurrence} {c : CorrelationId × Delivery Party}
    (h : summons p x = some c) : decides c.1 x = true ∧ (p.get? c.1).isSome = true := by
  obtain ⟨t, ht, hending⟩ := Option.bind_eq_some_iff.mp h
  obtain ⟨ending, hget, rfl⟩ := Option.map_eq_some_iff.mp hending
  refine ⟨?_, ?_⟩
  · rw [decides_of_tidings ht]
    exact decide_eq_true rfl
  · rw [(endingOf_eq_some.mp hget).1]
    rfl

/-- Nothing is told of a command that is not decided or does not wait. -/
lemma outcomesOf_eq_nil {id : CorrelationId} {p : Pending Party} {x : Occurrence}
    (h : decides id x = false ∨ p.get? id = none) (observer : ObserverId) :
    outcomesOf id (receptionsOf observer p x) = [] := by
  unfold receptionsOf
  rw [outcomesOf_append, outcomesOf_broadcasts, List.append_nil]
  apply List.filter_eq_nil_iff.mpr
  intro r hr hid
  obtain ⟨c, hc, rfl⟩ := Option.map_eq_some_iff.mp (Option.mem_toList.mp hr)
  obtain ⟨hdecides, hwaits⟩ := summons_eq_some (Option.filter_eq_some_iff.mp hc).1
  obtain rfl : c.1 = id := Option.some.inj (of_decide_eq_true hid)
  rcases h with hnot | hnone
  · rw [hnot] at hdecides
    cases hdecides
  · rw [hnone] at hwaits
    cases hwaits

lemma outcomesOf_eq_singleton {id : CorrelationId} {p : Pending Party} {x : Occurrence}
    {event : PendingCommand Party → Event} {entry : PendingCommand Party} {observer : ObserverId}
    (hx : tidings x = some (id, event)) (hget : p.get? id = some entry)
    (howner : entry.requester = .observer observer) :
    outcomesOf id (receptionsOf observer p x) = [.outcome id (event entry)] := by
  have hsummons : summons p x = some (id, ⟨entry.requester, event entry⟩) := by
    rw [summons, hx, Option.bind_some, endingOf, hget]
    rfl
  unfold receptionsOf
  rw [outcomesOf_append, outcomesOf_broadcasts, List.append_nil, hsummons, Option.filter_some,
    if_pos (decide_eq_true howner)]
  exact List.filter_cons_of_pos (decide_eq_true rfl)

lemma outcomesOf_flatMap_nil {id : CorrelationId} {p : Pending Party} {log : List Occurrence}
    (h : (∀ x ∈ log, decides id x = false) ∨ p.get? id = none) (observer : ObserverId) :
    outcomesOf id (log.flatMap (receptionsOf observer p)) = [] := by
  rw [outcomesOf, List.filter_flatMap]
  apply List.flatMap_eq_nil_iff.mpr
  intro x hx
  exact outcomesOf_eq_nil (h.imp_left fun hnone => hnone x hx) observer

/-- What the observer is told if this comes first for its command. -/
def toldOf (id : CorrelationId) (entry : PendingCommand Party) (first : Option Occurrence) :
    List Reception :=
  ((first.bind tidings).map fun t => Reception.outcome id (t.2 entry)).toList

lemma find?_eq_none_of_undecided {id : CorrelationId} {log : List Occurrence}
    (h : ∀ x ∈ log, decides id x = false) : log.find? (decides id) = none := by
  apply List.find?_eq_none.mpr
  intro x hx
  rw [h x hx]
  exact Bool.false_ne_true

/-- A turn tells an observer of its command, which waits, if it decides the command. -/
lemma Decided.outcomes {d e : Desk σ} {id : CorrelationId} (h : Decided id d e)
    {entry : PendingCommand Party} {observer : ObserverId}
    (hget : d.session.pending.get? id = some entry) (howner : entry.requester = .observer observer) :
    outcomesOf id (receptions observer d e) =
      toldOf id entry ((occurred d e).find? (decides id)) := by
  unfold receptions
  cases h with
  | not hnone hsame =>
    rw [outcomesOf_flatMap_nil (.inl hnone), find?_eq_none_of_undecided hnone]
    rfl
  | now x hoccurred hdecides hgone =>
    obtain ⟨event, hx⟩ := decides_eq_true hdecides
    rw [hoccurred, List.flatMap_singleton, outcomesOf_eq_singleton hx hget howner,
      List.find?_cons_of_pos hdecides, toldOf, Option.bind_some, hx]
    rfl

lemma happenings_of_turns {d : Desk σ} {run : List (Desk σ)}
    (hrun : (d :: run).IsChain (Turn send)) : (d :: run).IsChain (Happening send) :=
  hrun.imp fun _ _ hturn => .turn hturn

lemma turns_of_isChain {d : Desk σ} {run : List (Desk σ)} (hrun : (d :: run).IsChain (Turn send)) :
    Turns send d (run.getLastD d) := by
  induction run generalizing d with
  | nil => exact .refl
  | cons e run ih =>
    obtain ⟨hturn, hrest⟩ := List.isChain_cons_cons.mp hrun
    rw [List.getLastD_cons]
    exact .head hturn (ih hrest)

section Run

variable {timing : Timing} {world : σ} {d : Desk σ} {run : List (Desk σ)} {id : CorrelationId}

/-- What is known of a desk of a run, and of the id of a command that was launched before. -/
lemma decided_of_isChain {e : Desk σ} (hstart : Turns send (.start timing world) d)
    (hrun : (d :: e :: run).IsChain (Turn send)) (hids : IdsSuffice (run.getLastD e).log)
    (hid : ordinal id < ordinal d.session.nextId) :
    Turns send (.start timing world) e ∧ ordinal id < ordinal e.session.nextId ∧
      Decided id d e := by
  obtain ⟨hturn, hrest⟩ := List.isChain_cons_cons.mp hrun
  have hlater : IdsSuffice e.log := hids.of_prefix (log_of_isChain (happenings_of_turns hrest))
  have hreached : Turns send (.start timing world) e := hstart.tail hturn
  have horderly : Orderly d := Turns.orderly hstart (hlater.of_prefix hturn.log_prefix)
  refine ⟨hreached, Nat.lt_of_lt_of_le hid ?_, hturn.decided horderly hid⟩
  exact Asked.ordinal_nextId_le horderly (Turns.orderly hreached hlater) hturn.log_prefix

/-- A command that has ended does not wait again. -/
lemma get?_gone (hstart : Turns send (.start timing world) d) (hrun : (d :: run).IsChain (Turn send))
    (hids : IdsSuffice (run.getLastD d).log) (hid : ordinal id < ordinal d.session.nextId)
    (hgone : d.session.pending.get? id = none) :
    (run.getLastD d).session.pending.get? id = none := by
  induction run generalizing d with
  | nil => exact hgone
  | cons e run ih =>
    rw [List.getLastD_cons] at hids ⊢
    obtain ⟨hreached, hless, hdecided⟩ := decided_of_isChain hstart hrun hids hid
    apply ih hreached (List.isChain_cons_cons.mp hrun).2 hids hless
    cases hdecided with
    | not hnone hget => rw [hget, hgone]
    | now x hoccurred hdecides hend => exact hend

/-- A command that waits does so till it is decided. -/
lemma get?_waiting (hstart : Turns send (.start timing world) d)
    (hrun : (d :: run).IsChain (Turn send)) (hids : IdsSuffice (run.getLastD d).log)
    (hid : ordinal id < ordinal d.session.nextId) {entry : PendingCommand Party}
    (hget : d.session.pending.get? id = some entry) :
    (run.getLastD d).session.pending.get? id =
      if ((occurred d (run.getLastD d)).find? (decides id)).isSome then none else some entry := by
  induction run generalizing d with
  | nil =>
    have hnone : occurred d d = [] := occurred_eq (List.append_nil _).symm
    rw [List.getLastD_nil, hnone]
    exact hget
  | cons e run ih =>
    rw [List.getLastD_cons] at hids ⊢
    obtain ⟨hturn, hrest⟩ := List.isChain_cons_cons.mp hrun
    obtain ⟨hreached, hless, hdecided⟩ := decided_of_isChain hstart hrun hids hid
    rw [occurred_trans hturn.log_prefix (log_of_isChain (happenings_of_turns hrest)),
      List.find?_append]
    cases hdecided with
    | not hnone hsame =>
      rw [find?_eq_none_of_undecided hnone, Option.none_or]
      exact ih hreached hrest hids hless (hsame.trans hget)
    | now x hoccurred hdecides hgone =>
      rw [hoccurred, List.find?_cons_of_pos hdecides, Option.some_or]
      exact get?_gone hreached hrest hids hless hgone

/-- A command that has ended is not told of again. -/
lemma outcomesOf_gone (hstart : Turns send (.start timing world) d)
    (hrun : (d :: run).IsChain (Turn send)) (hids : IdsSuffice (run.getLastD d).log)
    (hid : ordinal id < ordinal d.session.nextId) (hgone : d.session.pending.get? id = none)
    (observer : ObserverId) : outcomesOf id (receptionsAlong observer d run) = [] := by
  induction run generalizing d with
  | nil => rfl
  | cons e run ih =>
    rw [List.getLastD_cons] at hids
    obtain ⟨hreached, hless, hdecided⟩ := decided_of_isChain hstart hrun hids hid
    have hstill : e.session.pending.get? id = none := by
      cases hdecided with
      | not hnone hget => rw [hget, hgone]
      | now x hoccurred hdecides hend => exact hend
    have hlater := ih hreached (List.isChain_cons_cons.mp hrun).2 hids hless hstill
    rw [receptionsAlong, outcomesOf_append, hlater, receptions, outcomesOf_flatMap_nil (.inr hgone)]
    rfl

/-- A command that waits is told of when it is decided, once. -/
lemma outcomesOf_waiting (hstart : Turns send (.start timing world) d)
    (hrun : (d :: run).IsChain (Turn send)) (hids : IdsSuffice (run.getLastD d).log)
    (hid : ordinal id < ordinal d.session.nextId) {entry : PendingCommand Party}
    (hget : d.session.pending.get? id = some entry) {observer : ObserverId}
    (howner : entry.requester = .observer observer) :
    outcomesOf id (receptionsAlong observer d run) =
      toldOf id entry ((occurred d (run.getLastD d)).find? (decides id)) := by
  induction run generalizing d with
  | nil =>
    have hnone : occurred d d = [] := occurred_eq (List.append_nil _).symm
    rw [List.getLastD_nil, hnone]
    rfl
  | cons e run ih =>
    rw [List.getLastD_cons] at hids ⊢
    obtain ⟨hturn, hrest⟩ := List.isChain_cons_cons.mp hrun
    obtain ⟨hreached, hless, hdecided⟩ := decided_of_isChain hstart hrun hids hid
    rw [occurred_trans hturn.log_prefix (log_of_isChain (happenings_of_turns hrest)),
      List.find?_append, receptionsAlong, outcomesOf_append, hdecided.outcomes hget howner]
    cases hdecided with
    | not hnone hsame =>
      rw [find?_eq_none_of_undecided hnone, Option.none_or,
        ih hreached hrest hids hless (hsame.trans hget)]
      rfl
    | now x hoccurred hdecides hgone =>
      rw [hoccurred, List.find?_cons_of_pos hdecides, Option.some_or,
        outcomesOf_gone hreached hrest hids hless hgone observer, List.append_nil]

end Run

/-! ### A reply -/

lemma feedback_of_replyEvent {message : Message} {id : CorrelationId} {event : Event}
    (h : replyEvent message = some (id, event)) :
    ∃ m target status rawAction raw, event = .commandFeedback m id target status rawAction raw := by
  cases message with
  | feedback m other target rawAction raw =>
    cases h
    exact ⟨_, _, _, _, _, rfl⟩
  | event m target rawEvent raw => cases h
  | heartbeat m raw => cases h
  | hello m raw => cases h
  | raw raw => cases h

lemma ne_commandError_of_published {message : Message} {e : Event} (h : e ∈ publications message)
    (m : ModuleId) (id : CorrelationId) (kind : FailureKind) (text : String) :
    e ≠ .commandError m id kind text := by
  rintro rfl
  cases message <;> simp [publications] at h

/-- An observer that was told just this of its command was told of no error. -/
lemma Receives.no_error {d e : Desk σ} {observer : ObserverId} {rs : List Reception}
    {ids : List CorrelationId} (h : Receives observer d e rs ids) {id : CorrelationId} {event : Event}
    (hout : outcomesOf id rs = [.outcome id event])
    (hevent : ∀ m kind text, event ≠ .commandError m id kind text) (m : ModuleId)
    (kind : FailureKind) (text : String) : .commandError m id kind text ∉ rs.map Reception.event := by
  intro hmem
  obtain ⟨r, hr, hevents⟩ := List.mem_map.mp hmem
  cases r with
  | outcome other e =>
    obtain rfl : e = .commandError m id kind text := hevents
    obtain rfl : other = id := by
      cases h.terminal other _ hr
      rfl
    have hown : Reception.outcome other (.commandError m other kind text) ∈ outcomesOf other rs :=
      List.mem_filter.mpr ⟨hr, decide_eq_true rfl⟩
    rw [hout, List.mem_singleton] at hown
    exact hevent m kind text (Reception.outcome.inj hown).2.symm
  | broadcast e =>
    obtain rfl : e = .commandError m id kind text := hevents
    have hpublished : Event.commandError m id kind text ∈ rs.filterMap Reception.broadcast? :=
      List.mem_filterMap.mpr ⟨_, hr, rfl⟩
    rw [h.broadcasts] at hpublished
    obtain ⟨heard, -, hmessage⟩ := List.mem_flatMap.mp hpublished
    exact ne_commandError_of_published hmessage m id kind text rfl

lemma endingOf?_of_undecided {id : CorrelationId} {x : Occurrence} (h : decides id x = false)
    (m : ModuleId) : endingOf? m id x = none := by
  cases x with
  | heard time bytes =>
    rw [endingOf?, answer_eq]
    cases hreply : replyEvent (.ofDatagram bytes) with
    | none => rfl
    | some reply =>
      have htidings : tidings (.heard time bytes) = some (reply.1, fun _ => reply.2) := by
        rw [tidings, hreply]
        rfl
      rw [decides_of_tidings htidings] at h
      exact if_neg (of_decide_eq_false h)
  | rang alarm =>
    rw [decides_of_tidings rfl] at h
    exact if_neg (of_decide_eq_false h)
  | joined newcomer => rfl
  | issued command => rfl
  | sent command cause => rfl
  | wrote text cause => rfl

/-- If a reply is what comes first, the command ends with it. -/
lemma ending?_of_first {id : CorrelationId} {log : List Occurrence} {time : Int} {bytes : ByteArray}
    {event : Event} {outcome : Outcome} (hfirst : log.find? (decides id) = some (.heard time bytes))
    (hreply : replyEvent (.ofDatagram bytes) = some (id, event))
    (houtcome : event.outcome? = some outcome) (m : ModuleId) : ending? m id log = some outcome := by
  obtain ⟨-, before, after, rfl, hbefore⟩ := List.find?_eq_some_iff_append.mp hfirst
  have hnone : ending? m id before = none := by
    apply List.findSome?_eq_none_iff.mpr
    intro x hx
    have hnot := hbefore x hx
    rw [Bool.not_eq_true'] at hnot
    exact endingOf?_of_undecided hnot m
  have hanswer : endingOf? m id (.heard time bytes) = some outcome := by
    rw [endingOf?, answer_eq, hreply, Option.bind_some, ← houtcome]
    exact if_pos rfl
  rw [ending?_append, hnone, Option.none_or, ending?, List.findSome?_cons, hanswer]

end HubBridge.Proofs
