import HubBridge.Proofs.Decisions
import HubBridge.Proofs.OneResult

/-!
# Sends that fail

A command has its id and its entry before its datagram is offered to the link. If the link refuses the
datagram, the entry is taken out again and its requester is told. So the session is as it was before,
but for the id that is used up; and if a reply has taken the entry out meanwhile, there is nothing left
to tell.
-/

namespace HubBridge.Proofs

variable {σ : Type} {send : Link (StateM σ)}

/-! ### The link -/

variable (send) in
/-- The link refuses a datagram for a cause. -/
def Refuses (w : σ) (datagram : ByteArray) (cause : String) : Prop :=
  ((send datagram).run w).1 = some cause

variable (send) in
/-- `far` is what has reached the far end of the link: all that it took, and nothing that it refused. -/
def Faithful (far : σ → List ByteArray) : Prop :=
  ∀ datagram w, far ((send datagram).run w).2 =
    if ((send datagram).run w).1 = none then far w ++ [datagram] else far w

lemma Faithful.refused {far : σ → List ByteArray} (h : Faithful send far) {w : σ}
    {datagram : ByteArray} {cause : String} (hlost : Refuses send w datagram cause) :
    far ((send datagram).run w).2 = far w := by
  have hsome : ((send datagram).run w).1 ≠ none := by
    rw [hlost]
    exact Option.some_ne_none _
  rw [h, if_neg hsome]

lemma faithful_wire (faults : Nat → Option String) : Faithful (Wire.link faults) Wire.arrived := by
  intro datagram w
  cases hfault : faults (w.offered + 1) with
  | none =>
    have hrun : (Wire.link faults datagram).run w =
        (none, ⟨w.offered + 1, w.arrived ++ [datagram]⟩) := by
      simp only [Wire.link, StateT.run, modifyGet, MonadStateOf.modifyGet, StateT.modifyGet, hfault]
      rfl
    rw [hrun, if_pos rfl]
  | some cause =>
    have hrun : (Wire.link faults datagram).run w =
        (some cause, { w with offered := w.offered + 1 }) := by
      simp only [Wire.link, StateT.run, modifyGet, MonadStateOf.modifyGet, StateT.modifyGet, hfault]
      rfl
    rw [hrun, if_neg (Option.some_ne_none cause)]

/-! ### The table -/

/-- The tables hold the same entries and have the same alarms set. -/
structure SameEntries (p q : Pending Party) : Prop where
  entry : ∀ id, q.get? id = p.get? id
  alarms : q.alarms = p.alarms

lemma fail_gone {p : Pending Party} {id : CorrelationId} (h : p.get? id = none) (cause : String) :
    p.fail id cause = (p, none) := by
  rw [Pending.fail, h]

/-- To enter a command under a free id and to end it again changes nothing. -/
lemma fail_enrolled {p : Pending Party} (h : Wound p) {id : CorrelationId} (hfree : p.get? id = none)
    (now timeout : Nat) (request : Request) (requester : Option Party) (cause : String) :
    let failed := (enrolled p now timeout (request.toCommand id) requester).fail id cause
    SameEntries p failed.1 ∧ failed.2 =
      requester.map fun party => ⟨party, .commandError request.moduleId id .transport cause⟩ := by
  have hget := get?_enrolled_free hfree now timeout request requester
  dsimp only
  cases requester with
  | none =>
    dsimp only [enrolled]
    rw [fail_gone hfree]
    exact ⟨⟨fun _ => rfl, rfl⟩, rfl⟩
  | some party =>
    have hentry := hget id
    rw [if_pos rfl, Option.map_some] at hentry
    unfold Pending.fail
    rw [hentry]
    refine ⟨⟨?_, ?_⟩, rfl⟩
    · intro other
      rw [Pending.get?_cancel, get?_drop, hget]
      by_cases hother : other = id
      · rw [if_pos hother, hother, hfree]
      · rw [if_neg hother, if_neg hother]
    · -- its alarm has a serial number of its own
      have hothers : p.alarms.filter (fun a => a.serial ≠ p.nextSerial) = p.alarms := by
        apply List.filter_eq_self.mpr
        intro a ha
        exact decide_eq_true (Nat.ne_of_lt (h.serial_lt a ha))
      change (p.alarms ++ [_]).filter (fun a => a.serial ≠ p.nextSerial) = p.alarms
      rw [List.filter_append, hothers, List.filter_singleton]
      simp

/-! ### Commands -/

/-- The session `t` is `s` but for the id of a command that the link refused, and for what the
requester of the command was told. -/
structure Unsent (s t : Session) (request : Request) (requester : Option Party) (cause : String) :
    Prop extends SameBooks s t where
  nextId : t.nextId = s.nextId.next
  entries : SameEntries s.pending t.pending
  told : ∀ party, requester = some party → t.sinks.get? party =
    (s.sinks.get? party).map fun sink => (sink.deliver (.commandError request.moduleId s.nextId
      .transport (Failure.transport cause).message)).1
  others : ∀ key, requester ≠ some key → t.sinks.get? key = s.sinks.get? key
  untracked : requester = none → t = { s with nextId := s.nextId.next }

/-- Where the session stands when the command has failed, and what was called for that. -/
lemma dispatch_run_refused {s : Session} (hfree : s.pending.get? s.nextId = none) {w : σ}
    {request : Request} (requester : Option Party) {cause : String}
    (hlost : Refuses send w (request.toCommand s.nextId).encode cause) :
    let failed := (enrolled s.pending s.clock s.timing.replyTimeout (request.toCommand s.nextId)
      requester).fail s.nextId (Failure.transport cause).message
    (s.dispatch send request requester).run w =
      (({ s with
          nextId := s.nextId.next
          pending := failed.1
          sinks := failed.2.toList.foldl Sinks.perform s.sinks }, .error (.transport cause)),
        ((send (request.toCommand s.nextId).encode).run w).2) := by
  have hcontains : s.pending.contains s.nextId = false := by
    rw [Pending.contains, hfree, Option.isSome_none]
  have hid : (request.toCommand s.nextId).id = s.nextId := rfl
  dsimp only
  rw [dispatch_run, reserve_eq hcontains]
  dsimp only
  rw [hlost, hid]
  exact Prod.ext (Prod.ext (settle_lost _ _ _) rfl) rfl

lemma unsent_dispatch {s : Session} (hwound : Wound s.pending)
    (hfree : s.pending.get? s.nextId = none) {w : σ} {request : Request} (requester : Option Party)
    {cause : String} (hlost : Refuses send w (request.toCommand s.nextId).encode cause) :
    Unsent s ((s.dispatch send request requester).run w).1.1 request requester cause := by
  obtain ⟨hentries, htold⟩ := fail_enrolled hwound hfree s.clock s.timing.replyTimeout request
    requester (Failure.transport cause).message
  have hbooks := sameBooks_dispatch send s w request requester
  rw [dispatch_run_refused hfree requester hlost] at hbooks ⊢
  refine ⟨hbooks, rfl, hentries, ?_, ?_, ?_⟩
  · rintro party rfl
    dsimp only
    rw [htold]
    exact (get?_perform _ _ _).trans (if_pos rfl)
  · intro key hkey
    dsimp only
    rw [htold]
    cases requester with
    | none => rfl
    | some party =>
      have hne : key ≠ party := by
        rintro rfl
        exact hkey rfl
      exact (get?_perform _ _ _).trans (if_neg hne)
  · rintro rfl
    dsimp only [enrolled]
    rw [fail_gone hfree]
    rfl

/-! ### Calls and lines -/

/-- The session `t` is `s` but for the id of the command of one more call, which has ended because the
link refused the command. -/
structure Abandoned (s t : Session) (purpose : Purpose) (cause : String) : Prop extends
    SameBooks { s with
      called := s.called + 1
      calls := s.calls ++
        [⟨s.called + 1, purpose, .finished (purpose.result (.error (.transport cause)))⟩] } t where
  nextId : t.nextId = s.nextId.next
  entries : SameEntries s.pending t.pending
  slot : t.sinks.get? (.call (s.called + 1)) = none
  others : ∀ key, key ≠ .call (s.called + 1) → t.sinks.get? key = s.sinks.get? key

lemma calls_finish_begun {s t : Session} (hs : Numbered s) (purpose : Purpose)
    (hcalls : t.calls = (opened s purpose).calls) (result : CallResult) :
    (t.finish (begun s purpose) result).calls =
      s.calls ++ [⟨s.called + 1, purpose, .finished result⟩] := by
  change t.calls.map _ = _
  rw [hcalls]
  change (s.calls ++ [begun s purpose]).map _ = _
  rw [List.map_append, List.map_singleton, if_pos rfl]
  congr 1
  refine (List.map_congr_left ?_).trans (List.map_id s.calls)
  intro call hcall
  have hle := hs.le_called call hcall
  exact if_neg (Nat.ne_of_lt (Nat.lt_succ_of_le hle))

lemma abandoned_call {s : Session} (hs : Numbered s) (hwound : Wound s.pending)
    (hfree : s.pending.get? s.nextId = none) {w : σ} {purpose : Purpose} {cause : String}
    (hlost : Refuses send w (purpose.request.toCommand s.nextId).encode cause) :
    let out := (s.call send purpose).run w
    out.1.2 = s.called + 1 ∧
      out.2 = ((send (purpose.request.toCommand s.nextId).encode).run w).2 ∧
      Abandoned s out.1.1 purpose cause := by
  have hunsent := unsent_dispatch (s := opened s purpose) hwound hfree
    (some (.call (s.called + 1))) hlost
  have hrun := dispatch_run_refused (s := opened s purpose) hfree
    (some (.call (s.called + 1))) hlost
  dsimp only
  rw [call_run]
  dsimp only at hrun ⊢
  rw [hrun] at hunsent ⊢
  dsimp only at hunsent ⊢
  refine ⟨rfl, rfl, ⟨rfl, rfl, rfl, rfl, rfl, ?_, rfl, rfl⟩, rfl, ?_, ?_, ?_⟩
  · exact calls_finish_begun hs purpose rfl _
  · exact hunsent.entries
  · exact Sinks.get?_erase_self _ _
  · intro key hkey
    have hother : some (Party.call (s.called + 1)) ≠ some key := fun heq =>
      hkey (Option.some.inj heq).symm
    have hsame := hunsent.others key hother
    refine (Sinks.get?_erase_of_ne _ (Ne.symm hkey)).trans (hsame.trans ?_)
    exact Sinks.get?_insert_of_ne _ (Ne.symm hkey) _

lemma raw_refused (s : Session) {w : σ} {text cause : String}
    (hlost : Refuses send w (encodeRaw text) cause) :
    (s.act send (.raw text)).run w =
      ((s, .sentRaw (.error (.transport cause))), ((send (encodeRaw text)).run w).2) := by
  have hrun : (Session.sendRaw send text).run w =
      (.error (.transport cause), ((send (encodeRaw text)).run w).2) := by
    unfold Session.sendRaw
    rw [StateT.run_bind]
    unfold Refuses at hlost
    generalize (send (encodeRaw text)).run w = out at hlost ⊢
    obtain ⟨answer, after⟩ := out
    obtain rfl : answer = some cause := hlost
    rfl
  unfold Session.act
  rw [StateT.run_bind, hrun]
  rfl

/-! ### A reply that comes before the failure -/

/-- A lost datagram of which the table knows nothing leaves the session to whoever sent it. -/
lemma land_unheld {d : Desk σ} {flight : Flight} {cause : String}
    (hlost : Refuses send d.world flight.command.encode cause)
    (habsent : d.session.pending.fail flight.command.id (Failure.transport cause).message =
      (d.session.pending, none)) :
    (d.land send flight).session =
      flight.errand.proceed d.session (.error (.transport cause)) := by
  have hsettled : d.session.settle flight.command.id (some cause) =
      (d.session, .error (.transport cause)) := by
    refine Prod.ext ((settle_lost _ _ _).trans ?_) rfl
    rw [habsent]
    rfl
  unfold Desk.land
  dsimp only
  rw [hlost, hsettled]

variable (send) in
/-- What `run` consists of happens while the datagram of an observer's command is on its way, and then
the link refuses the datagram. -/
structure Crosses (d : Desk σ) (flight : Flight) (observer : ObserverId) (run : List (Desk σ))
    (cause : String) : Prop where
  turns : (d :: run).IsChain (Turn send)
  attends : ∀ x ∈ d :: run, x.Attends observer
  still : (run.getLastD d).flight = some flight
  lost : Refuses send (run.getLastD d).world flight.command.encode cause
  ids : IdsSuffice (run.getLastD d).log
  seats : SeatsSuffice (run.getLastD d).log

variable (send) in
/-- What the observer's stream takes in meanwhile and when the datagram is lost. -/
def receptionsToLoss (d : Desk σ) (flight : Flight) (observer : ObserverId) (run : List (Desk σ)) :
    List Reception :=
  receptionsAlong observer d run ++
    receptions observer (run.getLastD d) ((run.getLastD d).land send flight)

/-- What decides a command first; the loss of its datagram comes last. -/
def firstOf (flight : Flight) (cause : String) (log : List Occurrence) : Occurrence :=
  (log.find? (decides flight.command.id)).getD (.sent flight.command (some cause))

lemma decides_lost (command : Command) (cause : String) :
    decides command.id (.sent command (some cause)) = true :=
  (decides_of_tidings rfl).trans (decide_eq_true rfl)

lemma decides_firstOf (flight : Flight) (cause : String) (log : List Occurrence) :
    decides flight.command.id (firstOf flight cause log) = true := by
  unfold firstOf
  cases hfirst : log.find? (decides flight.command.id) with
  | none => exact decides_lost flight.command cause
  | some x => exact List.find?_some hfirst

section Crosses

variable {timing : Timing} {world : σ} {d : Desk σ} {flight : Flight} {observer : ObserverId}
  {run : List (Desk σ)} {cause : String}

lemma Crosses.receives (h : Crosses send d flight observer run cause) (hgathered : Gathered d) :
    ∃ ids, Receives observer d ((run.getLastD d).land send flight)
      (receptionsToLoss send d flight observer run) ids := by
  have hrun := happenings_of_turns h.turns
  have hlast := (turns_of_isChain h.turns).seated hgathered.toSeated
  have hin := (h.attends _ List.getLastD_mem_cons).1
  have hlanded : Receives observer (run.getLastD d) ((run.getLastD d).land send flight) _ [] :=
    receives_land hlast hin flight
  exact ⟨_, (receives_run hgathered hrun h.seats h.attends).trans hlanded (log_of_isChain hrun)
    (List.prefix_append _ _)⟩

/-- The observer is told once how its command ends. -/
theorem Crosses.told (h : Crosses send d flight observer run cause)
    (hstart : Turns send (.start timing world) d)
    (hid : ordinal flight.command.id < ordinal d.session.nextId) {entry : PendingCommand Party}
    (hget : d.session.pending.get? flight.command.id = some entry)
    (howner : entry.requester = .observer observer) :
    outcomesOf flight.command.id (receptionsToLoss send d flight observer run) =
      toldOf flight.command.id entry
        (some (firstOf flight cause (occurred d (run.getLastD d)))) := by
  have hrun := outcomesOf_waiting hstart h.turns h.ids hid hget howner
  have hlast := get?_waiting hstart h.turns h.ids hid hget
  have hdecided : Decided flight.command.id (run.getLastD d) ((run.getLastD d).land send flight) :=
    decided_land _ flight _
  have hloss : occurred (run.getLastD d) ((run.getLastD d).land send flight) =
      [.sent flight.command (some cause)] := by
    apply occurred_eq
    rw [← h.lost]
    rfl
  rw [receptionsToLoss, outcomesOf_append, hrun, firstOf]
  cases hfirst : (occurred d (run.getLastD d)).find? (decides flight.command.id) with
  | none =>
    rw [hfirst] at hlast
    rw [hdecided.outcomes hlast howner, hloss,
      List.find?_cons_of_pos (decides_lost flight.command cause)]
    rfl
  | some x =>
    rw [hfirst] at hlast
    rw [receptions, outcomesOf_flatMap_nil (.inr hlast), List.append_nil]
    rfl

end Crosses

/-! ### A call whose command is lost after a reply -/

/-- The slot of a call holds a reply that came before anything else, as long as the call's command is
on its way. -/
lemma call_answered {timing : Timing} {world : σ} {d e : Desk σ} {purpose : Purpose}
    (hstart : Turns send (.start timing world) d) (hfree : d.flight = none)
    (hturns : Turns send (d.call purpose) e) (hids : IdsSuffice e.log)
    (hstill : e.flight = some ⟨purpose.request.toCommand d.session.nextId,
      .opening (begun d.session purpose)⟩)
    {time : Int} {bytes : ByteArray} {event : Event} {outcome : Outcome}
    (hfirst : (occurred (d.call purpose) e).find? (decides d.session.nextId) =
      some (.heard time bytes))
    (hreply : replyEvent (.ofDatagram bytes) = some (d.session.nextId, event))
    (houtcome : event.outcome? = some outcome) :
    e.session.pending.get? d.session.nextId = none ∧
      e.session.sinks.get? (.call (d.session.called + 1)) =
        some (.reply true (.answered outcome)) := by
  obtain ⟨later, stage, hlog, h, -⟩ := Asked.stands_after hstart hfree purpose hturns hids
  rw [occurred_eq hlog] at hfirst
  have hending := ending?_of_first hfirst hreply houtcome purpose.request.moduleId
  have hpassage : passage d.session.nextId later = none := by
    by_contra hsome
    exact (h.flown hsome _ hstill).id rfl
  cases h.stands with
  | unheard alarm hnone hentry hempty hkept =>
    rw [show ending? purpose.request.moduleId d.session.nextId later = none from hnone] at hending
    cases hending
  | told told hsome hgone hfull hkept =>
    rw [show ending? purpose.request.moduleId d.session.nextId later = some told from hsome,
      Option.some_inj] at hending
    subst hending
    exact ⟨hgone, hfull⟩
  | learned told hsent hsome hgone hlearned =>
    rw [show passage d.session.nextId later = some none from hsent] at hpassage
    cases hpassage
  | lost cause hlost hgone =>
    rw [show passage d.session.nextId later = some (some cause) from hlost] at hpassage
    cases hpassage

/-! ### The result -/

def Desk.submit (d : Desk σ) (request : Request) (observer : ObserverId) : Desk σ :=
  d.launch request (.submission (some observer))

/-- What is on its way then. -/
def Desk.submission (d : Desk σ) (request : Request) (observer : ObserverId) : Flight :=
  ⟨request.toCommand d.session.nextId, .submission (some observer)⟩

lemma get?_submit {d : Desk σ} (h : Orderly d) (request : Request) (observer : ObserverId) :
    (d.submit request observer).session.pending.get? d.session.nextId =
      some (entryFor d.session.pending d.session.clock d.session.timing.replyTimeout
        (request.toCommand d.session.nextId) (.observer observer)) := by
  rw [Desk.submit, Desk.launch_eq h.not_contains]
  exact (get?_enrolled_free h.free _ _ _ _ _).trans (if_pos rfl)

/-- What an observer is told if its command got its id at `d`, was on its way from `x` to `e`, and was
lost then, which led to `last`: `rs` is what its stream takes in. -/
structure ToldOnce (far : σ → List ByteArray) (observer : ObserverId) (flight : Flight)
    (cause : String) (d x e last : Desk σ) (rs : List Reception) : Prop where
  wire : far last.world = far e.world
  stream : last.session.stream observer = d.session.stream observer ++ rs.map Reception.event
  /-- It is told once how its command ends, and by what came first. -/
  once : ∃ entry event, x.session.pending.get? flight.command.id = some entry ∧
    tidings (firstOf flight cause (occurred x e)) = some (flight.command.id, event) ∧
    outcomesOf flight.command.id rs = [.outcome flight.command.id (event entry)]
  /-- So a reply that comes first is what it gets, and there is no error. -/
  reply : ∀ time bytes event,
    (occurred x e).find? (decides flight.command.id) = some (.heard time bytes) →
      replyEvent (.ofDatagram bytes) = some (flight.command.id, event) →
        outcomesOf flight.command.id rs = [.outcome flight.command.id event] ∧
          (∀ m kind text, .commandError m flight.command.id kind text ∉ rs.map Reception.event) ∧
          last.session = e.session

lemma Crosses.toldOnce {far : σ → List ByteArray} (hfar : Faithful send far) {timing : Timing}
    {world : σ} {d : Desk σ} (hstart : Turns send (.start timing world) d) (hfree : d.flight = none)
    {request : Request} {observer : ObserverId} {run : List (Desk σ)} {cause : String}
    (h : Crosses send (d.submit request observer) (d.submission request observer) observer run
      cause) :
    let flight := d.submission request observer
    let x := d.submit request observer
    let e := run.getLastD x
    ToldOnce far observer flight cause d x e (e.land send flight)
      (receptionsToLoss send x flight observer run) := by
  intro flight x e
  have hturn : Turn send d x := .submit d request (some observer) hfree
  have hreached : Turns send (.start timing world) x := hstart.tail hturn
  have hids : IdsSuffice x.log :=
    h.ids.of_prefix (log_of_isChain (happenings_of_turns h.turns))
  have horderly : Orderly d := Turns.orderly hstart (hids.of_prefix hturn.log_prefix)
  have hget : x.session.pending.get? flight.command.id = some (entryFor d.session.pending
      d.session.clock d.session.timing.replyTimeout flight.command (.observer observer)) :=
    get?_submit horderly request observer
  have hless := ((Turns.orderly hreached hids).entry _ _ hget).2
  have htold := h.told hreached hless hget rfl
  obtain ⟨ids, hreceives⟩ := h.receives hreached.gathered
  constructor
  · exact hfar.refused h.lost
  · have hsame : x.session.stream observer = d.session.stream observer := by
      dsimp only [x]
      rw [Session.stream, Desk.submit, slot_launch]
      rfl
    rw [hreceives.stream (h.attends _ List.mem_cons_self), hsame]
  · obtain ⟨event, htidings⟩ := decides_eq_true (decides_firstOf flight cause (occurred x e))
    refine ⟨_, event, hget, htidings, htold.trans ?_⟩
    rw [toldOf, Option.bind_some, htidings]
    rfl
  · intro time bytes event hfirst hreply
    obtain ⟨m, target, status, rawAction, raw, hevent⟩ := feedback_of_replyEvent hreply
    have hout : outcomesOf flight.command.id (receptionsToLoss send x flight observer run) =
        [.outcome flight.command.id event] := by
      rw [htold, firstOf, hfirst, Option.getD_some, toldOf, Option.bind_some, tidings, hreply]
      rfl
    have hgone := get?_waiting hreached h.turns h.ids hless hget
    rw [hfirst] at hgone
    refine ⟨hout, hreceives.no_error hout ?_, land_unheld h.lost (fail_gone hgone _)⟩
    rintro m' kind text rfl
    cases hevent

variable (send) in
/-- What a session in this state makes of sends that fail. -/
structure FailsCleanly (far : σ → List ByteArray) (d : Desk σ) : Prop where
  command : ∀ request requester cause,
    Refuses send d.world (request.toCommand d.session.nextId).encode cause →
      let out := (d.session.dispatch send request requester).run d.world
      out.1.2 = .error (.transport cause) ∧ far out.2 = far d.world ∧
        Unsent d.session out.1.1 request requester cause
  call : ∀ purpose cause,
    Refuses send d.world (purpose.request.toCommand d.session.nextId).encode cause →
      let out := (d.session.call send purpose).run d.world
      out.1.2 = d.session.called + 1 ∧ far out.2 = far d.world ∧
        Abandoned d.session out.1.1 purpose cause
  line : ∀ text cause, Refuses send d.world (encodeRaw text) cause →
    let out := (d.session.act send (.raw text)).run d.world
    out.1 = (d.session, .sentRaw (.error (.transport cause))) ∧ far out.2 = far d.world
  /-- Whatever happens while its command is on its way, an observer is told once how that ends. -/
  crossed : ∀ request observer run cause,
    let flight := d.submission request observer
    let x := d.submit request observer
    let e := run.getLastD x
    Crosses send x flight observer run cause →
      ToldOnce far observer flight cause d x e (e.land send flight)
        (receptionsToLoss send x flight observer run)
  /-- The slot of a call keeps a reply that comes first, until the call ends with its failure. -/
  callCrossed : ∀ purpose e cause time bytes event,
    let command := purpose.request.toCommand d.session.nextId
    let flight : Flight := ⟨command, .opening (begun d.session purpose)⟩
    Turns send (d.call purpose) e → IdsSuffice e.log → e.flight = some flight →
      Refuses send e.world command.encode cause →
      (occurred (d.call purpose) e).find? (decides command.id) = some (.heard time bytes) →
      replyEvent (.ofDatagram bytes) = some (command.id, event) →
        (∃ reply, event.outcome? = some (.ok reply) ∧
          e.session.sinks.get? (.call (d.session.called + 1)) =
            some (.reply true (.answered (.ok reply)))) ∧
        (e.land send flight).session =
          e.session.finish (begun d.session purpose) (purpose.result (.error (.transport cause)))
  /-- Nobody is told of a command that nobody asked for, whatever happened meanwhile. -/
  untracked : ∀ e flight cause, Turns send d e → IdsSuffice e.log → e.flight = some flight →
    flight.errand.requester = none → Refuses send e.world flight.command.encode cause →
      (e.land send flight).session =
        flight.errand.proceed e.session (.error (.transport cause))

/-- Whenever nothing else is on its way out, in a session that has ids left, and for any link that keeps
from its far end what it refuses. -/
theorem failed_sends {far : σ → List ByteArray} (hfar : Faithful send far) {timing : Timing}
    {world : σ} {d : Desk σ} (hstart : Turns send (.start timing world) d) (hfree : d.flight = none)
    (hids : IdsSuffice d.log) : FailsCleanly send far d := by
  have horderly : Orderly d := Turns.orderly hstart hids
  have htidy : Tidy d := Turns.tidy hstart hids
  constructor
  · intro request requester cause hlost
    have hrun := dispatch_run_refused horderly.free requester hlost
    refine ⟨?_, ?_, unsent_dispatch htidy.wound horderly.free requester hlost⟩
    · rw [hrun]
    · rw [hrun]
      exact hfar.refused hlost
  · intro purpose cause hlost
    obtain ⟨hnumber, hworld, habandoned⟩ :=
      abandoned_call htidy.numbered htidy.wound horderly.free hlost
    refine ⟨hnumber, ?_, habandoned⟩
    rw [hworld]
    exact hfar.refused hlost
  · intro text cause hlost
    dsimp only
    rw [raw_refused d.session hlost]
    exact ⟨rfl, hfar.refused hlost⟩
  · intro request observer run cause flight x e hcrosses
    exact hcrosses.toldOnce hfar hstart hfree
  · intro purpose e cause time bytes event command flight hturns hlater hstill hlost hfirst hreply
    obtain ⟨m, target, status, rawAction, raw, rfl⟩ := feedback_of_replyEvent hreply
    obtain ⟨hgone, hslot⟩ := call_answered hstart hfree hturns hlater hstill hfirst hreply rfl
    exact ⟨⟨_, rfl, hslot⟩, land_unheld hlost (fail_gone hgone _)⟩
  · intro e flight cause hturns hlater hstill huntracked hlost
    have hreached := Turns.orderly (hstart.trans hturns) hlater
    exact land_unheld hlost (hreached.fail_untracked hstill huntracked _)

/-- An observer has sent a command; the link will refuse the next one. -/
def warnedDesk : Desk Wire :=
  let joined := (Desk.start .default .idle).joined
  (joined.submit (.status ⟨"D1"⟩) ⟨1⟩).land lossyLink (joined.submission (.status ⟨"D1"⟩) ⟨1⟩)

def lockRequest : Request := ⟨⟨"D2"⟩, .default, lockAction⟩

def lockFlight : Flight := warnedDesk.submission lockRequest ⟨1⟩

/-- The command is on its way, and a reply to it comes in. -/
def lockRun : List (Desk Wire) :=
  [(warnedDesk.submit lockRequest ⟨1⟩).hear 0 "D2 FEEDBACK 2 D0 STATUS_LOCKED".toUTF8]

lemma lockRun_crosses : Crosses lossyLink (warnedDesk.submit lockRequest ⟨1⟩) lockFlight ⟨1⟩ lockRun
    "network down" := by
  constructor
  · exact .cons_cons (.hear _ _ _ (by decide +kernel)) (.singleton _)
  · decide +kernel
  · rfl
  · unfold Refuses
    decide +kernel
  · decide +kernel
  · decide +kernel

theorem failed_sends_lossy :
    let out := (warnedDesk.session.dispatch lossyLink lockRequest (some (.observer ⟨1⟩))).run
      warnedDesk.world
    let x := warnedDesk.submit lockRequest ⟨1⟩
    IdsSuffice warnedDesk.log ∧ FailsCleanly lossyLink Wire.arrived warnedDesk ∧
      out.1.2 = .error (.transport "network down") ∧ out.2.arrived.length = 1 ∧
      out.1.1.stream ⟨1⟩ =
        [.commandError ⟨"D2"⟩ ⟨2⟩ .transport "Transport error: network down"] ∧
      outcomesOf ⟨2⟩ (receptionsToLoss lossyLink x lockFlight ⟨1⟩ lockRun) =
        [.outcome ⟨2⟩ (.commandFeedback ⟨"D2"⟩ ⟨2⟩ .default .locked "STATUS_LOCKED"
          "D2 FEEDBACK 2 D0 STATUS_LOCKED")] := by
  have hids : IdsSuffice warnedDesk.log := by decide +kernel
  have hturns : Turns lossyLink (.start .default .idle) warnedDesk :=
    .tail (.tail (.single (.connect _)) (.submit _ _ (some ⟨1⟩) rfl)) (.land _ _ rfl)
  have h : FailsCleanly lossyLink Wire.arrived warnedDesk :=
    failed_sends (faithful_wire _) hturns rfl hids
  have hlost : Refuses lossyLink warnedDesk.world
      (lockRequest.toCommand warnedDesk.session.nextId).encode "network down" := by
    unfold Refuses
    decide +kernel
  obtain ⟨hanswer, hwire, hunsent⟩ := h.command lockRequest (some (.observer ⟨1⟩)) _ hlost
  have hcrossed := h.crossed lockRequest ⟨1⟩ lockRun _ lockRun_crosses
  refine ⟨hids, h, hanswer, ?_, ?_, ?_⟩
  · rw [hwire]
    decide +kernel
  · rw [Session.stream, hunsent.told _ rfl]
    decide +kernel
  · refine (hcrossed.reply 0 "D2 FEEDBACK 2 D0 STATUS_LOCKED".toUTF8 _ ?_ ?_).1
    · have hoccurred : occurred (warnedDesk.submit lockRequest ⟨1⟩)
          (lockRun.getLastD (warnedDesk.submit lockRequest ⟨1⟩)) =
            [.heard 0 "D2 FEEDBACK 2 D0 STATUS_LOCKED".toUTF8] := occurred_eq rfl
      rw [hoccurred]
      exact List.find?_cons_of_pos (by decide +kernel)
    · decide +kernel

end HubBridge.Proofs
