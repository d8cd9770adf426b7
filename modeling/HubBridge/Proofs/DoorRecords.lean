import HubBridge.Proofs.Rearrangement
import HubBridge.Proofs.Turns

/-!
# A door's record and the datagrams of its module

Of all that happens to a session only the datagrams that it hears touch the doors, and each only the
one that it names. So a door's record is the fold of what its own module reported, whatever else went
on, and two sessions that heard the same of a module agree on its door.
-/

namespace HubBridge.Proofs

/-- The datagrams that were handled, oldest first. -/
def heardOf (log : List Occurrence) : List (Int × ByteArray) :=
  log.filterMap fun
    | .heard time bytes => some (time, bytes)
    | _ => none

lemma heardOf_append (log later : List Occurrence) :
    heardOf (log ++ later) = heardOf log ++ heardOf later := List.filterMap_append

lemma not_heard_of_mem {log : List Occurrence} (h : heardOf log = []) {time : Int}
    {bytes : ByteArray} : .heard time bytes ∉ log := by
  intro hmem
  have hheard : (time, bytes) ∈ heardOf log := List.mem_filterMap.mpr ⟨_, hmem, rfl⟩
  rw [h] at hheard
  cases hheard

variable {σ : Type} {send : Link (StateM σ)}

/-! ### What is heard -/

/-- The two sessions agree on what datagrams bring, and on the time. -/
structure Still (s t : Session) : Prop where
  listening : t.listening = s.listening
  doors : t.doors = s.doors
  liveness : t.liveness = s.liveness
  clock : t.clock = s.clock

lemma SameBooks.still {s t : Session} (h : SameBooks s t) : Still s t :=
  ⟨h.listening, h.doors, h.liveness, h.clock⟩

lemma Still.trans {s t u : Session} (h : Still s t) (h' : Still t u) : Still s u :=
  ⟨h'.listening.trans h.listening, h'.doors.trans h.doors, h'.liveness.trans h.liveness,
    h'.clock.trans h.clock⟩

lemma still_proceed (s : Session) (result : Except Failure CorrelationId) (errand : Errand) :
    Still s (errand.proceed s result) := by
  cases errand with
  | submission observer => exact ⟨rfl, rfl, rfl, rfl⟩
  | opening call => cases result <;> exact ⟨rfl, rfl, rfl, rfl⟩
  | query call reply poll => exact ⟨rfl, rfl, rfl, rfl⟩

lemma still_launch (d : Desk σ) (request : Request) (errand : Errand) :
    Still d.session (d.launch request errand).session := by
  have hbooks := sameBooks_reserve d.session request errand.requester
  unfold Desk.launch
  rcases hr : d.session.reserve request errand.requester with ⟨s, command, failure | ⟨⟩⟩
  · rw [hr] at hbooks
    have hs : Still d.session s := hbooks.still
    exact hs.trans (still_proceed s (.error failure) errand)
  · rw [hr] at hbooks
    exact hbooks.still

/-- Nothing was heard from `d` to `e`, and what datagrams bring is as it was. -/
structure Undisturbed (d e : Desk σ) : Prop where
  log : ∃ later, e.log = d.log ++ later ∧ heardOf later = []
  doors : e.session.doors = d.session.doors
  liveness : e.session.liveness = d.session.liveness
  clock : d.session.clock ≤ e.session.clock
  deaf : d.session.listening = false → e.session.listening = false

lemma Undisturbed.heard {d e : Desk σ} (h : Undisturbed d e) : heardOf e.log = heardOf d.log := by
  obtain ⟨later, hlog, hnone⟩ := h.log
  rw [hlog, heardOf_append, hnone, List.append_nil]

lemma Still.undisturbed {d e : Desk σ} (h : Still d.session e.session) {later : List Occurrence}
    (hlog : e.log = d.log ++ later) (hnone : heardOf later = []) : Undisturbed d e where
  log := ⟨later, hlog, hnone⟩
  doors := h.doors
  liveness := h.liveness
  clock := Nat.le_of_eq h.clock.symm
  deaf := h.listening.trans

/-- A turn hears one datagram or nothing. -/
lemma Turn.hears {d e : Desk σ} (hturn : Turn send d e) :
    (∃ time bytes, d.session.listening = true ∧ e = d.hear time bytes) ∨ Undisturbed d e := by
  have idle : e.log = d.log → Still d.session e.session → Undisturbed d e :=
    fun hlog h => h.undisturbed (hlog.trans (List.append_nil d.log).symm) rfl
  have launched : ∀ request errand, Undisturbed d (d.launch request errand) :=
    fun request errand => (still_launch d request errand).undisturbed
      (Desk.launch_log d request errand) rfl
  cases hturn with
  | connect => exact .inr (Still.undisturbed ⟨rfl, rfl, rfl, rfl⟩ rfl rfl)
  | disconnect id => exact .inr (idle rfl ⟨rfl, rfl, rfl, rfl⟩)
  | shutdown =>
    exact .inr ⟨⟨[], (List.append_nil d.log).symm, rfl⟩, rfl, rfl, Nat.le_refl _, fun _ => rfl⟩
  | pass time htime =>
    exact .inr ⟨⟨[], (List.append_nil d.log).symm, rfl⟩, rfl, rfl, htime, id⟩
  | hear time bytes hlistens => exact .inl ⟨time, bytes, hlistens, rfl⟩
  | ring alarm hset hdue =>
    have hbooks := sameBooks_rung d.session alarm
    have hclock : (rung d.session alarm).clock = d.session.clock :=
      hbooks.clock.trans (Nat.max_eq_left hdue)
    have hstill : Still d.session (d.ring alarm).session :=
      ⟨hbooks.listening, hbooks.doors, hbooks.liveness, hclock⟩
    exact .inr (hstill.undisturbed rfl rfl)
  | write text hfree => exact .inr (Still.undisturbed ⟨rfl, rfl, rfl, rfl⟩ rfl rfl)
  | submit request observer hfree => exact .inr (launched request _)
  | call purpose hfree =>
    have hopened : Still (opened d.session purpose) (d.call purpose).session :=
      still_launch { d with session := opened d.session purpose } _ _
    have hstill : Still d.session (d.call purpose).session :=
      ⟨hopened.listening, hopened.doors, hopened.liveness, hopened.clock⟩
    exact .inr (hstill.undisturbed (Desk.launch_log _ _ _) rfl)
  | land flight hflight =>
    have hsettled := (sameBooks_settle d.session flight.command.id
      ((send flight.command.encode).run d.world).1).still
    exact .inr ((hsettled.trans (still_proceed _ _ _)).undisturbed rfl rfl)
  | learn call outcome hcall hstage hbusy houtcome hends =>
    exact .inr (idle rfl ⟨rfl, rfl, rfl, rfl⟩)
  | inquire call outcome reply poll hcall hstage hfree houtcome hpolls => exact .inr (launched _ _)
  | ask call reply poll wake hcall hstage hfree hdue hleft => exact .inr (launched _ _)
  | check call reply poll wake c hcall hstage hbusy hdue hcheck =>
    exact .inr (idle rfl ⟨rfl, rfl, rfl, rfl⟩)

/-! ### Doors after turns -/

/-- The doors are those of a session that heard the same datagrams, and of which nothing else is
known. -/
def Witnessed (d : Desk σ) : Prop :=
  ∀ s : Session, s.doors = .empty → d.session.doors = (hearAll s (heardOf d.log)).doors

lemma Turn.witnessed {d e : Desk σ} (hturn : Turn send d e) (h : Witnessed d) : Witnessed e := by
  intro s hs
  obtain ⟨time, bytes, -, rfl⟩ | hsame := hturn.hears
  · have hlog : heardOf (d.hear time bytes).log = heardOf d.log ++ [(time, bytes)] :=
      heardOf_append _ _
    rw [hlog, hearAll_append, hearAll_cons]
    dsimp only [Desk.hear, hearAll, List.foldl_nil]
    rw [doors_handle, doors_handle, h s hs]
    rfl
  · rw [hsame.doors, hsame.heard]
    exact h s hs

lemma Turns.doors {timing : Timing} {world : σ} {d : Desk σ}
    (h : Turns send (.start timing world) d) :
    d.session.doors = (hearAll (.start timing) (heardOf d.log)).doors := by
  have hstart : Witnessed (Desk.start timing world) := fun s hs => hs.symm
  exact h.keeps (motive := Witnessed) (fun _ _ hturn hx => hturn.witnessed hx) hstart
    (.start timing) rfl

/-! ### What every record obeys -/

/-- A door that is not known to be open or closed has no known lock position, and one that is known
to be closed has one. -/
structure Door.Coherent (door : Door) : Prop where
  unknown : door.isOpen = none → door.isLocked = none
  closed : door.isOpen = some false → door.isLocked.isSome = true

lemma coherent_foldl_apply (m : ModuleId) (statuses : List Status) :
    (statuses.foldl Door.apply (.unseen m)).moduleId = m ∧
      Door.Coherent (statuses.foldl Door.apply (.unseen m)) := by
  induction statuses using List.reverseRecOn with
  | nil => exact ⟨rfl, fun _ => rfl, (nomatch ·)⟩
  | append_singleton statuses status ih =>
    rw [List.foldl_append, List.foldl_cons, List.foldl_nil]
    obtain ⟨hmodule, -⟩ := ih
    cases status with
    | locked => exact ⟨hmodule, (nomatch ·), fun _ => rfl⟩
    | unlocked => exact ⟨hmodule, (nomatch ·), fun _ => rfl⟩
    | opened => exact ⟨hmodule, (nomatch ·), (nomatch ·)⟩
    | unknown => exact ⟨hmodule, fun _ => rfl, (nomatch ·)⟩

/-! ### The result -/

/-- The datagrams among those heard that put something on the record of a module's door. -/
def updatesOf (m : ModuleId) (heard : List (Int × ByteArray)) : List ByteArray :=
  (heard.map Prod.snd).filter fun b => (reportOn m (.ofDatagram b)).isSome

lemma reportsOn_eq_updatesOf (m : ModuleId) (heard : List (Int × ByteArray)) :
    reportsOn m heard = (updatesOf m heard).filterMap fun b => reportOn m (.ofDatagram b) := by
  unfold updatesOf reportsOn
  rw [List.filterMap_filter, List.filterMap_map]
  apply List.filterMap_congr
  intro arrival _
  dsimp only [Function.comp]
  cases reportOn m (.ofDatagram arrival.2) with
  | none => rfl
  | some status => rfl

lemma reportsOn_eq_nil_iff {m : ModuleId} {heard : List (Int × ByteArray)} :
    reportsOn m heard = [] ↔ updatesOf m heard = [] := by
  rw [reportsOn_eq_updatesOf, List.filterMap_eq_nil_iff, List.eq_nil_iff_forall_not_mem]
  apply forall_congr'
  intro bytes
  apply forall_congr'
  intro hmem
  have hsome := (List.mem_filter.mp hmem).2
  rw [iff_false]
  exact Option.isSome_iff_ne_none.mp hsome

/-- After any turns: the record of a door is the fold of the statuses that its own module reported,
in the order in which they were heard, so that two sessions that heard the same reports of a module
agree on its door; and the doors that are listed are those of the modules with a report, in order of
the modules. -/
theorem door_is_fold_of_reports {σ' : Type} {send' : Link (StateM σ')} {timing timing' : Timing}
    {world : σ} {world' : σ'} {d : Desk σ} {d' : Desk σ'}
    (h : Turns send (.start timing world) d) (h' : Turns send' (.start timing' world') d') :
    (∀ m, d.session.doors.door m =
        (reportsOn m (heardOf d.log)).foldl Door.apply (.unseen m)) ∧
      (∀ m, updatesOf m (heardOf d'.log) = updatesOf m (heardOf d.log) →
        d'.session.doors.door m = d.session.doors.door m) ∧
      (∃ modules : List ModuleId, d.session.doors.doors = modules.map d.session.doors.door ∧
        modules.Pairwise (fun m n => compare m n = .lt) ∧
        ∀ m, m ∈ modules ↔ updatesOf m (heardOf d.log) ≠ []) ∧
      ∀ m, (d.session.doors.door m).moduleId = m ∧ Door.Coherent (d.session.doors.door m) := by
  have hfold : ∀ m, d.session.doors.door m =
      (reportsOn m (heardOf d.log)).foldl Door.apply (.unseen m) := by
    intro m
    rw [h.doors, door_hearAll]
    rfl
  have hfold' : ∀ m, d'.session.doors.door m =
      (reportsOn m (heardOf d'.log)).foldl Door.apply (.unseen m) := by
    intro m
    rw [h'.doors, door_hearAll]
    rfl
  refine ⟨hfold, ?_, ?_, ?_⟩
  · intro m hsame
    rw [hfold, hfold', reportsOn_eq_updatesOf, reportsOn_eq_updatesOf, hsame]
  · refine ⟨d.session.doors.records.keys, doors_eq_map_keys _, ?_, ?_⟩
    · exact Std.TreeMap.ordered_keys
    · intro m
      rw [Std.TreeMap.mem_keys, h.doors, mem_records_hearAll, ne_eq, reportsOn_eq_nil_iff]
      simp [Session.start, DoorBook.empty]
  · intro m
    rw [hfold]
    exact coherent_foldl_apply m _

/-- A link that takes all and keeps nothing. -/
def plainLink : Link (StateM Unit) := fun _ => pure none

/-- One report was heard. -/
def calmDesk : Desk Unit :=
  (Desk.start .default ()).hear 0 "D1 EVENT D0 LOCK LOCKED".toUTF8

/-- The same report was heard among an echo, a report on another door, and a command that waits. -/
def busyDesk : Desk Unit :=
  let asked := (Desk.start .default ()).call (.command (.status ⟨"D1"⟩))
  let echoed := asked.hear 5 "D1 FEEDBACK 7 D0 STATUS".toUTF8
  let other := echoed.hear 6 "D2 EVENT D0 LOCK UNLOCKED".toUTF8
  other.hear 9 "D1 EVENT D0 LOCK LOCKED".toUTF8

lemma calmDesk_turns : Turns plainLink (.start .default ()) calmDesk :=
  .single (.hear _ _ _ rfl)

lemma busyDesk_turns : Turns plainLink (.start .default ()) busyDesk := by
  unfold busyDesk
  refine .tail (.tail (.tail (.single (.call _ _ rfl)) (.hear _ _ _ ?_)) (.hear _ _ _ ?_))
    (.hear _ _ _ ?_)
  · decide +kernel
  · decide +kernel
  · decide +kernel

theorem door_is_fold_of_reports_busy :
    updatesOf ⟨"D1"⟩ (heardOf busyDesk.log) = updatesOf ⟨"D1"⟩ (heardOf calmDesk.log) ∧
      busyDesk.session.doors.door ⟨"D1"⟩ = calmDesk.session.doors.door ⟨"D1"⟩ ∧
      calmDesk.session.doors.door ⟨"D1"⟩ = ⟨⟨"D1"⟩, some false, some true⟩ ∧
      busyDesk.session.doors.doors.map Door.moduleId = [⟨"D1"⟩, ⟨"D2"⟩] := by
  have hsame : updatesOf ⟨"D1"⟩ (heardOf busyDesk.log) = updatesOf ⟨"D1"⟩ (heardOf calmDesk.log) := by
    decide +kernel
  have hdoors := door_is_fold_of_reports calmDesk_turns busyDesk_turns
  have hcalm : calmDesk.session.doors.door ⟨"D1"⟩ = ⟨⟨"D1"⟩, some false, some true⟩ := by
    decide +kernel
  have hlisted : busyDesk.session.doors.doors.map Door.moduleId = [⟨"D1"⟩, ⟨"D2"⟩] := by
    decide +kernel
  exact ⟨hsame, hdoors.2.1 ⟨"D1"⟩ hsame, hcalm, hlisted⟩

end HubBridge.Proofs
