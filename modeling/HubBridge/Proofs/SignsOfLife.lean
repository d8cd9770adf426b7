import HubBridge.Proofs.ObserverStreams

/-!
# Signs of life

A module is online while its last sign of life is no older than a window. Signs of life are the
heartbeats and hellos that are heard of it, and the marks that are set for it besides. `Watched` is a
session at work with such marks, and all that was noticed on the way: the last sign of life counts,
whatever its time, and nothing else does.
-/

namespace HubBridge.Proofs

/-- What may bear on signs of life: an occurrence at the session, or a mark that is set for a module with
any time. -/
inductive Notice
  | occurrence (x : Occurrence)
  | mark (m : ModuleId) (time : Int)

/-- The notice is a sign of life of the module, at this time. -/
inductive Marks (m : ModuleId) (time : Int) : Notice → Prop
  | heartbeat {bytes : ByteArray} {raw : String} (h : Message.ofDatagram bytes = .heartbeat m raw) :
      Marks m time (.occurrence (.heard time bytes))
  | hello {bytes : ByteArray} {raw : String} (h : Message.ofDatagram bytes = .hello m raw) :
      Marks m time (.occurrence (.heard time bytes))
  | set : Marks m time (.mark m time)

/-- The last sign of life of the module among the notices is at this time. -/
def LastMark (m : ModuleId) (notices : List Notice) (time : Int) : Prop :=
  ∃ before notice after, notices = before ++ notice :: after ∧ Marks m time notice ∧
    ∀ later ∈ after, ∀ t, ¬Marks m t later

/-- The times of the calendar, of the years from −262144 to 262143, in milliseconds of the wall clock. -/
def Dated (time : Int) : Prop := -8334632851200000 ≤ time ∧ time ≤ 8210298412799999

instance (time : Int) : Decidable (Dated time) := inferInstanceAs (Decidable (_ ∧ _))

/-! ### The window -/

section Window

variable {l : Liveness} {m : ModuleId} {window : Nat} {now : Int}

lemma isOnline_eq_true : l.isOnline m window now = true ↔
    ∃ time, l.lastSeen? m = some time ∧ (Liveness.longestWindow < window ∨ now - time ≤ window) := by
  unfold Liveness.isOnline
  cases l.lastSeen? m with
  | none => simp
  | some time => simp

lemma isOnline_of_le {wider : Nat} (hwider : window ≤ wider)
    (h : l.isOnline m window now = true) : l.isOnline m wider now = true := by
  obtain ⟨time, hseen, hlong | hage⟩ := isOnline_eq_true.mp h
  · exact isOnline_eq_true.mpr ⟨time, hseen, .inl (Nat.lt_of_lt_of_le hlong hwider)⟩
  · exact isOnline_eq_true.mpr ⟨time, hseen, .inr (hage.trans (Int.ofNat_le.mpr hwider))⟩

/-- The window is measured exactly if no longer one is needed. -/
lemma isOnline_iff_of_measured
    (h : Liveness.longestWindow < window → ∀ time, l.lastSeen? m = some time → now - time ≤ window) :
    l.isOnline m window now = true ↔ ∃ time, l.lastSeen? m = some time ∧ now - time ≤ window := by
  rw [isOnline_eq_true]
  constructor
  · rintro ⟨time, hseen, hlong | hage⟩
    · exact ⟨time, hseen, h hlong time hseen⟩
    · exact ⟨time, hseen, hage⟩
  · rintro ⟨time, hseen, hage⟩
    exact ⟨time, hseen, .inr hage⟩

/-- No two times of the calendar are further apart than the longest window. -/
lemma age_le_longestWindow {time : Int} (hnow : Dated now) (htime : Dated time) :
    now - time ≤ Liveness.longestWindow := by
  unfold Dated at hnow htime
  unfold Liveness.longestWindow
  omega

end Window

/-! ### The last mark -/

lemma signOfLife_eq_some {message : Message} {m : ModuleId} : signOfLife message = some m ↔
    ∃ raw, message = .heartbeat m raw ∨ message = .hello m raw := by
  cases message <;> simp [signOfLife]

/-- The time of the sign of life that the notice is, if it is one of the module. -/
def markOf (m : ModuleId) : Notice → Option Int
  | .occurrence (.heard time bytes) =>
    if signOfLife (.ofDatagram bytes) = some m then some time else none
  | .occurrence _ => none
  | .mark n time => if n = m then some time else none

lemma markOf_eq_some {m : ModuleId} {notice : Notice} {time : Int} :
    markOf m notice = some time ↔ Marks m time notice := by
  constructor
  · intro h
    unfold markOf at h
    split at h
    · split at h
      · rename_i bytes hsign
        cases h
        obtain ⟨raw, hmessage | hmessage⟩ := signOfLife_eq_some.mp hsign
        · exact .heartbeat hmessage
        · exact .hello hmessage
      · cases h
    · cases h
    · split at h
      · rename_i hsame
        cases h
        rw [hsame]
        exact .set
      · cases h
  · intro h
    cases h with
    | heartbeat hmessage => exact if_pos (signOfLife_eq_some.mpr ⟨_, .inl hmessage⟩)
    | hello hmessage => exact if_pos (signOfLife_eq_some.mpr ⟨_, .inr hmessage⟩)
    | set => exact if_pos rfl

def lastMark (m : ModuleId) (notices : List Notice) : Option Int :=
  (notices.filterMap (markOf m)).getLast?

lemma lastMark_append (m : ModuleId) (before after : List Notice) :
    lastMark m (before ++ after) = (lastMark m after).or (lastMark m before) := by
  unfold lastMark
  rw [List.filterMap_append, List.getLast?_append]

lemma lastMark_singleton (m : ModuleId) (notice : Notice) :
    lastMark m [notice] = markOf m notice := by
  unfold lastMark
  cases h : markOf m notice with
  | none => rw [List.filterMap_cons_none h]; rfl
  | some time => rw [List.filterMap_cons_some h]; rfl

lemma lastMark_eq_none {m : ModuleId} {notices : List Notice} :
    lastMark m notices = none ↔ ∀ notice ∈ notices, ∀ time, ¬Marks m time notice := by
  unfold lastMark
  rw [List.getLast?_eq_none_iff, List.filterMap_eq_nil_iff]
  simp only [← markOf_eq_some, Option.eq_none_iff_forall_ne_some, ne_eq]

lemma lastMark_eq_some {m : ModuleId} {notices : List Notice} {time : Int} :
    lastMark m notices = some time ↔ LastMark m notices time := by
  constructor
  · intro h
    obtain ⟨earlier, hmarks⟩ := List.getLast?_eq_some_iff.mp h
    obtain ⟨before, rest, rfl, -, hrest⟩ := List.filterMap_eq_append_iff.mp hmarks
    obtain ⟨silent, notice, after, rfl, -, hnotice, hafter⟩ := List.filterMap_eq_cons_iff.mp hrest
    refine ⟨before ++ silent, notice, after, by rw [List.append_assoc], markOf_eq_some.mp hnotice, ?_⟩
    rw [← lastMark_eq_none, lastMark, hafter]
    rfl
  · rintro ⟨before, notice, after, rfl, hnotice, hafter⟩
    rw [lastMark_append, ← List.singleton_append, lastMark_append, lastMark_eq_none.mpr hafter,
      lastMark_singleton, markOf_eq_some.mpr hnotice]
    rfl

lemma lastMark_unique {m : ModuleId} {notices : List Notice} {last : Int}
    (h : lastMark m notices = some last) (time : Int) : LastMark m notices time ↔ time = last := by
  rw [← lastMark_eq_some, h, Option.some_inj, eq_comm]

/-! ### A session at work -/

variable {σ : Type} {send : Link (StateM σ)}

/-- A mark is set for a module. -/
def Desk.marked (d : Desk σ) (m : ModuleId) (time : Int) : Desk σ :=
  { d with session := { d.session with liveness := d.session.liveness.mark m time } }

variable (send) in
/-- A session since it began, among whose turns marks are set, and all that was noticed, oldest first. -/
inductive Watched (timing : Timing) (world : σ) : List Notice → Desk σ → Prop
  | start : Watched timing world [] (.start timing world)
  | step {notices : List Notice} {d e : Desk σ} (h : Watched timing world notices d)
      (hstep : Happening send d e) :
      Watched timing world (notices ++ (occurred d e).map .occurrence) e
  | mark {notices : List Notice} {d : Desk σ} (h : Watched timing world notices d) (m : ModuleId)
      (time : Int) : Watched timing world (notices ++ [.mark m time]) (d.marked m time)

lemma Happening.hears {d e : Desk σ} (h : Happening send d e) :
    (∃ time bytes, d.session.listening = true ∧ e = d.hear time bytes) ∨ Undisturbed d e := by
  cases h with
  | turn hturn => exact hturn.hears
  | fault id sink hfails =>
    exact .inr (Still.undisturbed ⟨rfl, rfl, rfl, rfl⟩ (List.append_nil _).symm rfl)

lemma not_marks_of_unheard {log : List Occurrence} (h : heardOf log = []) {m : ModuleId} :
    ∀ notice ∈ log.map Notice.occurrence, ∀ time, ¬Marks m time notice := by
  intro notice hmem time hmarks
  obtain ⟨x, hx, rfl⟩ := List.mem_map.mp hmem
  cases hmarks with
  | heartbeat hmessage => exact not_heard_of_mem h hx
  | hello hmessage => exact not_heard_of_mem h hx

/-- What happens next puts the sign of life that it is, if any, in the place of the one before. -/
lemma Happening.lastSeen {d e : Desk σ} (h : Happening send d e) (m : ModuleId) :
    e.session.liveness.lastSeen? m = (lastMark m ((occurred d e).map .occurrence)).or
      (d.session.liveness.lastSeen? m) := by
  obtain ⟨time, bytes, -, rfl⟩ | hsame := h.hears
  · have hoccurred : occurred d (d.hear time bytes) = [.heard time bytes] := occurred_eq rfl
    rw [hoccurred, List.map_singleton, lastMark_singleton]
    dsimp only [Desk.hear, markOf]
    rw [lastSeen?_handle]
    split <;> rfl
  · obtain ⟨later, hlog, hnone⟩ := hsame.log
    rw [occurred_eq hlog, lastMark_eq_none.mpr (not_marks_of_unheard hnone), hsame.liveness,
      Option.none_or]

theorem Watched.lastSeen {timing : Timing} {world : σ} {notices : List Notice} {d : Desk σ}
    (h : Watched send timing world notices d) (m : ModuleId) :
    d.session.liveness.lastSeen? m = lastMark m notices := by
  induction h with
  | start => exact Liveness.lastSeen?_empty m
  | step _ hstep ih => rw [hstep.lastSeen m, ih, lastMark_append]
  | mark _ n time ih =>
    rw [lastMark_append, lastMark_singleton, ← ih]
    dsimp only [Desk.marked, markOf]
    rw [Liveness.lastSeen?_mark]
    split <;> rfl

/-- After any turns, with any marks set among them: a module was last seen at its last sign of life; it
is online in a window, however long, just if it gave one and the last is no older than the window, and
so in every wider one; and what is neither a heartbeat nor a hello of the module leaves that as it is. -/
theorem online_iff_marked_lately {timing : Timing} {world : σ} {notices : List Notice} {d : Desk σ}
    (h : Watched send timing world notices d) (m : ModuleId) :
    (∀ time, d.session.liveness.lastSeen? m = some time ↔ LastMark m notices time) ∧
      (∀ now, Dated now → (∀ time, LastMark m notices time → Dated time) → ∀ window,
        (d.session.liveness.isOnline m window now = true ↔
          ∃ time, LastMark m notices time ∧ now - time ≤ window)) ∧
      (∀ now, d.session.isOnline m now = true ↔
        ∃ time, LastMark m notices time ∧ now - time ≤ 10000) ∧
      (∀ now window wider, window ≤ wider → d.session.liveness.isOnline m window now = true →
        d.session.liveness.isOnline m wider now = true) ∧
      ∀ e, Happening send d e →
        (∀ x ∈ occurred d e, ∀ time, ¬Marks m time (.occurrence x)) →
        e.session.liveness.lastSeen? m = d.session.liveness.lastSeen? m := by
  have hseen : ∀ time, d.session.liveness.lastSeen? m = some time ↔ LastMark m notices time := by
    intro time
    rw [h.lastSeen m, lastMark_eq_some]
  refine ⟨hseen, ?_, ?_, fun now window wider => isOnline_of_le, ?_⟩
  · intro now hnow hdated window
    simp only [← hseen]
    apply isOnline_iff_of_measured
    intro hlong time htime
    have hage := age_le_longestWindow hnow (hdated time ((hseen time).mp htime))
    omega
  · intro now
    simp only [← hseen]
    apply isOnline_iff_of_measured
    intro hlong
    exact absurd hlong (by decide)
  · intro e hstep hnone
    have hsilent : ∀ notice ∈ (occurred d e).map Notice.occurrence, ∀ time,
        ¬Marks m time notice := by
      intro notice hmem
      obtain ⟨x, hx, rfl⟩ := List.mem_map.mp hmem
      exact hnone x hx
    rw [hstep.lastSeen m, lastMark_eq_none.mpr hsilent, Option.none_or]

/-- A module says hello and is marked with an earlier time; then it reports on its lock and a command is
sent to it, while another one is marked with a time to come. -/
def agedDesk : Desk Unit :=
  let greeted := (Desk.start .default ()).hear 9000 "D1 HELLO".toUTF8
  let backdated := greeted.marked ⟨"D1"⟩ 1000
  let reported := backdated.hear 11000 "D1 EVENT D0 LOCK LOCKED".toUTF8
  let asked := reported.call (.command (.status ⟨"D1"⟩))
  asked.marked ⟨"D2"⟩ 50000

def agedNotices : List Notice :=
  [.occurrence (.heard 9000 "D1 HELLO".toUTF8), .mark ⟨"D1"⟩ 1000,
    .occurrence (.heard 11000 "D1 EVENT D0 LOCK LOCKED".toUTF8),
    .occurrence (.issued ⟨⟨"D1"⟩, ⟨1⟩, .default, queryAction⟩), .mark ⟨"D2"⟩ 50000]

lemma agedDesk_watched : Watched plainLink .default () agedNotices agedDesk := by
  have hstart : Watched plainLink .default () [] (.start .default ()) := .start
  have hgreeted := hstart.step (.turn (.hear _ 9000 "D1 HELLO".toUTF8 rfl))
  have hreported := (hgreeted.mark ⟨"D1"⟩ 1000).step
    (.turn (.hear _ 11000 "D1 EVENT D0 LOCK LOCKED".toUTF8 (by decide +kernel)))
  have hasked := hreported.step (.turn (.call _ (.command (.status ⟨"D1"⟩)) rfl))
  exact hasked.mark ⟨"D2"⟩ 50000

/-- The mark counts though it is older than the hello, a time to come is within every window, and no
window is too long to be measured. -/
theorem online_iff_marked_lately_backdated :
    agedDesk.session.liveness.lastSeen? ⟨"D1"⟩ = some 1000 ∧
      agedDesk.session.isOnline ⟨"D1"⟩ 11000 = true ∧
      agedDesk.session.isOnline ⟨"D1"⟩ 11001 = false ∧
      Dated 8210298412799999 ∧
      agedDesk.session.liveness.isOnline ⟨"D1"⟩ 9223372036854775808 8210298412799999 = true ∧
      agedDesk.session.liveness.isOnline ⟨"D2"⟩ 0 12000 = true ∧
      agedDesk.session.liveness.isOnline ⟨"D3"⟩ 9223372036854775808 12000 = false := by
  have hone : ∀ time, LastMark ⟨"D1"⟩ agedNotices time ↔ time = 1000 :=
    lastMark_unique (by decide +kernel)
  have htwo : ∀ time, LastMark ⟨"D2"⟩ agedNotices time ↔ time = 50000 :=
    lastMark_unique (by decide +kernel)
  have hthree : ∀ time, ¬LastMark ⟨"D3"⟩ agedNotices time := by
    intro time
    have hmark : lastMark ⟨"D3"⟩ agedNotices = none := by decide +kernel
    rw [← lastMark_eq_some, hmark]
    exact (nomatch ·)
  have hlatest : Dated 8210298412799999 := by decide
  have hnoon : Dated 12000 := by decide
  obtain ⟨hseen, hexact, hrecent, -⟩ := online_iff_marked_lately agedDesk_watched ⟨"D1"⟩
  refine ⟨(hseen 1000).mpr ((hone 1000).mpr rfl), ?_, ?_, hlatest, ?_, ?_, ?_⟩
  · exact (hrecent 11000).mpr ⟨1000, (hone 1000).mpr rfl, by decide⟩
  · rw [Bool.eq_false_iff, ne_eq, hrecent]
    rintro ⟨time, htime, hage⟩
    rw [(hone time).mp htime] at hage
    exact absurd hage (by decide)
  · refine (hexact _ hlatest ?_ _).mpr ⟨1000, (hone 1000).mpr rfl, by decide⟩
    intro time htime
    rw [(hone time).mp htime]
    decide
  · refine ((online_iff_marked_lately agedDesk_watched ⟨"D2"⟩).2.1 _ hnoon ?_ _).mpr
      ⟨50000, (htwo 50000).mpr rfl, by decide⟩
    intro time htime
    rw [(htwo time).mp htime]
    decide
  · rw [Bool.eq_false_iff, ne_eq, (online_iff_marked_lately agedDesk_watched ⟨"D3"⟩).2.1 _ hnoon
      fun time htime => absurd htime (hthree time)]
    rintro ⟨time, htime, -⟩
    exact hthree time htime

end HubBridge.Proofs
