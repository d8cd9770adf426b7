import HubBridge.Proofs.OneOutcome

/-!
# Entries and their deadlines

Each entry sets an alarm of its own, but an alarm only knows an id. An entry that expires before its
time leaves its alarm behind, and that alarm ends whatever entry has the id when it rings. So an
entry lives until its own deadline exactly if no alarm that was left behind for its id rings earlier.
-/

namespace HubBridge.Proofs.Ledger

variable {κ : Type}

/-- How the alarms that are set belong to the entries. -/
structure Armed (l : Ledger κ) : Prop where
  armed : ∀ id entry, l.table.get? id = some entry →
    ⟨entry.alarm, id, entry.deadline⟩ ∈ l.table.alarms
  serial_inj : ∀ a ∈ l.table.alarms, ∀ b ∈ l.table.alarms, a.serial = b.serial → a = b
  ahead : ∀ a ∈ l.table.alarms, l.clock ≤ a.due
  /-- An alarm is that of an entry that waits, or of one that has expired. -/
  owner : ∀ a ∈ l.table.alarms, ∃ entry ∈ l.entered,
    (a = ⟨entry.alarm, entry.command.id, entry.deadline⟩) ∧
      (l.Waits entry ∨ ⟨entry, expiryOf entry.command.id entry⟩ ∈ l.ended)

lemma start_armed (sinks : Sinks κ) : (start sinks).Armed where
  armed id entry h := by simp [start] at h
  serial_inj a h := by cases h
  ahead a h := by cases h
  owner a h := by cases h

lemma Armed.id_eq {l : Ledger κ} (h : l.Armed) {id : CorrelationId} {entry : PendingCommand κ}
    (hget : l.table.get? id = some entry) {a : Alarm} (ha : a ∈ l.table.alarms)
    (hs : a.serial = entry.alarm) : a = ⟨entry.alarm, id, entry.deadline⟩ :=
  h.serial_inj a ha _ (h.armed id entry hget) hs

variable [DecidableEq κ]

/-- What a use of the table keeps of the alarms if it leaves those of other ids alone. -/
lemma close_armed {l : Ledger κ} (h : l.Armed) {id : CorrelationId}
    {event : PendingCommand κ → Event} {result : Pending κ × Option (Delivery κ)}
    (ht : TakesOut l.table id event result)
    (hkeep : ∀ a ∈ l.table.alarms, a.id ≠ id → a ∈ result.1.alarms)
    (hgone : ∀ entry, l.table.get? id = some entry →
      (∀ a ∈ result.1.alarms, a.serial ≠ entry.alarm) ∨ event entry = expiryOf id entry) :
    (l.close id event result).1.Armed where
  armed other entry hget := by
    have hget : result.1.get? other = some entry := hget
    rw [ht.get?] at hget
    by_cases ho : other = id
    · simp [ho] at hget
    · rw [if_neg ho] at hget
      exact hkeep _ (h.armed other entry hget) ho
  serial_inj a ha b hb := h.serial_inj a (ht.alarms a ha) b (ht.alarms b hb)
  ahead a ha := h.ahead a (ht.alarms a ha)
  owner a ha := by
    obtain ⟨entry, he, hae, hw⟩ := h.owner a (ht.alarms a ha)
    refine ⟨entry, he, hae, ?_⟩
    rcases hw with hw | hx
    · by_cases hid : entry.command.id = id
      -- The owner was ended just now: an alarm of it that is still set means that it expired.
      · have hget : l.table.get? id = some entry := hid ▸ hw
        rcases hgone entry hget with hs | hev
        · exact absurd (by rw [hae]) (hs a ha)
        · refine .inr (List.mem_append_right _ (Option.mem_toList.mpr ?_))
          exact endingOf_eq_some.mpr ⟨hget, by rw [hid, hev]⟩
      · left
        rw [Waits]
        have := ht.get? entry.command.id
        rw [if_neg hid] at this
        exact this.trans hw
    · exact .inr (List.mem_append_left _ hx)

/-- A use that cancels the alarm of the entry it ends. -/
lemma cancelling_armed {l : Ledger κ} (h : l.Armed) {id : CorrelationId}
    {event : PendingCommand κ → Event} {result : Pending κ × Option (Delivery κ)}
    (ht : TakesOut l.table id event result)
    (habsent : l.table.get? id = none → result = (l.table, none))
    (hcancel : ∀ entry, l.table.get? id = some entry →
      result.1.alarms = l.table.alarms.filter (·.serial ≠ entry.alarm)) :
    (l.close id event result).1.Armed := by
  apply close_armed h ht
  · intro a ha hid
    cases hg : l.table.get? id with
    | none => rw [habsent hg]; exact ha
    | some entry =>
      rw [hcancel entry hg, List.mem_filter]
      refine ⟨ha, decide_eq_true fun hs => hid ?_⟩
      rw [h.id_eq hg ha hs]
  · intro entry hg
    left
    intro a ha
    rw [hcancel entry hg, List.mem_filter] at ha
    exact of_decide_eq_true ha.2

lemma mem_alarms_advance {l : Ledger κ} (h : l.Armed) (ms : Nat) (b : Alarm) :
    b ∈ (l.advance ms).table.alarms ↔ b ∈ l.table.alarms ∧ l.clock + ms < b.due := by
  simp only [advance, advance_eq, mem_alarms_ringAll, mem_dueAlarms]
  constructor
  · rintro ⟨hb, hall⟩
    refine ⟨hb, ?_⟩
    by_contra hdue
    exact hall b ⟨hb, by omega⟩ rfl
  · rintro ⟨hb, hdue⟩
    refine ⟨hb, ?_⟩
    rintro a ⟨ha, had⟩ hs
    rw [h.serial_inj b hb a ha hs] at hdue
    omega

lemma get?_advance (l : Ledger κ) (ms : Nat) (id : CorrelationId) :
    (∃ a ∈ l.table.alarms, a.id = id ∧ a.due ≤ l.clock + ms) ∧
        (l.advance ms).table.get? id = none ∨
      (∀ a ∈ l.table.alarms, a.id = id → l.clock + ms < a.due) ∧
        (l.advance ms).table.get? id = l.table.get? id := by
  simp only [advance, advance_eq, get?_ringAll]
  by_cases hdue : id ∈ (l.table.dueAlarms (l.clock + ms)).map (·.id)
  · obtain ⟨a, ha, hid⟩ := List.mem_map.mp hdue
    obtain ⟨ha, had⟩ := mem_dueAlarms.mp ha
    exact .inl ⟨⟨a, ha, hid, had⟩, if_pos hdue⟩
  · refine .inr ⟨?_, if_neg hdue⟩
    intro a ha hid
    by_contra had
    exact hdue (List.mem_map.mpr ⟨a, mem_dueAlarms.mpr ⟨ha, by omega⟩, hid⟩)

lemma advance_armed {l : Ledger κ} (h : l.Armed) (ms : Nat) : (l.advance ms).Armed where
  armed id entry hget := by
    rw [mem_alarms_advance h]
    rcases get?_advance l ms id with ⟨_, hn⟩ | ⟨hlate, hsame⟩
    · rw [hn] at hget
      cases hget
    · rw [hsame] at hget
      have ha := h.armed id entry hget
      exact ⟨ha, hlate _ ha rfl⟩
  serial_inj a ha b hb :=
    h.serial_inj a ((mem_alarms_advance h ms a).mp ha).1 b ((mem_alarms_advance h ms b).mp hb).1
  ahead a ha := Nat.le_of_lt ((mem_alarms_advance h ms a).mp ha).2
  owner a ha := by
    obtain ⟨ha, _⟩ := (mem_alarms_advance h ms a).mp ha
    obtain ⟨entry, he, hae, hw⟩ := h.owner a ha
    refine ⟨entry, he, hae, ?_⟩
    rcases hw with hw | hx
    · rcases get?_advance l ms entry.command.id with ⟨⟨b, hb, hid, hdue⟩, _⟩ | ⟨_, hsame⟩
      -- The owner of an alarm that did not ring was ended by `b`, which was left behind for its id.
      · refine .inr (List.mem_append_right _ ?_)
        rw [mem_ringEndings]
        exact ⟨b, mem_dueAlarms.mpr ⟨hb, hdue⟩, by rw [hid]; exact hw, by rw [hid]⟩
      · exact .inl (hsame.trans hw)
    · exact .inr (List.mem_append_left _ hx)

lemma enter_armed {l : Ledger κ} (hb : l.Balanced) (h : l.Armed) {command : Command}
    {requester : κ} {timeout : Nat} (hc : l.table.contains command.id = false) :
    (l.act (.register command requester timeout)).1.Armed := by
  have hw : ∀ entry, (l.act (.register command requester timeout)).1.Waits entry ↔
      entry = l.entryFor command requester timeout ∨ l.Waits entry := fun _ => enter_waits hc
  have hfresh : ∀ a ∈ l.table.alarms, a.serial ≠ l.table.nextSerial := by
    intro a ha
    obtain ⟨entry, he, hae, _⟩ := h.owner a ha
    rw [hae]
    exact Nat.ne_of_lt (hb.accounted.alarm_lt he)
  rw [act, register_eq_ok hc] at hw ⊢
  have hmem : ∀ a ∈ l.table.alarms ++ [⟨l.table.nextSerial, command.id, l.clock + timeout⟩],
      a ∈ l.table.alarms ∨ a = ⟨l.table.nextSerial, command.id, l.clock + timeout⟩ := by
    intro a ha
    simpa using ha
  refine ⟨?_, ?_, ?_, ?_⟩
  · intro id entry hget
    simp only at hget ⊢
    rw [get?_insert l.table _ command.id id _ rfl] at hget
    by_cases hid : id = command.id
    · rw [if_pos hid, Option.some.injEq] at hget
      subst hget
      simp [Proofs.entryFor, hid]
    · rw [if_neg hid] at hget
      exact List.mem_append_left _ (h.armed id entry hget)
  · intro a ha b hb hs
    rcases hmem a ha with ha | rfl <;> rcases hmem b hb with hb | rfl
    · exact h.serial_inj a ha b hb hs
    · exact absurd hs (hfresh a ha)
    · exact absurd hs.symm (hfresh b hb)
    · rfl
  · intro a ha
    rcases hmem a ha with ha | rfl
    · exact h.ahead a ha
    · exact Nat.le_add_right _ _
  · intro a ha
    rcases hmem a ha with ha | rfl
    · obtain ⟨entry, he, hae, hx⟩ := h.owner a ha
      refine ⟨entry, List.mem_append_left _ he, hae, ?_⟩
      exact hx.imp_left fun he => (hw entry).mpr (.inr he)
    · exact ⟨l.entryFor command requester timeout, by simp, rfl, .inl ((hw _).mpr (.inl rfl))⟩

lemma act_armed {l : Ledger κ} (hb : l.Balanced) (h : l.Armed) (input : Input κ) :
    (l.act input).1.Armed := by
  cases input with
  | register command requester timeout =>
    cases hc : l.table.contains command.id with
    | true => rw [act, register_eq_error hc]; exact h
    | false => exact enter_armed hb h hc
  | resolve id e =>
    exact cancelling_armed h (resolve_takesOut _ _ _) (fun hn => by simp [Pending.resolve, hn])
      fun entry hg => by simp [Pending.resolve, hg, Pending.cancel, Pending.drop]
  | expire id =>
    -- Here the alarm of the entry stays set, unlike with `resolve` and `fail`.
    apply close_armed h (expire_takesOut _ _)
    · intro a ha _
      unfold Pending.expire
      split <;> exact ha
    · exact fun entry _ => .inr rfl
  | fail id cause =>
    exact cancelling_armed h (fail_takesOut _ _ _) (fun hn => by simp [Pending.fail, hn])
      fun entry hg => by simp [Pending.fail, hg, Pending.cancel, Pending.drop]
  | advance ms => exact advance_armed h ms
  | hangUp key => exact ⟨h.armed, h.serial_inj, h.ahead, h.owner⟩

lemma run_armed {l : Ledger κ} (hb : l.Balanced) (h : l.Armed) (inputs : List (Input κ)) :
    (l.run inputs).Armed := by
  induction inputs generalizing l with
  | nil => exact h
  | cons input rest ih => exact ih (act_balanced hb input) (act_armed hb h input)

/-! ### Living by a deadline -/

def Input.Ends (id : CorrelationId) : Input κ → Prop
  | .resolve other _ | .expire other | .fail other _ => other = id
  | _ => False

/-- No input asks for the end of the entry while it waits. -/
def Spares (entry : PendingCommand κ) : Ledger κ → List (Input κ) → Prop
  | _, [] => True
  | l, input :: rest =>
    (l.Waits entry → ¬input.Ends entry.command.id) ∧ Spares entry (l.act input).1 rest

/-- Unless it is ended before, the entry waits until its deadline, and when that has come it is gone
and its requester was told once, that its time was up. -/
def KeepsDeadline (l : Ledger κ) (entry : PendingCommand κ) : Prop :=
  ∀ inputs, l.Spares entry inputs →
    ((l.run inputs).clock < entry.deadline →
      (l.run inputs).Waits entry ∧ entry ∉ (l.run inputs).ended.map Ending.entry) ∧
    ∀ ms, entry.deadline ≤ (l.run inputs).clock + ms →
      ¬((l.run inputs).advance ms).Waits entry ∧
      ∃ older newer, ((l.run inputs).advance ms).ended =
          older ++ ⟨entry, expiryOf entry.command.id entry⟩ :: newer ∧
        entry ∉ (older ++ newer).map Ending.entry

/-- The entry is on time: it waits and no alarm for its id rings early, or its time was up. -/
def OnTime (l : Ledger κ) (entry : PendingCommand κ) : Prop :=
  (l.Waits entry ∧ ∀ a ∈ l.table.alarms, a.id = entry.command.id → entry.deadline ≤ a.due) ∨
    (⟨entry, expiryOf entry.command.id entry⟩ ∈ l.ended ∧ entry.deadline ≤ l.clock)

lemma close_onTime {l : Ledger κ} {entry : PendingCommand κ} (h : l.OnTime entry)
    {id : CorrelationId} {event : PendingCommand κ → Event}
    {result : Pending κ × Option (Delivery κ)} (ht : TakesOut l.table id event result)
    (hid : l.Waits entry → ¬id = entry.command.id) : (l.close id event result).1.OnTime entry := by
  rcases h with ⟨hw, hl⟩ | ⟨hx, hd⟩
  · left
    refine ⟨?_, fun a ha => hl a (ht.alarms a ha)⟩
    have hget := ht.get? entry.command.id
    rw [if_neg (fun e => hid hw e.symm)] at hget
    exact hget.trans hw
  · exact .inr ⟨List.mem_append_left _ hx, hd⟩

lemma advance_onTime {l : Ledger κ} {entry : PendingCommand κ} (h : l.OnTime entry) (ms : Nat) :
    (l.advance ms).OnTime entry := by
  rcases h with ⟨hw, hl⟩ | ⟨hx, hd⟩
  · rcases get?_advance l ms entry.command.id with ⟨⟨a, ha, hid, hdue⟩, _⟩ | ⟨_, hsame⟩
    · right
      refine ⟨List.mem_append_right _ ((mem_ringEndings _ _ _).mpr ?_), ?_⟩
      · exact ⟨a, mem_dueAlarms.mpr ⟨ha, hdue⟩, by rw [hid]; exact hw, by rw [hid]⟩
      · exact Nat.le_trans (hl a ha hid) hdue
    · left
      refine ⟨hsame.trans hw, fun a ha hid => ?_⟩
      simp only [advance, advance_eq, mem_alarms_ringAll] at ha
      exact hl a ha.1 hid
  · exact .inr ⟨List.mem_append_left _ hx, Nat.le_trans hd (Nat.le_add_right _ _)⟩

lemma enter_onTime {l : Ledger κ} {entry : PendingCommand κ} (h : l.OnTime entry)
    {command : Command} {requester : κ} {timeout : Nat}
    (hc : l.table.contains command.id = false) :
    (l.act (.register command requester timeout)).1.OnTime entry := by
  rcases h with ⟨hw, hl⟩ | ⟨hx, hd⟩
  · left
    refine ⟨(enter_waits hc).mpr (.inr hw), ?_⟩
    rw [act, register_eq_ok hc]
    intro a ha hid
    rcases List.mem_append.mp ha with ha | ha
    · exact hl a ha hid
    · have hid : command.id = entry.command.id := by rwa [List.mem_singleton.mp ha] at hid
      have hnone := get?_eq_none hc
      rw [hid] at hnone
      rw [Waits, hnone] at hw
      cases hw
  · right
    rw [act, register_eq_ok hc]
    exact ⟨hx, hd⟩

lemma act_onTime {l : Ledger κ} {entry : PendingCommand κ} (h : l.OnTime entry) {input : Input κ}
    (hs : l.Waits entry → ¬input.Ends entry.command.id) : (l.act input).1.OnTime entry := by
  cases input with
  | register command requester timeout =>
    cases hc : l.table.contains command.id with
    | true => rw [act, register_eq_error hc]; exact h
    | false => exact enter_onTime h hc
  | resolve id e => exact close_onTime h (resolve_takesOut _ _ _) hs
  | expire id => exact close_onTime h (expire_takesOut _ _) hs
  | fail id cause => exact close_onTime h (fail_takesOut _ _ _) hs
  | advance ms => exact advance_onTime h ms
  | hangUp key => exact h

lemma run_onTime {entry : PendingCommand κ} (inputs : List (Input κ)) {l : Ledger κ}
    (h : l.OnTime entry) (hs : l.Spares entry inputs) : (l.run inputs).OnTime entry := by
  induction inputs generalizing l with
  | nil => exact h
  | cons input rest ih => exact ih (act_onTime h hs.1) hs.2

lemma run_entered {entry : PendingCommand κ} (inputs : List (Input κ)) {l : Ledger κ}
    (h : entry ∈ l.entered) : entry ∈ (l.run inputs).entered := by
  induction inputs generalizing l with
  | nil => exact h
  | cons input rest ih =>
    apply ih
    cases input with
    | register command requester timeout =>
      unfold act
      dsimp only
      split
      · exact List.mem_append_left _ h
      · exact h
    | resolve | expire | fail | advance | hangUp => exact h

lemma keepsDeadline_of_onTime {l : Ledger κ} (hb : l.Balanced) (ha : l.Armed)
    {entry : PendingCommand κ} (he : entry ∈ l.entered) (h : l.OnTime entry) :
    l.KeepsDeadline entry := by
  intro inputs hs
  have hb' := run_balanced hb inputs
  have ha' := run_armed hb ha inputs
  have hot := run_onTime inputs h hs
  have he' := run_entered inputs he
  generalize l.run inputs = later at hb' ha' hot he'
  refine ⟨?_, ?_⟩
  · intro hclock
    rcases hot with ⟨hw, _⟩ | ⟨_, hd⟩
    · exact ⟨hw, (hb'.accounted.waits_iff entry he').mp hw⟩
    · omega
  · intro ms hms
    have hclock : (later.advance ms).clock = later.clock + ms := rfl
    rcases advance_onTime hot ms with ⟨hw, _⟩ | ⟨hx, _⟩
    · have hown := (advance_armed ha' ms).armed _ _ hw
      have := (mem_alarms_advance ha' ms _).mp hown
      simp only at this
      omega
    · have hbal : (later.advance ms).Balanced := act_balanced hb' (.advance ms)
      obtain ⟨older, newer, hsplit⟩ := List.append_of_mem hx
      have hmem : entry ∈ (later.advance ms).ended.map Ending.entry := List.mem_map.mpr ⟨_, hx, rfl⟩
      refine ⟨?_, older, newer, hsplit, ?_⟩
      · exact fun hw => (hbal.accounted.waits_iff entry he').mp hw hmem
      · have hnodup := hbal.accounted.ended_once
        rw [hsplit, List.map_append, List.map_cons, List.nodup_middle,
          List.nodup_cons] at hnodup
        rw [List.map_append]
        exact hnodup.1

/-- An alarm that was left behind for the id of an entry and rings early ends the entry. -/
lemma not_keepsDeadline {l : Ledger κ} (h : l.Armed) {entry : PendingCommand κ} {a : Alarm}
    (ha : a ∈ l.table.alarms) (hid : a.id = entry.command.id) (hdue : a.due < entry.deadline) :
    ¬l.KeepsDeadline entry := by
  intro hk
  have hahead := h.ahead a ha
  have hclock : (l.run [.advance (a.due - l.clock)]).clock = a.due :=
    Nat.add_sub_of_le hahead
  have hspares : l.Spares entry [.advance (a.due - l.clock)] := ⟨fun _ => id, trivial⟩
  obtain ⟨hw, _⟩ := (hk _ hspares).1 (by rw [hclock]; exact hdue)
  rcases get?_advance l (a.due - l.clock) entry.command.id with ⟨_, hn⟩ | ⟨hlate, _⟩
  · have hw : (l.advance (a.due - l.clock)).table.get? entry.command.id = some entry := hw
    rw [hn] at hw
    cases hw
  · have := hlate a ha hid
    omega

/-- Under an id that is free, an entry lives by its own deadline exactly if no alarm that is still
set for the id rings earlier. Such an alarm was set for an entry of that id which then expired before
its time. -/
theorem keepsDeadline_iff (sinks : Sinks κ) (inputs : List (Input κ)) (command : Command)
    (requester : κ) (timeout : Nat)
    (hfree : ((start sinks).run inputs).table.contains command.id = false) :
    let l := (start sinks).run inputs
    let entry := l.entryFor command requester timeout
    ((l.act (.register command requester timeout)).1.KeepsDeadline entry ↔
        ∀ a ∈ l.table.alarms, a.id = command.id → l.clock + timeout ≤ a.due) ∧
      ∀ a ∈ l.table.alarms, a.id = command.id → ∃ old,
        ⟨old, expiryOf command.id old⟩ ∈ l.ended ∧ old.command.id = command.id ∧
          old.alarm = a.serial ∧ old.deadline = a.due ∧ l.clock ≤ a.due := by
  dsimp only
  have hb := run_balanced (start_balanced sinks) inputs
  have ha := run_armed (start_balanced sinks) (start_armed sinks) inputs
  generalize (start sinks).run inputs = l at hfree hb ha
  have hb' := act_balanced hb (.register command requester timeout)
  have ha' := act_armed hb ha (.register command requester timeout)
  have halarms : (l.act (.register command requester timeout)).1.table.alarms =
      l.table.alarms ++ [⟨l.table.nextSerial, command.id, l.clock + timeout⟩] := by
    rw [act, register_eq_ok hfree]
  refine ⟨⟨?_, ?_⟩, ?_⟩
  · intro hk a hm hid
    by_contra hearly
    have hm' : a ∈ (l.act (.register command requester timeout)).1.table.alarms := by
      rw [halarms]
      exact List.mem_append_left _ hm
    exact not_keepsDeadline ha' hm' hid (Nat.lt_of_not_le hearly) hk
  · intro hlate
    apply keepsDeadline_of_onTime hb' ha'
    · rw [act, register_eq_ok hfree]
      simp
    · refine .inl ⟨(enter_waits hfree).mpr (.inl rfl), ?_⟩
      intro a hm hid
      rw [halarms] at hm
      rcases List.mem_append.mp hm with hm | hm
      · exact hlate a hm hid
      · rw [List.mem_singleton.mp hm]
        exact Nat.le_refl _
  · intro a hm hid
    obtain ⟨old, _, rfl, hw⟩ := ha.owner a hm
    have hid : old.command.id = command.id := hid
    rcases hw with hw | hx
    · rw [Waits, hid, get?_eq_none hfree] at hw
      cases hw
    · exact ⟨old, by rw [← hid]; exact hx, hid, rfl, rfl, ha.ahead _ hm⟩

def query4 : Command := (Request.status ⟨"D1"⟩).toCommand ⟨4⟩

/-- An id that was freed by an expiry while its alarm was still far off. -/
def freedEarly : List (Input Nat) := [.register query4 1 1000, .advance 500, .expire ⟨4⟩]

theorem keepsDeadline_short :
    ((start .empty).run freedEarly).table.contains query4.id = false ∧
      (((start .empty).run freedEarly).act (.register query4 2 400)).1.KeepsDeadline
        (((start .empty).run freedEarly).entryFor query4 2 400) := by
  have hfree : ((start .empty).run freedEarly).table.contains query4.id = false := by
    decide +kernel
  refine ⟨hfree, (keepsDeadline_iff .empty freedEarly query4 2 400 hfree).1.mpr ?_⟩
  decide +kernel

/-- The alarm that was left behind ends the next entry 500 milliseconds early. -/
theorem not_keepsDeadline_long :
    let l := (start .empty).run freedEarly
    let entry := l.entryFor query4 2 1000
    let later := l.run [.register query4 2 1000, .advance 500]
    ¬(l.act (.register query4 2 1000)).1.KeepsDeadline entry ∧
      entry.deadline = 1500 ∧ later.clock = 1000 ∧ later.table.contains query4.id = false ∧
      later.made.map (fun d => (d.requester, d.event)) =
        [(1, .commandError ⟨"D1"⟩ ⟨4⟩ .timeout timeoutText),
          (2, .commandError ⟨"D1"⟩ ⟨4⟩ .timeout timeoutText)] := by
  refine ⟨?_, by decide +kernel, by decide +kernel, by decide +kernel, by decide +kernel⟩
  intro hk
  have hspares : (((start .empty).run freedEarly).act (.register query4 2 1000)).1.Spares
      (((start .empty).run freedEarly).entryFor query4 2 1000) [.advance 500] :=
    ⟨fun _ => id, trivial⟩
  obtain ⟨hw, _⟩ := (hk _ hspares).1 (by decide +kernel)
  have hgone : ((((start .empty).run freedEarly).act (.register query4 2 1000)).1.run
      [.advance 500]).table.contains query4.id = false := by decide +kernel
  have hnone := get?_eq_none hgone
  rw [Waits] at hw
  exact absurd (hnone.symm.trans hw) (by simp)

end HubBridge.Proofs.Ledger
