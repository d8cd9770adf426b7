import HubBridge.Proofs.Ledger

/-!
# One outcome for each command

Replies, alarms, expiries and failed sends race for the entries of a table. Whatever their order, and
whether or not the sinks still take anything, each entry that was taken in waits until the one call
of its requester, and that call is made by the step that takes it out.
-/

namespace HubBridge.Proofs

variable {κ : Type}

namespace Ledger

/-- The books balance, and the calls made are those of the entries that ended. -/
structure Balanced (l : Ledger κ) : Prop where
  accounted : Accounted l.entered l.table l.ended
  made_eq : l.made = l.ended.map Ending.delivery

lemma Balanced.waits {l : Ledger κ} (h : l.Balanced) {id : CorrelationId}
    {entry : PendingCommand κ} (hget : l.table.get? id = some entry) : l.Waits entry := by
  rw [Waits, (h.accounted.entered_of_get? id entry hget).2]
  exact hget

lemma start_balanced (sinks : Sinks κ) : (start sinks).Balanced := ⟨accounted_empty, rfl⟩

variable [DecidableEq κ]

def Input.sinks : Input κ → Sinks κ → Sinks κ
  | .hangUp key, sinks => sinks.modify key Sink.disconnect
  | _, sinks => sinks

/-- The calls made on the way from `l` to `after`: one for each entry that is gone, and no other. -/
def Calls (l after : Ledger κ) (input : Input κ) (new : List (Ending κ)) : Prop :=
  after.ended = l.ended ++ new ∧
    after.made = l.made ++ new.map Ending.delivery ∧
    after.sinks = (new.map Ending.delivery).foldl Sinks.perform (input.sinks l.sinks) ∧
    (∀ x ∈ new, l.Waits x.entry) ∧
    ∀ entry, l.Waits entry → (¬after.Waits entry ↔ entry ∈ new.map Ending.entry)

/-- The entry of `id` is ended with `event` and the answer is yes, or nothing at all changes and the
answer is no. -/
def Closes (l after : Ledger κ) (id : CorrelationId) (event : PendingCommand κ → Event)
    (new : List (Ending κ)) (answer : Option Bool) : Prop :=
  match l.table.get? id with
  | some entry => answer = some true ∧ after.table.get? id = none ∧ new = [⟨entry, event entry⟩]
  | none => answer = some false ∧ after = l

/-- What each input does beyond making the calls `new`. -/
def Obeys (l after : Ledger κ) (new : List (Ending κ)) (answer : Option Bool) : Input κ → Prop
  | .register command requester timeout =>
    if l.table.contains command.id then
      answer = some false ∧ after = l ∧
        l.table.register l.clock timeout command requester = .error (.duplicateId command.id)
    else
      answer = some true ∧ new = [] ∧
        after.Waits (l.entryFor command requester timeout) ∧
        after.entered = l.entered ++ [l.entryFor command requester timeout]
  | .resolve id e => l.Closes after id (fun _ => e) new answer
  | .expire id => l.Closes after id (expiryOf id) new answer
  | .fail id cause => l.Closes after id (failureOf id cause) new answer
  | .advance ms =>
    after.clock = l.clock + ms ∧ ∀ x ∈ new, x.event = expiryOf x.entry.command.id x.entry
  | .hangUp _ => after.table = l.table ∧ new = []

lemma close_balanced {l : Ledger κ} (h : l.Balanced) {id : CorrelationId}
    {event : PendingCommand κ → Event} {result : Pending κ × Option (Delivery κ)}
    (ht : TakesOut l.table id event result) : (l.close id event result).1.Balanced where
  accounted := h.accounted.takesOut ht
  made_eq := by
    simp only [close, List.map_append, h.made_eq, ht.told]
    cases endingOf l.table id event <;> rfl

lemma act_balanced {l : Ledger κ} (h : l.Balanced) (input : Input κ) : (l.act input).1.Balanced := by
  cases input with
  | register command requester timeout =>
    cases hc : l.table.contains command.id with
    | true => rw [act, register_eq_error hc]; exact h
    | false =>
      rw [act, register_eq_ok hc]
      exact ⟨h.accounted.enter hc rfl rfl, h.made_eq⟩
  | resolve id e => exact close_balanced h (resolve_takesOut _ _ _)
  | expire id => exact close_balanced h (expire_takesOut _ _)
  | fail id cause => exact close_balanced h (fail_takesOut _ _ _)
  | advance ms =>
    simp only [act, advance, advance_eq]
    exact ⟨h.accounted.ringAll _, by rw [List.map_append, h.made_eq]⟩
  | hangUp key => exact ⟨h.accounted, h.made_eq⟩

lemma run_balanced {l : Ledger κ} (h : l.Balanced) (inputs : List (Input κ)) :
    (l.run inputs).Balanced := by
  induction inputs generalizing l with
  | nil => exact h
  | cons input rest ih => exact ih (act_balanced h input)

lemma calls_nothing {l after : Ledger κ} {input : Input κ} (hended : after.ended = l.ended)
    (hmade : after.made = l.made) (hsinks : after.sinks = input.sinks l.sinks)
    (hw : ∀ entry, l.Waits entry → after.Waits entry) : l.Calls after input [] :=
  ⟨by simp [hended], by simp [hmade], hsinks, by simp, fun entry h => by simp [hw entry h]⟩

lemma close_calls {l : Ledger κ} (h : l.Balanced) {id : CorrelationId}
    {event : PendingCommand κ → Event} {result : Pending κ × Option (Delivery κ)}
    (ht : TakesOut l.table id event result) {input : Input κ} (hi : input.sinks l.sinks = l.sinks) :
    l.Calls (l.close id event result).1 input (endingOf l.table id event).toList := by
  have hmade : result.2.toList = (endingOf l.table id event).toList.map Ending.delivery := by
    rw [ht.told]
    cases endingOf l.table id event <;> rfl
  refine ⟨rfl, by rw [← hmade]; rfl, by rw [← hmade, hi]; rfl, ?_, ?_⟩
  · intro x hx
    exact h.waits (endingOf_eq_some.mp (Option.mem_toList.mp hx)).1
  · intro entry he
    have hget : (l.close id event result).1.table.get? entry.command.id = _ :=
      ht.get? entry.command.id
    rw [Waits, hget]
    rw [Waits] at he
    by_cases hid : entry.command.id = id
    · rw [if_pos hid]
      rw [hid] at he
      simp [endingOf, he]
    · rw [if_neg hid]
      simp only [he, not_true_eq_false, false_iff, List.mem_map, not_exists, not_and]
      intro x hx hxe
      have hget := (endingOf_eq_some.mp (Option.mem_toList.mp hx)).1
      rw [hxe] at hget
      exact hid (h.accounted.entered_of_get? id entry hget).2

lemma close_closes {l : Ledger κ} {id : CorrelationId} {event : PendingCommand κ → Event}
    {result : Pending κ × Option (Delivery κ)} (ht : TakesOut l.table id event result)
    (habsent : l.table.get? id = none → result = (l.table, none)) :
    l.Closes (l.close id event result).1 id event (endingOf l.table id event).toList
      (l.close id event result).2 := by
  unfold Closes
  cases hg : l.table.get? id with
  | some entry =>
    have he : endingOf l.table id event = some ⟨entry, event entry⟩ := by simp [endingOf, hg]
    have hget : (l.close id event result).1.table.get? id = none := by
      have := ht.get? id
      rwa [if_pos rfl] at this
    refine ⟨?_, hget, by simp [he]⟩
    simp [close, ht.told, he]
  | none =>
    rw [habsent hg]
    simp [close, endingOf, hg]

lemma enter_waits {l : Ledger κ} {command : Command} {requester : κ} {timeout : Nat}
    (hc : l.table.contains command.id = false) {entry : PendingCommand κ} :
    (l.act (.register command requester timeout)).1.Waits entry ↔
      entry = l.entryFor command requester timeout ∨ l.Waits entry := by
  have hnone := get?_eq_none hc
  rw [act, register_eq_ok hc]
  simp only [Waits]
  rw [get?_insert l.table _ command.id entry.command.id _ rfl]
  by_cases hid : entry.command.id = command.id
  · rw [if_pos hid, hid, hnone]
    simp [entryFor, eq_comm]
  · rw [if_neg hid]
    have hne : entry ≠ l.entryFor command requester timeout := by
      intro he
      rw [he] at hid
      exact hid rfl
    simp [hne]

lemma advance_calls {l : Ledger κ} (h : l.Balanced) (ms : Nat) :
    l.Calls (l.advance ms) (.advance ms)
      (ringEndings l.table (l.table.dueAlarms (l.clock + ms))) := by
  simp only [advance, advance_eq]
  refine ⟨rfl, rfl, rfl, ?_, ?_⟩
  · intro x hx
    obtain ⟨a, _, hget, _⟩ := (mem_ringEndings _ _ _).mp hx
    exact h.waits hget
  · intro entry he
    simp only [Waits] at he ⊢
    rw [get?_ringAll, he]
    constructor
    · intro hgone
      have hdue : entry.command.id ∈ (l.table.dueAlarms (l.clock + ms)).map (·.id) := by
        by_contra hn
        rw [if_neg hn] at hgone
        exact hgone rfl
      obtain ⟨a, ha, hid⟩ := List.mem_map.mp hdue
      exact List.mem_map.mpr ⟨⟨entry, expiryOf a.id entry⟩,
        (mem_ringEndings _ _ _).mpr ⟨a, ha, by rw [hid]; exact he, rfl⟩, rfl⟩
    · intro hm
      obtain ⟨x, hx, rfl⟩ := List.mem_map.mp hm
      obtain ⟨a, ha, hget, _⟩ := (mem_ringEndings _ _ _).mp hx
      have hid := (h.accounted.entered_of_get? _ _ hget).2
      rw [if_pos (List.mem_map.mpr ⟨a, ha, hid.symm⟩)]
      simp

lemma act_calls {l : Ledger κ} (h : l.Balanced) (input : Input κ) :
    ∃ new, l.Calls (l.act input).1 input new ∧
      l.Obeys (l.act input).1 new (l.act input).2 input := by
  cases input with
  | register command requester timeout =>
    refine ⟨[], ?_⟩
    cases hc : l.table.contains command.id with
    | true =>
      have hact : l.act (.register command requester timeout) = (l, some false) := by
        rw [act, register_eq_error hc]
      rw [hact]
      exact ⟨calls_nothing rfl rfl rfl fun _ he => he, by simp [Obeys, hc, register_eq_error hc]⟩
    | false =>
      refine ⟨calls_nothing ?_ ?_ ?_ fun _ he => (enter_waits hc).mpr (.inr he), ?_⟩
      · rw [act, register_eq_ok hc]
      · rw [act, register_eq_ok hc]
      · rw [act, register_eq_ok hc]
        rfl
      · have hw : (l.act (.register command requester timeout)).1.Waits
            (l.entryFor command requester timeout) := (enter_waits hc).mpr (.inl rfl)
        simp only [Obeys, hc, Bool.false_eq_true, if_false, true_and]
        refine ⟨?_, hw, ?_⟩ <;> rw [act, register_eq_ok hc]
  | resolve id e =>
    exact ⟨_, close_calls h (resolve_takesOut _ _ _) rfl,
      close_closes (resolve_takesOut _ _ _) fun hn => by simp [Pending.resolve, hn]⟩
  | expire id =>
    exact ⟨_, close_calls h (expire_takesOut _ _) rfl,
      close_closes (expire_takesOut _ _) fun hn => by simp [Pending.expire, hn]⟩
  | fail id cause =>
    exact ⟨_, close_calls h (fail_takesOut _ _ _) rfl,
      close_closes (fail_takesOut _ _ _) fun hn => by simp [Pending.fail, hn]⟩
  | advance ms =>
    refine ⟨_, advance_calls h ms, rfl, ?_⟩
    intro x hx
    obtain ⟨a, _, hget, he⟩ := (mem_ringEndings _ _ _).mp hx
    rw [he, (h.accounted.entered_of_get? _ _ hget).2]
  | hangUp key => exact ⟨[], calls_nothing rfl rfl rfl fun _ he => he, rfl, rfl⟩

/-- After any history the books balance: an entry waits exactly as long as its requester was not
called for it, and entries and calls add up. And whatever happens next makes one call for each entry
that it takes out, on that entry's requester, and no other. -/
theorem one_outcome_each (sinks : Sinks κ) (inputs : List (Input κ)) (input : Input κ) :
    let l := (start sinks).run inputs
    let after := (l.act input).1
    l.Balanced ∧ ∃ new, l.Calls after input new ∧ l.Obeys after new (l.act input).2 input := by
  have h := run_balanced (start_balanced sinks) inputs
  exact ⟨h, act_calls h input⟩

end Ledger

end HubBridge.Proofs
