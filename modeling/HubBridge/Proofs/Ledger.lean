import HubBridge.Proofs.Endings
import Mathlib.Data.List.Nodup
import Mathlib.Data.List.Range

/-!
# Keeping books on a table

A `Ledger` is a table at work: the clock that its alarms go by, the sinks of its requesters, and
books of what was taken in and of every call that was made. `Accounted` says that the books balance:
every entry that was taken in waits, or its requester was called for it once.
-/

namespace HubBridge.Proofs

variable {κ : Type}

/-- The entries that were taken in, the table and the calls fit together. -/
structure Accounted (entered : List (PendingCommand κ)) (p : Pending κ)
    (ended : List (Ending κ)) : Prop where
  /-- The entries are told apart by their serial numbers. -/
  serials : entered.map (·.alarm) = List.range p.nextSerial
  entered_of_get? : ∀ id entry, p.get? id = some entry → entry ∈ entered ∧ entry.command.id = id
  entered_of_ended : ∀ x ∈ ended, x.entry ∈ entered
  ended_once : (ended.map Ending.entry).Nodup
  waits_iff : ∀ entry ∈ entered,
    p.get? entry.command.id = some entry ↔ entry ∉ ended.map Ending.entry
  count : entered.length = p.size + ended.length

lemma accounted_empty : Accounted ([] : List (PendingCommand κ)) .empty [] where
  serials := rfl
  entered_of_get? id entry h := by simp at h
  entered_of_ended x hx := by cases hx
  ended_once := List.nodup_nil
  waits_iff entry h := by cases h
  count := by simp [size_eq, Pending.empty]

lemma Accounted.alarm_lt {entered : List (PendingCommand κ)} {p : Pending κ}
    {ended : List (Ending κ)} (h : Accounted entered p ended) {entry : PendingCommand κ}
    (he : entry ∈ entered) : entry.alarm < p.nextSerial := by
  have hm : entry.alarm ∈ entered.map (·.alarm) := List.mem_map.mpr ⟨entry, he, rfl⟩
  rw [h.serials] at hm
  exact List.mem_range.mp hm

lemma Accounted.takesOut {entered : List (PendingCommand κ)} {p : Pending κ}
    {ended : List (Ending κ)} (h : Accounted entered p ended) {id : CorrelationId}
    {event : PendingCommand κ → Event} {result : Pending κ × Option (Delivery κ)}
    (ht : TakesOut p id event result) :
    Accounted entered result.1 (ended ++ (endingOf p id event).toList) := by
  have hsize := ht.size
  rw [ht.told] at hsize
  cases hp : p.get? id with
  | none =>
    have hnone : endingOf p id event = none := by simp [endingOf, hp]
    have hget : ∀ other, result.1.get? other = p.get? other := by
      intro other
      rw [ht.get?]
      by_cases ho : other = id
      · rw [if_pos ho, ho, hp]
      · rw [if_neg ho]
    simp only [hnone, Option.map_none, Option.toList_none, List.length_nil, Nat.add_zero] at hsize
    rw [hnone, Option.toList_none, List.append_nil]
    exact ⟨by rw [ht.nextSerial]; exact h.serials,
      fun other entry he => h.entered_of_get? other entry (by rwa [hget] at he),
      h.entered_of_ended, h.ended_once,
      fun entry he => by rw [hget]; exact h.waits_iff entry he, by rw [hsize]; exact h.count⟩
  | some gone =>
    obtain ⟨hgone, hid⟩ := h.entered_of_get? id gone hp
    have hnew : gone ∉ ended.map Ending.entry := by
      rw [← h.waits_iff gone hgone, hid]
      exact hp
    have hsome : endingOf p id event = some ⟨gone, event gone⟩ := by simp [endingOf, hp]
    simp only [hsome, Option.map_some, Option.toList_some, List.length_singleton] at hsize
    rw [hsome, Option.toList_some]
    refine ⟨by rw [ht.nextSerial]; exact h.serials, ?_, ?_, ?_, ?_, ?_⟩
    · intro other entry he
      rw [ht.get?] at he
      by_cases ho : other = id
      · simp [ho] at he
      · exact h.entered_of_get? other entry (by simpa [ho] using he)
    · intro x hx
      rcases List.mem_append.mp hx with hx | hx
      · exact h.entered_of_ended x hx
      · rw [List.mem_singleton.mp hx]
        exact hgone
    · rw [List.map_append, List.nodup_append]
      refine ⟨h.ended_once, by simp, ?_⟩
      intro a ha b hb hab
      have hg : a = gone := hab.trans (List.mem_singleton.mp hb)
      exact hnew (hg ▸ ha)
    · intro entry he
      rw [ht.get?, List.map_append, List.mem_append, not_or, List.map_singleton,
        List.mem_singleton, ← h.waits_iff entry he]
      by_cases ho : entry.command.id = id
      · rw [if_pos ho, ho, hp]
        simp [eq_comm]
      · rw [if_neg ho]
        have hne : entry ≠ gone := fun e => ho (by rw [e, hid])
        simp [hne]
    · rw [List.length_append, List.length_singleton, h.count]
      omega

lemma Accounted.ringAll {entered : List (PendingCommand κ)} (alarms : List Alarm)
    {p : Pending κ} {ended : List (Ending κ)} (h : Accounted entered p ended) :
    Accounted entered (ringAll p alarms) (ended ++ ringEndings p alarms) := by
  induction alarms generalizing p ended with
  | nil => simpa [ringEndings] using h
  | cons a rest ih =>
    rw [ringEndings, ← List.append_assoc]
    exact ih (h.takesOut (ring_takesOut p a))

def entryFor (p : Pending κ) (now timeout : Nat) (command : Command) (requester : κ) :
    PendingCommand κ :=
  ⟨command, requester, now + timeout, p.nextSerial⟩

lemma register_eq_ok {p : Pending κ} {now timeout : Nat} {command : Command} {requester : κ}
    (h : p.contains command.id = false) :
    p.register now timeout command requester = .ok
      { entries := p.entries.insert command.id (entryFor p now timeout command requester)
        alarms := p.alarms ++ [⟨p.nextSerial, command.id, now + timeout⟩]
        nextSerial := p.nextSerial + 1 } := by
  simp [Pending.register, h, entryFor]

lemma register_eq_error {p : Pending κ} {now timeout : Nat} {command : Command} {requester : κ}
    (h : p.contains command.id = true) :
    p.register now timeout command requester = .error (.duplicateId command.id) := by
  simp [Pending.register, h]

lemma get?_insert (p q : Pending κ) (id other : CorrelationId) (entry : PendingCommand κ)
    (h : q.entries = p.entries.insert id entry) :
    q.get? other = if other = id then some entry else p.get? other := by
  rw [Pending.get?, h, Std.TreeMap.getElem?_insert]
  by_cases ho : other = id
  · simp [ho]
  · have hne : id ≠ other := fun e => ho e.symm
    simp [ho, hne, Pending.get?]

lemma get?_eq_none {p : Pending κ} {id : CorrelationId} (h : p.contains id = false) :
    p.get? id = none := by
  simpa [Pending.contains] using h

lemma Accounted.enter {entered : List (PendingCommand κ)} {p q : Pending κ}
    {ended : List (Ending κ)} (h : Accounted entered p ended) {now timeout : Nat}
    {command : Command} {requester : κ} (hc : p.contains command.id = false)
    (hentries : q.entries = p.entries.insert command.id (entryFor p now timeout command requester))
    (hserial : q.nextSerial = p.nextSerial + 1) :
    Accounted (entered ++ [entryFor p now timeout command requester]) q ended := by
  let new := entryFor p now timeout command requester
  have hget := fun other => get?_insert p q command.id other new hentries
  have hnone := get?_eq_none hc
  have hfresh : new ∉ entered := fun hm => absurd (h.alarm_lt hm) (by simp [new, entryFor])
  refine ⟨?_, ?_, ?_, h.ended_once, ?_, ?_⟩
  · rw [List.map_append, h.serials, hserial, List.range_succ]
    rfl
  · intro id entry he
    rw [hget] at he
    by_cases hi : id = command.id
    · rw [if_pos hi, Option.some.injEq] at he
      subst he
      exact ⟨by simp [new], hi.symm⟩
    · rw [if_neg hi] at he
      obtain ⟨hm, hid⟩ := h.entered_of_get? id entry he
      exact ⟨List.mem_append_left _ hm, hid⟩
  · exact fun x hx => List.mem_append_left _ (h.entered_of_ended x hx)
  · intro entry he
    rw [hget]
    rcases List.mem_append.mp he with hm | hm
    · have hne : new ≠ entry := fun e => hfresh (e ▸ hm)
      rw [← h.waits_iff entry hm]
      by_cases hi : entry.command.id = command.id
      · simp [hi, hnone, hne]
      · simp [hi]
    · rw [List.mem_singleton] at hm
      subst hm
      have hnot : new ∉ ended.map Ending.entry := by
        intro hx
        obtain ⟨x, hx, hxe⟩ := List.mem_map.mp hx
        exact hfresh (hxe ▸ h.entered_of_ended x hx)
      simpa [new, entryFor] using hnot
  · have hn : p.entries.contains command.id = false := by
      rw [Std.TreeMap.contains_eq_isSome_getElem?]
      exact hc
    rw [size_eq, hentries, Std.TreeMap.size_insert, hn, List.length_append, h.count, size_eq]
    simp
    omega

/-! ### The ledger -/

/-- A table at work. -/
structure Ledger (κ : Type) where
  clock : Nat
  table : Pending κ
  sinks : Sinks κ
  /-- The entries that were taken in, oldest first. -/
  entered : List (PendingCommand κ)
  /-- The calls that the table made, oldest first. -/
  made : List (Delivery κ)
  /-- The entries that these calls were made for, and what they told. -/
  ended : List (Ending κ)

namespace Ledger

/-- What can happen to a table: it is used, time passes, or a receiver goes away. -/
inductive Input (κ : Type)
  | register (command : Command) (requester : κ) (timeout : Nat)
  | resolve (id : CorrelationId) (e : Event)
  | expire (id : CorrelationId)
  | fail (id : CorrelationId) (cause : String)
  | advance (ms : Nat)
  | hangUp (key : κ)

def start (sinks : Sinks κ) : Ledger κ := ⟨0, .empty, sinks, [], [], []⟩

def Waits (l : Ledger κ) (entry : PendingCommand κ) : Prop :=
  l.table.get? entry.command.id = some entry

def entryFor (l : Ledger κ) (command : Command) (requester : κ) (timeout : Nat) :
    PendingCommand κ :=
  Proofs.entryFor l.table l.clock timeout command requester

variable [DecidableEq κ]

/-- The books after `id` was to be taken out, and whether a call was made. -/
def close (l : Ledger κ) (id : CorrelationId) (event : PendingCommand κ → Event)
    (result : Pending κ × Option (Delivery κ)) : Ledger κ × Option Bool :=
  ({ l with
      table := result.1
      sinks := result.2.toList.foldl Sinks.perform l.sinks
      made := l.made ++ result.2.toList
      ended := l.ended ++ (endingOf l.table id event).toList }, some result.2.isSome)

/-- Time passes and all alarms that fall due ring. -/
def advance (l : Ledger κ) (ms : Nat) : Ledger κ :=
  let time := l.clock + ms
  let result := l.table.advance time
  { l with
    clock := time
    table := result.1
    sinks := result.2.foldl Sinks.perform l.sinks
    made := l.made ++ result.2
    ended := l.ended ++ ringEndings l.table (l.table.dueAlarms time) }

/-- One thing happens. A use of the table answers whether it took the command in or made a call. -/
def act (l : Ledger κ) : Input κ → Ledger κ × Option Bool
  | .register command requester timeout =>
    match l.table.register l.clock timeout command requester with
    | .ok table =>
      ({ l with table, entered := l.entered ++ [l.entryFor command requester timeout] }, some true)
    | .error _ => (l, some false)
  | .resolve id e => l.close id (fun _ => e) (l.table.resolve id e)
  | .expire id => l.close id (expiryOf id) (l.table.expire id)
  | .fail id cause => l.close id (failureOf id cause) (l.table.fail id cause)
  | .advance ms => (l.advance ms, none)
  | .hangUp key => ({ l with sinks := l.sinks.modify key Sink.disconnect }, none)

def run (l : Ledger κ) (inputs : List (Input κ)) : Ledger κ :=
  inputs.foldl (fun l input => (l.act input).1) l

end Ledger

end HubBridge.Proofs
