import HubBridge.Pending
import Mathlib.Tactic.Lemma

/-!
# How entries leave the table

A reply, an expiry, a failed send and an alarm all do the same to the table: they take out the entry
of one id, if there is one, and call its requester once. `TakesOut` says that, and `ringAll` follows
all the alarms that ring while time passes.
-/

namespace HubBridge.Proofs

variable {κ : Type}

/-- A call of a requester: the entry that was taken out for it, and what it was told. -/
structure Ending (κ : Type) where
  entry : PendingCommand κ
  event : Event

def Ending.delivery (x : Ending κ) : Delivery κ := ⟨x.entry.requester, x.event⟩

/-- What the requester of an entry is told when its id has expired. -/
def expiryOf (id : CorrelationId) (entry : PendingCommand κ) : Event :=
  .commandError entry.command.moduleId id .timeout timeoutText

/-- What the requester of an entry is told when its datagram was not sent. -/
def failureOf (id : CorrelationId) (cause : String) (entry : PendingCommand κ) : Event :=
  .commandError entry.command.moduleId id .transport cause

def endingOf (p : Pending κ) (id : CorrelationId) (event : PendingCommand κ → Event) :
    Option (Ending κ) :=
  (p.get? id).map fun entry => ⟨entry, event entry⟩

lemma endingOf_eq_some {p : Pending κ} {id : CorrelationId} {event : PendingCommand κ → Event}
    {x : Ending κ} :
    endingOf p id event = some x ↔ p.get? id = some x.entry ∧ x.event = event x.entry := by
  obtain ⟨entry, e⟩ := x
  simp only [endingOf, Option.map_eq_some_iff, Ending.mk.injEq]
  constructor
  · rintro ⟨_, h, rfl, rfl⟩; exact ⟨h, rfl⟩
  · rintro ⟨h, rfl⟩; exact ⟨entry, h, rfl, rfl⟩

/-- The result takes the entry of `id` out of the table and calls its requester with `event`. -/
structure TakesOut (p : Pending κ) (id : CorrelationId) (event : PendingCommand κ → Event)
    (result : Pending κ × Option (Delivery κ)) : Prop where
  get? : ∀ other, result.1.get? other = if other = id then none else p.get? other
  size : result.1.size + result.2.toList.length = p.size
  nextSerial : result.1.nextSerial = p.nextSerial
  alarms : ∀ a ∈ result.1.alarms, a ∈ p.alarms
  told : result.2 = (endingOf p id event).map Ending.delivery

lemma size_eq (p : Pending κ) : p.size = p.entries.size := by
  simp [Pending.size, Pending.ids]

lemma entries_contains {p : Pending κ} {id : CorrelationId} {entry : PendingCommand κ}
    (h : p.get? id = some entry) : p.entries.contains id = true := by
  have hg : p.entries[id]? = some entry := h
  rw [Std.TreeMap.contains_eq_isSome_getElem?, hg, Option.isSome_some]

lemma size_drop {p : Pending κ} {id : CorrelationId} {entry : PendingCommand κ}
    (h : p.get? id = some entry) : (p.drop id).size + 1 = p.size := by
  have hc := entries_contains h
  have hpos := Std.TreeMap.isEmpty_eq_false_of_contains hc
  rw [Std.TreeMap.isEmpty_eq_size_eq_zero, beq_eq_false_iff_ne] at hpos
  rw [size_eq, size_eq, Pending.drop, Std.TreeMap.size_erase, if_pos hc]
  omega

lemma get?_drop (p : Pending κ) (id other : CorrelationId) :
    (p.drop id).get? other = if other = id then none else p.get? other := by
  by_cases h : other = id
  · rw [if_pos h, h, Pending.get?_drop_self]
  · rw [if_neg h, Pending.get?_drop_of_ne p (Ne.symm h)]

lemma takesOut_absent {p : Pending κ} {id : CorrelationId} (event : PendingCommand κ → Event)
    (h : p.get? id = none) : TakesOut p id event (p, none) where
  get? other := by
    by_cases ho : other = id
    · rw [if_pos ho, ho, h]
    · rw [if_neg ho]
  size := by simp
  nextSerial := rfl
  alarms _ ha := ha
  told := by simp [endingOf, h]

/-- The entry is dropped; which of the alarms stay set is left open. -/
lemma takesOut_present {p q : Pending κ} {id : CorrelationId} {entry : PendingCommand κ}
    (event : PendingCommand κ → Event) (h : p.get? id = some entry)
    (hentries : q.entries = (p.drop id).entries) (hserial : q.nextSerial = p.nextSerial)
    (halarms : ∀ a ∈ q.alarms, a ∈ p.alarms) :
    TakesOut p id event (q, some ⟨entry.requester, event entry⟩) where
  get? other := by
    rw [← get?_drop, Pending.get?, Pending.get?, hentries]
  size := by
    have hs := size_drop h
    rw [size_eq, ← hentries, ← size_eq] at hs
    simpa using hs
  nextSerial := hserial
  alarms := halarms
  told := by simp [endingOf, h, Ending.delivery]

lemma resolve_takesOut (p : Pending κ) (id : CorrelationId) (e : Event) :
    TakesOut p id (fun _ => e) (p.resolve id e) := by
  unfold Pending.resolve
  cases h : p.get? id with
  | none => exact takesOut_absent _ h
  | some entry =>
    exact takesOut_present _ h rfl rfl fun a ha => (List.mem_filter.mp ha).1

lemma expire_takesOut (p : Pending κ) (id : CorrelationId) :
    TakesOut p id (expiryOf id) (p.expire id) := by
  unfold Pending.expire
  cases h : p.get? id with
  | none => exact takesOut_absent _ h
  | some entry => exact takesOut_present _ h rfl rfl fun _ ha => ha

lemma fail_takesOut (p : Pending κ) (id : CorrelationId) (cause : String) :
    TakesOut p id (failureOf id cause) (p.fail id cause) := by
  unfold Pending.fail
  cases h : p.get? id with
  | none => exact takesOut_absent _ h
  | some entry =>
    exact takesOut_present _ h rfl rfl fun a ha => (List.mem_filter.mp ha).1

lemma ring_takesOut (p : Pending κ) (a : Alarm) :
    TakesOut p a.id (expiryOf a.id) (p.ring a) := by
  have h := expire_takesOut (p.cancel a.serial) a.id
  exact ⟨h.get?, h.size, h.nextSerial, fun b hb => (List.mem_filter.mp (h.alarms b hb)).1, h.told⟩

/-! ### Alarms -/

def ringAll (p : Pending κ) (alarms : List Alarm) : Pending κ :=
  alarms.foldl (fun p a => (p.ring a).1) p

/-- The calls that they make. -/
def ringEndings : Pending κ → List Alarm → List (Ending κ)
  | _, [] => []
  | p, a :: rest => (endingOf p a.id (expiryOf a.id)).toList ++ ringEndings (p.ring a).1 rest

@[simp]
lemma ringAll_nil (p : Pending κ) : ringAll p [] = p := rfl

@[simp]
lemma ringAll_cons (p : Pending κ) (a : Alarm) (rest : List Alarm) :
    ringAll p (a :: rest) = ringAll (p.ring a).1 rest := rfl

lemma advance_eq (p : Pending κ) (time : Nat) :
    p.advance time = (ringAll p (p.dueAlarms time),
      (ringEndings p (p.dueAlarms time)).map Ending.delivery) := by
  have h : ∀ (alarms : List Alarm) (x : Pending κ × List (Delivery κ)),
      alarms.foldl (fun x a => ((x.1.ring a).1, x.2 ++ (x.1.ring a).2.toList)) x =
      (ringAll x.1 alarms, x.2 ++ (ringEndings x.1 alarms).map Ending.delivery) := by
    intro alarms
    induction alarms with
    | nil => intro x; simp [ringEndings]
    | cons a rest ih =>
      intro x
      rw [List.foldl_cons, ih, ringAll_cons, ringEndings, (ring_takesOut x.1 a).told]
      cases endingOf x.1 a.id (expiryOf a.id) <;> simp
  have hfold : p.advance time = (p.dueAlarms time).foldl
      (fun x a => ((x.1.ring a).1, x.2 ++ (x.1.ring a).2.toList)) (p, []) := rfl
  rw [hfold, h]
  simp

lemma mem_dueAlarms {p : Pending κ} {time : Nat} {a : Alarm} :
    a ∈ p.dueAlarms time ↔ a ∈ p.alarms ∧ a.due ≤ time := by
  simp [Pending.dueAlarms]

lemma get?_ringAll (alarms : List Alarm) (p : Pending κ) (id : CorrelationId) :
    (ringAll p alarms).get? id = if id ∈ alarms.map (·.id) then none else p.get? id := by
  induction alarms generalizing p with
  | nil => simp
  | cons a rest ih =>
    rw [ringAll_cons, ih, (ring_takesOut p a).get?]
    by_cases ha : id = a.id <;> by_cases hr : id ∈ rest.map (·.id) <;> simp_all

lemma alarms_ring (p : Pending κ) (a : Alarm) : (p.ring a).1.alarms = (p.cancel a.serial).alarms := by
  unfold Pending.ring Pending.expire
  split <;> rfl

/-- An alarm stays set unless one of its serial number rings. -/
lemma mem_alarms_ringAll (alarms : List Alarm) (p : Pending κ) (b : Alarm) :
    b ∈ (ringAll p alarms).alarms ↔ b ∈ p.alarms ∧ ∀ a ∈ alarms, b.serial ≠ a.serial := by
  induction alarms generalizing p with
  | nil => simp
  | cons a rest ih =>
    rw [ringAll_cons, ih, alarms_ring]
    simp [Pending.cancel, and_assoc]

/-- The calls are those of the entries whose ids have an alarm. -/
lemma mem_ringEndings (alarms : List Alarm) (p : Pending κ) (x : Ending κ) :
    x ∈ ringEndings p alarms ↔
      ∃ a ∈ alarms, p.get? a.id = some x.entry ∧ x.event = expiryOf a.id x.entry := by
  induction alarms generalizing p with
  | nil => simp [ringEndings]
  | cons a rest ih =>
    simp only [ringEndings, List.mem_append, Option.mem_toList, endingOf_eq_some, ih,
      List.mem_cons, exists_eq_or_imp]
    constructor
    · rintro (h | ⟨b, hb, hget, he⟩)
      · exact Or.inl h
      · rw [(ring_takesOut p a).get?] at hget
        by_cases hba : b.id = a.id
        · simp [hba] at hget
        · exact Or.inr ⟨b, hb, by simpa [hba] using hget, he⟩
    · rintro (h | ⟨b, hb, hget, he⟩)
      · exact Or.inl h
      · by_cases hba : b.id = a.id
        · rw [hba] at hget he
          exact Or.inl ⟨hget, he⟩
        · exact Or.inr ⟨b, hb, by rw [(ring_takesOut p a).get?, if_neg hba]; exact hget, he⟩

end HubBridge.Proofs
