import HubBridge.Proofs.DoorReports
import HubBridge.Proofs.Endings

/-!
# What one message does

A message touches up to four stores: the doors and the signs of life under its module, the waiting
commands under its id, and the sinks of whoever is told. Each store is looked up by key here, so that
what other keys hold is seen to stay as it was.
-/

namespace HubBridge.Proofs

/-! ### Maps as lists -/

/-- The keys of a map are in order, so that maps with the same keys list them alike. -/
lemma keys_eq_of_mem_iff {α β γ : Type} [Ord α] [Std.TransOrd α] [Std.LawfulEqOrd α]
    {s : Std.TreeMap α β} {t : Std.TreeMap α γ} (h : ∀ key, key ∈ s ↔ key ∈ t) :
    s.keys = t.keys := by
  have hperm : s.keys.Perm t.keys := by
    apply (List.perm_ext_iff_of_nodup Std.TreeMap.nodup_keys Std.TreeMap.nodup_keys).mpr
    intro key
    rw [Std.TreeMap.mem_keys, Std.TreeMap.mem_keys]
    exact h key
  apply List.Perm.eq_of_pairwise _ Std.TreeMap.ordered_keys Std.TreeMap.ordered_keys hperm
  intro a b _ _ hab hba
  rw [Std.OrientedCmp.gt_of_lt hab] at hba
  cases hba

lemma values_eq_map_toList {α β : Type} [Ord α] (t : Std.TreeMap α β) :
    t.values = t.toList.map Prod.snd := by
  have hfold : t.values = t.foldr (fun _ value values => value :: values) [] := rfl
  rw [hfold, Std.TreeMap.foldr_eq_foldr_toList, List.map_eq_foldr]

/-- The doors that were reported on are the records of the modules that have one. -/
lemma doors_eq_map_keys (b : DoorBook) : b.doors = b.records.keys.map b.door := by
  unfold DoorBook.doors
  rw [values_eq_map_toList, ← Std.TreeMap.map_fst_toList_eq_keys, List.map_map]
  apply List.map_congr_left
  rintro ⟨m, door⟩ hmem
  have hget := Std.TreeMap.mem_toList_iff_getElem?_eq_some.mp hmem
  dsimp only [Function.comp, DoorBook.door]
  rw [Std.TreeMap.getD_eq_getD_getElem?, hget, Option.getD_some]

/-! ### Sinks -/

section Sinks

variable {κ : Type} [DecidableEq κ]

lemma get?_deliver (s : Sinks κ) (key other : κ) (e : Event) :
    (s.deliver key e).1.get? other =
      if other = key then (s.get? key).map fun sink => (sink.deliver e).1 else s.get? other := by
  unfold Sinks.deliver
  cases hkey : s.get? key with
  | none =>
    by_cases h : other = key
    · rw [if_pos h, h, hkey, Option.map_none]
    · rw [if_neg h]
  | some sink =>
    dsimp only
    by_cases h : other = key
    · rw [if_pos h, h, Sinks.get?_insert_self, Option.map_some]
    · rw [if_neg h, Sinks.get?_insert_of_ne s (Ne.symm h)]

lemma get?_perform (s : Sinks κ) (d : Delivery κ) (key : κ) :
    (s.perform d).get? key =
      if key = d.requester then (s.get? key).map fun sink => (sink.deliver d.event).1
      else s.get? key := by
  unfold Sinks.perform
  rw [get?_deliver]
  by_cases h : key = d.requester
  · rw [if_pos h, if_pos h, h]
  · rw [if_neg h, if_neg h]

/-- Whoever did not ask for the entry that ends is told nothing. -/
lemma TakesOut.slot_same {p : Pending κ} {id : CorrelationId} {event : PendingCommand κ → Event}
    {result : Pending κ × Option (Delivery κ)} (h : TakesOut p id event result) (s : Sinks κ)
    {key : κ} (hother : ∀ entry, p.get? id = some entry → entry.requester ≠ key) :
    (result.2.toList.foldl Sinks.perform s).get? key = s.get? key := by
  rw [h.told, endingOf]
  cases hget : p.get? id with
  | none => rfl
  | some entry =>
    have hne : key ≠ entry.requester := Ne.symm (hother entry hget)
    exact (get?_perform _ _ _).trans (if_neg hne)

/-- A publication is heard by the members of the audience alone. -/
lemma get?_publish (a : Audience κ) (sinks : Sinks κ) (e : Event) {key : κ}
    (h : ∀ member ∈ a.members, member.2 ≠ key) :
    (a.publish sinks e).1.get? key = sinks.get? key := by
  unfold Audience.publish
  generalize 0 = taken
  revert h
  induction a.members generalizing sinks taken with
  | nil => exact fun _ => rfl
  | cons member members ih =>
    intro h
    have hne : key ≠ member.2 := Ne.symm (h member List.mem_cons_self)
    have hrest : ∀ m ∈ members, m.2 ≠ key := fun m hm => h m (List.mem_cons_of_mem member hm)
    have hget := get?_deliver sinks member.2 key e
    rw [if_neg hne] at hget
    rw [List.foldl_cons, ← hget]
    rcases hd : sinks.deliver member.2 e with ⟨after, fault | ⟨⟩⟩
    · dsimp only
      rw [hd]
      exact ih after taken hrest
    · dsimp only
      rw [hd]
      exact ih after (taken + 1) hrest

end Sinks

/-! ### A message and the stores -/

/-- The id that a message replies to and what the requester of that id is told. -/
def replyEvent : Message → Option (CorrelationId × Event)
  | .feedback m id target rawAction raw =>
    some (id, .commandFeedback m id target (Reading.ofAction rawAction).status rawAction raw)
  | .event .. | .heartbeat .. | .hello .. | .raw _ => none

def replyId (message : Message) : Option CorrelationId := (replyEvent message).map Prod.fst

/-- What the audience is told of a message. -/
def publications : Message → List Event
  | .feedback m id target rawAction raw =>
    let status := (Reading.ofAction rawAction).status
    [.doorFeedback m target status rawAction, .commandFeedback m id target status rawAction raw]
  | .event m target rawEvent raw => [.hubEvent m target rawEvent (Reading.ofEvent rawEvent).status raw]
  | .heartbeat m raw => [.hubHeartbeat m raw]
  | .hello m raw => [.hubHello m raw]
  | .raw raw => [.hubRaw raw]

def signOfLife : Message → Option ModuleId
  | .heartbeat m _ | .hello m _ => some m
  | .feedback .. | .event .. | .raw _ => none

/-- The table after a message and the call that it made of a requester. -/
def replied (p : Pending Party) (message : Message) : Pending Party × Option (Delivery Party) :=
  match replyEvent message with
  | some (id, e) => p.resolve id e
  | none => (p, none)

lemma tell_eq (s : Session) (delivery : Option (Delivery Party)) :
    s.tell delivery = { s with sinks := delivery.toList.foldl Sinks.perform s.sinks } := by
  cases delivery <;> rfl

/-- All that a message does, store by store. -/
lemma handle_eq (s : Session) (time : Int) (message : Message) :
    s.handle time message = { s with
      doors := match readingOf message with
        | some (n, reading) =>
          if reading.updatesDoor = true then s.doors.apply n reading.status else s.doors
        | none => s.doors
      pending := (replied s.pending message).1
      sinks := (publications message).foldl (fun sinks e => (s.audience.publish sinks e).1)
        ((replied s.pending message).2.toList.foldl Sinks.perform s.sinks)
      liveness := match signOfLife message with
        | some m => s.liveness.mark m time
        | none => s.liveness } := by
  cases message with
  | feedback m id target rawAction raw =>
    unfold Session.handle
    simp only [tell_eq]
    dsimp only [readingOf]
    split <;> rfl
  | event m target rawEvent raw =>
    unfold Session.handle
    dsimp only [readingOf]
    split <;> rfl
  | heartbeat m raw => rfl
  | hello m raw => rfl
  | raw raw => rfl

lemma get?_handle (s : Session) (time : Int) (message : Message) (id : CorrelationId) :
    (s.handle time message).pending.get? id =
      if replyId message = some id then none else s.pending.get? id := by
  rw [handle_eq]
  dsimp only [replied]
  cases h : replyEvent message with
  | none =>
    have hid : replyId message ≠ some id := by simp [replyId, h]
    rw [if_neg hid]
  | some reply =>
    obtain ⟨other, e⟩ := reply
    have hid : replyId message = some other := by rw [replyId, h, Option.map_some]
    dsimp only
    rw [(resolve_takesOut s.pending other e).get?]
    simp only [hid, Option.some_inj, eq_comm (a := id)]

lemma lastSeen?_handle (s : Session) (time : Int) (message : Message) (m : ModuleId) :
    (s.handle time message).liveness.lastSeen? m =
      if signOfLife message = some m then some time else s.liveness.lastSeen? m := by
  rw [handle_eq]
  dsimp only
  cases signOfLife message with
  | none => rw [if_neg (by simp)]
  | some n =>
    dsimp only
    rw [Liveness.lastSeen?_mark]
    simp only [Option.some_inj]

/-- Who is called is who asked for the id, and is told the reply. -/
lemma replied_snd (p : Pending Party) (message : Message) :
    (replied p message).2 = (replyEvent message).bind fun reply =>
      (p.get? reply.1).map fun entry => ⟨entry.requester, reply.2⟩ := by
  unfold replied
  cases replyEvent message with
  | none => rfl
  | some reply =>
    obtain ⟨id, e⟩ := reply
    dsimp only
    rw [(resolve_takesOut p id e).told, endingOf, Option.map_map]
    rfl

/-- A sink outside the audience hears of a message by a call of its key alone. -/
lemma sink_handle (s : Session) (time : Int) (message : Message) {key : Party}
    (h : ∀ member ∈ s.audience.members, member.2 ≠ key) :
    (s.handle time message).sinks.get? key =
      ((replied s.pending message).2.toList.foldl Sinks.perform s.sinks).get? key := by
  rw [handle_eq]
  dsimp only
  generalize (replied s.pending message).2.toList.foldl Sinks.perform s.sinks = sinks
  induction publications message generalizing sinks with
  | nil => rfl
  | cons e events ih => rw [List.foldl_cons, ih, get?_publish s.audience sinks e h]

end HubBridge.Proofs
