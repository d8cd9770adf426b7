import HubBridge.Proofs.Messages
import Mathlib.Data.List.FinRange

/-!
# Datagrams in another order

Every store is kept by key, and what it holds under one key depends on the datagrams of that key
alone. So the order of datagrams matters only where they name one module or carry one id: any two
orders that agree there lead to the same doors, the same waiting commands, the same outcomes.
-/

namespace HubBridge.Proofs

/-! ### Orders -/

/-- The elements of `before` in another order, in which tied ones follow each other as they did. -/
def Rearranged {α : Type} (tied : α → α → Prop) (before after : List α) : Prop :=
  ∃ order : List (Fin before.length), order.Perm (List.finRange before.length) ∧
    after = order.map before.get ∧
    order.Pairwise fun i j => tied (before.get i) (before.get j) → i < j

lemma map_get_finRange {α : Type} (l : List α) : (List.finRange l.length).map l.get = l :=
  List.map_getElem_finRange l

lemma Rearranged.perm {α : Type} {tied : α → α → Prop} {before after : List α}
    (h : Rearranged tied before after) : after.Perm before := by
  obtain ⟨order, hperm, rfl, -⟩ := h
  have hmap := hperm.map before.get
  rwa [map_get_finRange] at hmap

/-- What is tied together throughout is not rearranged at all. -/
lemma Rearranged.filter_eq {α : Type} {tied : α → α → Prop} {before after : List α}
    (h : Rearranged tied before after) {p : α → Bool}
    (htied : ∀ x y, p x = true → p y = true → tied x y) : after.filter p = before.filter p := by
  obtain ⟨order, hperm, rfl, hpairs⟩ := h
  have horder : (order.filter (p ∘ before.get)).Pairwise (· < ·) := by
    rw [List.pairwise_filter]
    apply hpairs.imp
    intro i j hij hi hj
    exact hij (htied _ _ hi hj)
  have hrange : ((List.finRange before.length).filter (p ∘ before.get)).Pairwise (· < ·) :=
    (List.pairwise_lt_finRange before.length).filter _
  have heq : order.filter (p ∘ before.get) =
      (List.finRange before.length).filter (p ∘ before.get) := by
    apply List.Perm.eq_of_pairwise _ horder hrange (hperm.filter _)
    intro i j _ _ hij hji
    exact absurd hij hji.asymm
  rw [List.filter_map, heq, ← List.filter_map, map_get_finRange]

/-! ### What a run of datagrams leaves under each key -/

/-- Two datagrams name one module, or carry one id. -/
def Tied (a b : ByteArray) : Prop :=
  (∃ m, (Message.ofDatagram a).moduleId? = some m ∧ (Message.ofDatagram b).moduleId? = some m) ∨
    ∃ id, replyId (.ofDatagram a) = some id ∧ replyId (.ofDatagram b) = some id

lemma eq_some_both {α : Type} {x y : Option α} :
    (∃ a, x = some a ∧ y = some a) ↔ x.isSome = true ∧ x = y := by
  constructor
  · rintro ⟨a, rfl, rfl⟩
    exact ⟨rfl, rfl⟩
  · rintro ⟨hx, rfl⟩
    obtain ⟨a, ha⟩ := Option.isSome_iff_exists.mp hx
    exact ⟨a, ha, ha⟩

instance (a b : ByteArray) : Decidable (Tied a b) :=
  decidable_of_iff _ (or_congr eq_some_both eq_some_both).symm

lemma moduleId?_of_reportOn {m : ModuleId} {message : Message} {status : Status}
    (h : reportOn m message = some status) : message.moduleId? = some m := by
  obtain ⟨reading, hread, -⟩ := reportOn_eq_some.mp h
  cases message with
  | feedback n id target action raw =>
    cases hread
    rfl
  | event n target text raw =>
    cases hread
    rfl
  | heartbeat n raw => cases hread
  | hello n raw => cases hread
  | raw raw => cases hread

lemma reportsOn_eq (m : ModuleId) (arrivals : List (Int × ByteArray)) :
    reportsOn m arrivals =
      ((arrivals.map Prod.snd).filter fun b => (Message.ofDatagram b).moduleId? = some m).filterMap
        fun b => reportOn m (.ofDatagram b) := by
  rw [List.filterMap_filter, List.filterMap_map]
  apply List.filterMap_congr
  intro arrival _
  dsimp only [Function.comp]
  cases h : reportOn m (.ofDatagram arrival.2) with
  | none => rw [ite_self]
  | some status =>
    have hm := moduleId?_of_reportOn h
    rw [if_pos (decide_eq_true hm)]

lemma mem_records_handle (s : Session) (time : Int) (message : Message) (m : ModuleId) :
    m ∈ (s.handle time message).doors.records ↔
      reportOn m message ≠ none ∨ m ∈ s.doors.records := by
  rw [doors_handle]
  unfold reportOn
  cases readingOf message with
  | none => simp
  | some read =>
    obtain ⟨n, reading⟩ := read
    dsimp only
    by_cases hupdates : reading.updatesDoor = true
    · by_cases hn : n = m
      · simp [hupdates, hn, DoorBook.apply]
      · simp [hupdates, hn, DoorBook.apply]
    · simp [hupdates]

lemma mem_records_hearAll (s : Session) (arrivals : List (Int × ByteArray)) (m : ModuleId) :
    m ∈ (hearAll s arrivals).doors.records ↔
      reportsOn m arrivals ≠ [] ∨ m ∈ s.doors.records := by
  induction arrivals generalizing s with
  | nil => simp [hearAll, reportsOn]
  | cons arrival arrivals ih =>
    rw [hearAll_cons, ih, mem_records_handle]
    unfold reportsOn
    rw [List.filterMap_cons]
    cases reportOn m (.ofDatagram arrival.2) with
    | none => simp
    | some status => simp

lemma get?_hearAll (s : Session) (arrivals : List (Int × ByteArray)) (id : CorrelationId) :
    (hearAll s arrivals).pending.get? id =
      if some id ∈ (arrivals.map Prod.snd).map (fun b => replyId (.ofDatagram b)) then none
      else s.pending.get? id := by
  induction arrivals generalizing s with
  | nil => rfl
  | cons arrival arrivals ih =>
    rw [hearAll_cons, ih, get?_handle, List.map_cons, List.map_cons]
    have hmem := List.mem_cons (a := some id) (b := replyId (.ofDatagram arrival.2))
      (l := (arrivals.map Prod.snd).map fun b => replyId (.ofDatagram b))
    by_cases hlater : some id ∈ (arrivals.map Prod.snd).map fun b => replyId (.ofDatagram b)
    · rw [if_pos hlater, if_pos (hmem.mpr (.inr hlater))]
    · rw [if_neg hlater]
      by_cases hnow : replyId (.ofDatagram arrival.2) = some id
      · rw [if_pos hnow, if_pos (hmem.mpr (.inl hnow.symm))]
      · rw [if_neg hnow, if_neg]
        intro h
        rcases hmem.mp h with h | h
        · exact hnow h.symm
        · exact hlater h

lemma lastSeen_hearAll (s : Session) (arrivals : List (Int × ByteArray)) (m : ModuleId) :
    ((hearAll s arrivals).liveness.lastSeen? m).isSome = true ↔
      some m ∈ (arrivals.map Prod.snd).map (fun b => signOfLife (.ofDatagram b)) ∨
        (s.liveness.lastSeen? m).isSome = true := by
  induction arrivals generalizing s with
  | nil => simp [hearAll]
  | cons arrival arrivals ih =>
    rw [hearAll_cons, ih, lastSeen?_handle, List.map_cons, List.map_cons, List.mem_cons]
    by_cases hsign : signOfLife (.ofDatagram arrival.2) = some m
    · simp [hsign]
    · simp [hsign, Ne.symm hsign]

/-! ### What requesters are told -/

/-- The calls that the requester of `id` gets while the datagrams are handled. -/
def callsFor (id : CorrelationId) (s : Session) : List (Int × ByteArray) → List (Delivery Party)
  | [] => []
  | (time, bytes) :: arrivals =>
    let calls := (replied s.pending (.ofDatagram bytes)).2.toList
    (if replyId (.ofDatagram bytes) = some id then calls else []) ++
      callsFor id (s.handle time (.ofDatagram bytes)) arrivals

/-- What the first reply to `id` tells. -/
def firstReply (id : CorrelationId) (datagrams : List ByteArray) : Option Event :=
  (datagrams.filter fun b => replyId (.ofDatagram b) = some id).head?.bind fun bytes =>
    (replyEvent (.ofDatagram bytes)).map Prod.snd

lemma callsFor_of_absent {id : CorrelationId} {s : Session} (h : s.pending.get? id = none)
    (arrivals : List (Int × ByteArray)) : callsFor id s arrivals = [] := by
  induction arrivals generalizing s with
  | nil => rfl
  | cons arrival arrivals ih =>
    obtain ⟨time, bytes⟩ := arrival
    have hafter : (s.handle time (.ofDatagram bytes)).pending.get? id = none := by
      rw [get?_handle, h, ite_self]
    rw [callsFor, ih hafter, List.append_nil]
    by_cases hid : replyId (.ofDatagram bytes) = some id
    · rw [if_pos hid, replied_snd]
      obtain ⟨⟨other, e⟩, hreply, hother⟩ := Option.map_eq_some_iff.mp hid
      obtain rfl : other = id := hother
      simp only [hreply, Option.bind_some, h, Option.map_none, Option.toList_none]
    · rw [if_neg hid]

/-- The first reply is the only one that is told. -/
lemma callsFor_eq (id : CorrelationId) (s : Session) (arrivals : List (Int × ByteArray)) :
    callsFor id s arrivals =
      ((s.pending.get? id).bind fun entry => (firstReply id (arrivals.map Prod.snd)).map
        fun e => (⟨entry.requester, e⟩ : Delivery Party)).toList := by
  cases hget : s.pending.get? id with
  | none => rw [callsFor_of_absent hget, Option.bind_none, Option.toList_none]
  | some entry =>
    rw [Option.bind_some]
    induction arrivals generalizing s with
    | nil => rfl
    | cons arrival arrivals ih =>
      obtain ⟨time, bytes⟩ := arrival
      have hafter := get?_handle s time (.ofDatagram bytes) id
      rw [callsFor]
      unfold firstReply
      rw [List.map_cons]
      by_cases hid : replyId (.ofDatagram bytes) = some id
      · have hfilter := List.filter_cons_of_pos (l := arrivals.map Prod.snd)
          (p := fun b => decide (replyId (.ofDatagram b) = some id)) (decide_eq_true hid)
        rw [if_pos hid] at hafter
        rw [callsFor_of_absent hafter, List.append_nil, if_pos hid, replied_snd, hfilter]
        obtain ⟨⟨other, e⟩, hreply, hother⟩ := Option.map_eq_some_iff.mp hid
        obtain rfl : other = id := hother
        simp only [hreply, Option.bind_some, hget, Option.map_some, List.head?_cons]
      · have hfilter := List.filter_cons_of_neg (l := arrivals.map Prod.snd)
          (p := fun b => decide (replyId (.ofDatagram b) = some id))
          (fun h => hid (of_decide_eq_true h))
        rw [if_neg hid, hget] at hafter
        rw [if_neg hid, List.nil_append, ih _ hafter, hfilter]
        rfl

lemma get?_foldl_perform (calls : List (Delivery Party)) {s t : Sinks Party} {key : Party}
    (h : s.get? key = t.get? key) :
    (calls.foldl Sinks.perform s).get? key = (calls.foldl Sinks.perform t).get? key := by
  induction calls generalizing s t with
  | nil => exact h
  | cons d calls ih =>
    apply ih
    rw [get?_perform, get?_perform, h]

/-- What a requester that waits for one id alone has in its sink. -/
lemma sink_hearAll (s : Session) (arrivals : List (Int × ByteArray)) {key : Party}
    (hkey : ∀ member ∈ s.audience.members, member.2 ≠ key) {id : CorrelationId}
    (hid : ∀ other entry, s.pending.get? other = some entry → entry.requester = key → other = id) :
    (hearAll s arrivals).sinks.get? key =
      ((callsFor id s arrivals).foldl Sinks.perform s.sinks).get? key := by
  induction arrivals generalizing s with
  | nil => rfl
  | cons arrival arrivals ih =>
    obtain ⟨time, bytes⟩ := arrival
    have haudience : (s.handle time (.ofDatagram bytes)).audience = s.audience := by rw [handle_eq]
    have hwaits : ∀ other entry, (s.handle time (.ofDatagram bytes)).pending.get? other = some entry →
        entry.requester = key → other = id := by
      intro other entry hget
      rw [get?_handle] at hget
      split at hget
      · cases hget
      · exact hid other entry hget
    have hnow : (s.handle time (.ofDatagram bytes)).sinks.get? key =
        ((if replyId (.ofDatagram bytes) = some id then
          (replied s.pending (.ofDatagram bytes)).2.toList else []).foldl
            Sinks.perform s.sinks).get? key := by
      rw [sink_handle s time _ hkey, replied_snd, replyId]
      cases replyEvent (.ofDatagram bytes) with
      | none => simp
      | some reply =>
        obtain ⟨other, e⟩ := reply
        by_cases hother : other = id
        · simp [hother]
        · cases hget : s.pending.get? other with
          | none => simp [hget]
          | some entry =>
            have hne : key ≠ entry.requester := fun h => hother (hid other entry hget h.symm)
            simp [hother, hget, get?_perform, hne]
    have hlater := ih (s.handle time (.ofDatagram bytes)) (haudience ▸ hkey) hwaits
    rw [hearAll_cons, hlater, callsFor, List.foldl_append]
    exact get?_foldl_perform _ hnow

/-! ### The result -/

lemma Rearranged.reportsOn_eq {arrivals arrivals' : List (Int × ByteArray)}
    (h : Rearranged Tied (arrivals.map Prod.snd) (arrivals'.map Prod.snd)) (m : ModuleId) :
    reportsOn m arrivals' = reportsOn m arrivals := by
  rw [HubBridge.Proofs.reportsOn_eq, HubBridge.Proofs.reportsOn_eq, h.filter_eq]
  intro a b ha hb
  exact .inl ⟨m, of_decide_eq_true ha, of_decide_eq_true hb⟩

lemma Rearranged.firstReply_eq {before after : List ByteArray} (h : Rearranged Tied before after)
    (id : CorrelationId) : firstReply id after = firstReply id before := by
  unfold firstReply
  rw [h.filter_eq]
  intro a b ha hb
  exact .inr ⟨id, of_decide_eq_true ha, of_decide_eq_true hb⟩

/-- Whatever a session was like before: if datagrams come in another order, which only keeps that of
the datagrams of each module and of each id, then the doors, the waiting ids and the modules that gave
a sign of life end up the same, and so does what the requester of each id was told, once or not at
all. A requester outside the audience that waits for no second id is left with the same in its
sink. -/
theorem hearAll_rearranged (s : Session) {arrivals arrivals' : List (Int × ByteArray)}
    (h : Rearranged Tied (arrivals.map Prod.snd) (arrivals'.map Prod.snd)) :
    let t := hearAll s arrivals
    let t' := hearAll s arrivals'
    (t'.doors.doors = t.doors.doors ∧ ∀ m, t'.doors.door m = t.doors.door m) ∧
      t'.pending.ids = t.pending.ids ∧
      (∀ m, (t'.liveness.lastSeen? m).isSome = (t.liveness.lastSeen? m).isSome) ∧
      (∀ id, callsFor id s arrivals' = callsFor id s arrivals ∧
        (callsFor id s arrivals).length ≤ 1) ∧
      ∀ key, (∀ member ∈ s.audience.members, member.2 ≠ key) →
        ∀ id, (∀ other entry, s.pending.get? other = some entry → entry.requester = key →
          other = id) → t'.sinks.get? key = t.sinks.get? key := by
  dsimp only
  have hperm := h.perm
  have hdoor : ∀ m, (hearAll s arrivals').doors.door m = (hearAll s arrivals).doors.door m := by
    intro m
    rw [door_hearAll, door_hearAll, h.reportsOn_eq]
  have hcalls : ∀ id, callsFor id s arrivals' = callsFor id s arrivals := by
    intro id
    rw [callsFor_eq, callsFor_eq, h.firstReply_eq]
  refine ⟨⟨?_, hdoor⟩, ?_, ?_, ?_, ?_⟩
  · have hkeys : (hearAll s arrivals').doors.records.keys =
        (hearAll s arrivals).doors.records.keys := by
      apply keys_eq_of_mem_iff
      intro m
      rw [mem_records_hearAll, mem_records_hearAll, h.reportsOn_eq]
    rw [doors_eq_map_keys, doors_eq_map_keys, hkeys]
    exact List.map_congr_left fun m _ => hdoor m
  · apply keys_eq_of_mem_iff
    intro id
    have hget : (hearAll s arrivals').pending.get? id = (hearAll s arrivals).pending.get? id := by
      rw [get?_hearAll, get?_hearAll]
      simp only [(hperm.map _).mem_iff]
    rw [Std.TreeMap.mem_iff_isSome_getElem?, Std.TreeMap.mem_iff_isSome_getElem?]
    exact iff_of_eq (congrArg (fun entry => entry.isSome = true) hget)
  · intro m
    rw [Bool.eq_iff_iff, lastSeen_hearAll, lastSeen_hearAll, (hperm.map _).mem_iff]
  · intro id
    refine ⟨hcalls id, ?_⟩
    rw [callsFor_eq]
    exact Option.length_toList_le
  · intro key hkey id hid
    rw [sink_hearAll s arrivals' hkey hid, sink_hearAll s arrivals hkey hid, hcalls]

/-- One command waits; its reply and the reports on two doors are on their way. -/
def expectant : Session :=
  ((Session.start .default).reserve (.status ⟨"D1"⟩) (some (.call 1))).1

def reportsOfTwo : List (Int × ByteArray) :=
  [(0, "D1 FEEDBACK 1 D0 STATUS_LOCKED".toUTF8), (10, "D2 EVENT D0 LOCK LOCKED".toUTF8),
    (20, "D1 EVENT D0 LOCK UNLOCKED".toUTF8)]

/-- The report on the second door overtakes the reply of the first one. -/
def reportsOvertaken : List (Int × ByteArray) :=
  [(10, "D2 EVENT D0 LOCK LOCKED".toUTF8), (20, "D1 FEEDBACK 1 D0 STATUS_LOCKED".toUTF8),
    (30, "D1 EVENT D0 LOCK UNLOCKED".toUTF8)]

theorem hearAll_overtaken :
    Rearranged Tied (reportsOfTwo.map Prod.snd) (reportsOvertaken.map Prod.snd) ∧
      (hearAll expectant reportsOvertaken).doors.doors =
        (hearAll expectant reportsOfTwo).doors.doors ∧
      (hearAll expectant reportsOvertaken).pending.ids =
        (hearAll expectant reportsOfTwo).pending.ids ∧
      callsFor .first expectant reportsOvertaken = callsFor .first expectant reportsOfTwo ∧
      (callsFor .first expectant reportsOfTwo).map Delivery.requester = [.call 1] := by
  have h : Rearranged Tied (reportsOfTwo.map Prod.snd) (reportsOvertaken.map Prod.snd) := by
    let order : List (Fin (reportsOfTwo.map Prod.snd).length) :=
      [⟨1, by decide⟩, ⟨0, by decide⟩, ⟨2, by decide⟩]
    refine ⟨order, .swap _ _ _, ?_, ?_⟩
    · decide +kernel
    · unfold order
      decide +kernel
  have hsame := hearAll_rearranged expectant h
  have hasked : (callsFor .first expectant reportsOfTwo).map Delivery.requester = [.call 1] := by
    decide +kernel
  exact ⟨h, hsame.1.1, hsame.2.1, (hsame.2.2.2.1 .first).1, hasked⟩

end HubBridge.Proofs
