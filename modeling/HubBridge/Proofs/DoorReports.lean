import HubBridge.Proofs.StatusText
import HubBridge.Session.Basic

/-!
# Where the lock positions on record come from

The record of a door is the fold of the statuses that were reported on it, and of the lock only the
last statuses count: it reads as locked exactly if some datagram of its module said so and no later
one took that back.
-/

namespace HubBridge.Proofs

def readingOf : Message → Option (ModuleId × Reading)
  | .feedback m _ _ rawAction _ => some (m, .ofAction rawAction)
  | .event m _ rawEvent _ => some (m, .ofEvent rawEvent)
  | .heartbeat .. | .hello .. | .raw _ => none

/-- The status that a message puts on the record of a module's door. -/
def reportOn (m : ModuleId) (message : Message) : Option Status :=
  match readingOf message with
  | some (n, reading) => if n = m ∧ reading.updatesDoor = true then some reading.status else none
  | none => none

lemma reportOn_eq_some {m : ModuleId} {message : Message} {status : Status} :
    reportOn m message = some status ↔ ∃ reading, readingOf message = some (m, reading) ∧
      reading.updatesDoor = true ∧ reading.status = status := by
  unfold reportOn
  cases readingOf message with
  | none => simp
  | some read =>
    obtain ⟨n, reading⟩ := read
    dsimp only
    by_cases hn : n = m ∧ reading.updatesDoor = true
    · simp [hn]
    · rw [if_neg hn]
      constructor
      · intro h
        cases h
      · rintro ⟨reading', heq, hupdates, -⟩
        cases heq
        exact absurd ⟨rfl, hupdates⟩ hn

/-! ### The record as a fold -/

@[simp]
lemma doors_publish (s : Session) (e : Event) : (s.publish e).doors = s.doors := rfl

@[simp]
lemma doors_tell (s : Session) (delivery : Option (Delivery Party)) :
    (s.tell delivery).doors = s.doors := by
  cases delivery <;> rfl

/-- A message changes the doors by what it says of one of them, and by nothing else. -/
lemma doors_handle (s : Session) (time : Int) (message : Message) :
    (s.handle time message).doors = match readingOf message with
      | some (n, reading) =>
        if reading.updatesDoor = true then s.doors.apply n reading.status else s.doors
      | none => s.doors := by
  cases message with
  | feedback n id target rawAction raw =>
    simp only [Session.handle, readingOf, doors_publish, doors_tell]
    split <;> rfl
  | event n target rawEvent raw =>
    simp only [Session.handle, readingOf, doors_publish]
    split <;> rfl
  | heartbeat n raw => rfl
  | hello n raw => rfl
  | raw raw => rfl

lemma door_handle (s : Session) (time : Int) (message : Message) (m : ModuleId) :
    (s.handle time message).doors.door m = match reportOn m message with
      | some status => (s.doors.door m).apply status
      | none => s.doors.door m := by
  rw [doors_handle]
  unfold reportOn
  cases readingOf message with
  | none => rfl
  | some read =>
    obtain ⟨n, reading⟩ := read
    dsimp only
    by_cases hupdates : reading.updatesDoor = true
    · rw [if_pos hupdates]
      by_cases hn : n = m
      · rw [if_pos ⟨hn, hupdates⟩, hn, DoorBook.door_apply_self]
      · rw [if_neg fun h => hn h.1, DoorBook.door_apply_of_ne s.doors hn]
    · rw [if_neg hupdates, if_neg fun h => hupdates h.2]

/-- One datagram after the other, each with the time at which it arrives. -/
def hearAll (s : Session) (arrivals : List (Int × ByteArray)) : Session :=
  arrivals.foldl (fun s arrival => s.handle arrival.1 (.ofDatagram arrival.2)) s

lemma hearAll_cons (s : Session) (time : Int) (bytes : ByteArray)
    (arrivals : List (Int × ByteArray)) :
    hearAll s ((time, bytes) :: arrivals) =
      hearAll (s.handle time (.ofDatagram bytes)) arrivals := by
  rw [hearAll, List.foldl_cons, ← hearAll]

lemma hearAll_append (s : Session) (before after : List (Int × ByteArray)) :
    hearAll s (before ++ after) = hearAll (hearAll s before) after := by
  rw [hearAll, List.foldl_append, ← hearAll, ← hearAll]

def reportsOn (m : ModuleId) (arrivals : List (Int × ByteArray)) : List Status :=
  arrivals.filterMap fun arrival => reportOn m (.ofDatagram arrival.2)

theorem door_hearAll (s : Session) (arrivals : List (Int × ByteArray)) (m : ModuleId) :
    (hearAll s arrivals).doors.door m = (reportsOn m arrivals).foldl Door.apply (s.doors.door m) := by
  induction arrivals generalizing s with
  | nil => rfl
  | cons arrival arrivals ih =>
    rw [hearAll, List.foldl_cons, ← hearAll, ih, door_handle]
    unfold reportsOn
    rw [List.filterMap_cons]
    cases reportOn m (.ofDatagram arrival.2) with
    | none => rfl
    | some status => rfl

/-! ### The last lock position -/

lemma isLocked_apply (d : Door) (status : Status) :
    (d.apply status).isLocked = if status = .opened then d.isLocked else status.lockState := by
  cases status <;> rfl

/-- Of a lock only the last report that was not of an open door counts. -/
lemma isLocked_foldl_apply {m : ModuleId} {statuses : List Status} {locked : Bool} :
    (statuses.foldl Door.apply (.unseen m)).isLocked = some locked ↔
      ∃ before after, statuses = before ++ positionStatus locked :: after ∧
        ∀ x ∈ after, x = positionStatus locked ∨ x = .opened := by
  -- By the last report: an open door leaves the question to the reports before it.
  induction statuses using List.reverseRecOn with
  | nil => simp [Door.unseen]
  | append_singleton statuses status ih =>
    rw [List.foldl_append, List.foldl_cons, List.foldl_nil, isLocked_apply]
    by_cases hopen : status = .opened
    · rw [if_pos hopen, ih]
      constructor
      · rintro ⟨before, after, rfl, hafter⟩
        refine ⟨before, after ++ [status], by simp, ?_⟩
        intro x hx
        rcases List.mem_append.mp hx with hx | hx
        · exact hafter x hx
        · exact .inr ((List.mem_singleton.mp hx).trans hopen)
      · rintro ⟨before, after, heq, hafter⟩
        cases after using List.reverseRecOn with
        | nil =>
          obtain ⟨-, hlast⟩ := List.append_inj' heq rfl
          rw [hopen] at hlast
          cases locked <;> simp [positionStatus] at hlast
        | append_singleton after x =>
          rw [← List.cons_append, ← List.append_assoc] at heq
          obtain ⟨heq, -⟩ := List.append_inj' heq rfl
          exact ⟨before, after, heq, fun y hy => hafter y (List.mem_append_left _ hy)⟩
    · rw [if_neg hopen, lockState_eq_some]
      constructor
      · intro hstatus
        exact ⟨statuses, [], by rw [hstatus], by simp⟩
      · rintro ⟨before, after, heq, hafter⟩
        cases after using List.reverseRecOn with
        | nil =>
          obtain ⟨-, hlast⟩ := List.append_inj' heq rfl
          exact (List.cons.inj hlast).1
        | append_singleton after x =>
          rw [← List.cons_append, ← List.append_assoc] at heq
          obtain ⟨-, hlast⟩ := List.append_inj' heq rfl
          obtain rfl := (List.cons.inj hlast).1
          exact (hafter status (by simp)).resolve_right hopen

/-! ### Datagrams that report a lock position -/

/-- The datagram is UTF-8 and says of the module's door that its lock is in this position. -/
inductive Reports (locked : Bool) (m : ModuleId) : ByteArray → Prop
  | reply {line : String} {id : CorrelationId} {target : Target} {action raw : String}
      (hline : Message.ofLine line = .feedback m id target action raw)
      (haction : ActionReports locked action) : Reports locked m line.toUTF8
  | event {line : String} {target : Target} {text raw : String}
      (hline : Message.ofLine line = .event m target text raw)
      (htext : LastLockToken locked text) : Reports locked m line.toUTF8

lemma fromUTF8?_eq_some {bytes : ByteArray} {line : String} :
    String.fromUTF8? bytes = some line ↔ bytes = line.toUTF8 := by
  unfold String.fromUTF8?
  constructor
  · intro h
    by_cases hv : bytes.IsValidUTF8
    · rw [dif_pos hv, Option.some_inj] at h
      rw [← h]
      rfl
    · rw [dif_neg hv] at h
      cases h
  · rintro rfl
    rw [String.toUTF8_eq_toByteArray, dif_pos line.isValidUTF8]
    rfl

/-- Only datagrams in UTF-8 carry messages of a module. -/
lemma ofDatagram_eq {bytes : ByteArray} {message : Message} {m : ModuleId}
    (hm : message.moduleId? = some m) :
    Message.ofDatagram bytes = message ↔
      ∃ line : String, bytes = line.toUTF8 ∧ Message.ofLine line = message := by
  unfold Message.ofDatagram
  cases hline : String.fromUTF8? bytes with
  | some line =>
    obtain rfl := fromUTF8?_eq_some.mp hline
    dsimp only
    constructor
    · intro h
      exact ⟨line, rfl, h⟩
    · rintro ⟨line', heq, h⟩
      have heq' := fromUTF8?_eq_some.mpr heq
      rw [hline, Option.some_inj] at heq'
      rw [heq', h]
  | none =>
    dsimp only
    constructor
    · rintro rfl
      cases hm
    · rintro ⟨line, heq, -⟩
      rw [fromUTF8?_eq_some.mpr heq] at hline
      cases hline

lemma reportOn_position {m : ModuleId} {message : Message} {locked : Bool} :
    reportOn m message = some (positionStatus locked) ↔
      (∃ id target action raw, message = .feedback m id target action raw ∧
        ActionReports locked action) ∨
      ∃ target text raw, message = .event m target text raw ∧ LastLockToken locked text := by
  rw [reportOn_eq_some]
  simp only [← lockState_eq_some]
  constructor
  · rintro ⟨reading, hread, h⟩
    cases message with
    | feedback n id target action raw =>
      cases hread
      exact .inl ⟨id, target, action, raw, rfl, (ofAction_reports locked action).mp h⟩
    | event n target text raw =>
      cases hread
      exact .inr ⟨target, text, raw, rfl, (ofEvent_reports locked text).mp h⟩
    | heartbeat n raw => cases hread
    | hello n raw => cases hread
    | raw raw => cases hread
  · rintro (⟨id, target, action, raw, rfl, h⟩ | ⟨target, text, raw, rfl, h⟩)
    · exact ⟨_, rfl, (ofAction_reports locked action).mpr h⟩
    · exact ⟨_, rfl, (ofEvent_reports locked text).mpr h⟩

lemma reportOn_datagram {m : ModuleId} {bytes : ByteArray} {locked : Bool} :
    reportOn m (.ofDatagram bytes) = some (positionStatus locked) ↔ Reports locked m bytes := by
  rw [reportOn_position]
  constructor
  · rintro (⟨id, target, action, raw, hmessage, haction⟩ | ⟨target, text, raw, hmessage, htext⟩)
    · obtain ⟨line, rfl, hline⟩ := (ofDatagram_eq rfl).mp hmessage
      exact .reply hline haction
    · obtain ⟨line, rfl, hline⟩ := (ofDatagram_eq rfl).mp hmessage
      exact .event hline htext
  · rintro (⟨hline, haction⟩ | ⟨hline, htext⟩)
    · exact .inl ⟨_, _, _, _, (ofDatagram_eq rfl).mpr ⟨_, rfl, hline⟩, haction⟩
    · exact .inr ⟨_, _, _, (ofDatagram_eq rfl).mpr ⟨_, rfl, hline⟩, htext⟩

/-- From a bridge that knows of no door, after any datagrams: the lock of a module's door reads as
being in a position exactly if a datagram reported that position and whatever came later for that
door said the same, or that the door is open. -/
theorem isLocked_iff_reported (s : Session) (arrivals : List (Int × ByteArray)) (m : ModuleId)
    (locked : Bool) :
    ((hearAll { s with doors := .empty } arrivals).doors.door m).isLocked = some locked ↔
      ∃ before time bytes after, arrivals = before ++ (time, bytes) :: after ∧
        Reports locked m bytes ∧
        ∀ later ∈ after, ∀ status, reportOn m (.ofDatagram later.2) = some status →
          status = positionStatus locked ∨ status = .opened := by
  rw [door_hearAll, DoorBook.door_empty, isLocked_foldl_apply]
  constructor
  · rintro ⟨_, statuses, heq, hafter⟩
    obtain ⟨l₁, l₂, rfl, -, hrest⟩ := List.filterMap_eq_append_iff.mp heq
    obtain ⟨l₃, ⟨time, bytes⟩, l₄, rfl, -, hreport, rfl⟩ := List.filterMap_eq_cons_iff.mp hrest
    refine ⟨l₁ ++ l₃, time, bytes, l₄, by simp, reportOn_datagram.mp hreport, ?_⟩
    intro later hlater status hstatus
    exact hafter status (List.mem_filterMap.mpr ⟨later, hlater, hstatus⟩)
  · rintro ⟨before, time, bytes, after, rfl, hreport, hafter⟩
    refine ⟨reportsOn m before, reportsOn m after, ?_, ?_⟩
    · simp only [reportsOn, List.filterMap_append, List.filterMap_cons,
        reportOn_datagram.mpr hreport]
    · intro status hstatus
      obtain ⟨later, hlater, heq⟩ := List.mem_filterMap.mp hstatus
      exact hafter later hlater status heq

end HubBridge.Proofs
