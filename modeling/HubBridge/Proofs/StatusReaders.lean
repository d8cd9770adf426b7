import HubBridge.Proofs.Messages

/-!
# Three readers of one text

A reply is read twice, once for the one status that goes on record and once for both positions, and
an event is read by a scan of its own. A text begins with the status prefix, or speaks of the door,
or does neither, and in each case the readers see the same tokens: so they never contradict each
other, and the answer to a query for a lock agrees with the record of its door.
-/

namespace HubBridge.Proofs

open Text

/-! ### One status for both positions -/

/-- Both positions as one status: that of the lock comes first, and of the door only an open one
shows. -/
def mergedStatus (p : Positions) : Status :=
  match p.isLocked with
  | some locked => positionStatus locked
  | none => if p.isOpen = some true then .opened else .unknown

lemma scan_eq_merged (s : String) : scan s = mergedStatus (.ofTokens (tokens s)) := by
  unfold scan mergedStatus Positions.ofTokens
  dsimp only
  cases lastOf lockOfToken (tokens s) with
  | some locked => cases locked <;> rfl
  | none =>
    cases lastOf openOfToken (tokens s) with
    | some isOpen => cases isOpen <;> rfl
    | none => rfl

lemma lockState_merged (p : Positions) : (mergedStatus p).lockState = p.isLocked := by
  obtain ⟨isOpen, isLocked⟩ := p
  cases isLocked with
  | some locked => cases locked <;> rfl
  | none =>
    cases isOpen with
    | some isOpen => cases isOpen <;> rfl
    | none => rfl

lemma lastOf_singleton (read : String → Option Bool) (token : String) :
    lastOf read [token] = read token := by
  rw [← List.nil_append [token], lastOf_concat, show lastOf read [] = none from rfl, Option.or_none]

/-- Behind the prefix the whole rest is one token. -/
lemma merged_singleton (rest : String) :
    mergedStatus (.ofTokens [rest]) =
      if rest = lockedToken then .locked
      else if rest = unlockedToken then .unlocked
      else if rest = openToken then .opened
      else .unknown := by
  unfold mergedStatus Positions.ofTokens
  rw [lastOf_singleton, lastOf_singleton]
  unfold lockOfToken openOfToken
  by_cases hlocked : rest = lockedToken
  · rw [if_pos hlocked, if_pos hlocked]
    rfl
  · rw [if_neg hlocked, if_neg hlocked]
    by_cases hunlocked : rest = unlockedToken
    · rw [if_pos hunlocked, if_pos hunlocked]
      rfl
    · rw [if_neg hunlocked, if_neg hunlocked]
      by_cases hopen : rest = openToken
      · rw [if_pos hopen, if_pos hopen]
        rfl
      · rw [if_neg hopen, if_neg hopen]
        by_cases hclosed : rest = closedToken
        · rw [if_pos hclosed]
          rfl
        · rw [if_neg hclosed]
          rfl

/-! ### The readers, text by text -/

/-- How a text begins and what it speaks of, which is all that its readers tell apart. -/
lemma text_cases (text : String) :
    (∃ rest, canonicalText text = statusLead ++ rest) ∨
      (¬ statusLead.toList <+: (canonicalText text).toList ∧
        mentionsDoor (canonicalText text) = true) ∨
      ¬ statusLead.toList <+: (canonicalText text).toList ∧
        mentionsDoor (canonicalText text) = false := by
  by_cases hlead : statusLead.toList <+: (canonicalText text).toList
  · obtain ⟨rest, hrest⟩ := hlead
    refine .inl ⟨.ofList rest, ?_⟩
    rw [← String.toList_inj, String.toList_append, String.toList_ofList, hrest]
  · rcases Bool.eq_false_or_eq_true (mentionsDoor (canonicalText text)) with hdoor | hdoor
    · exact .inr (.inl ⟨hlead, hdoor⟩)
    · exact .inr (.inr ⟨hlead, hdoor⟩)

lemma positions_prefixed {text rest : String} (h : canonicalText text = statusLead ++ rest) :
    Positions.ofAction text = .ofTokens [rest] := by
  unfold Positions.ofAction
  dsimp only
  rw [after?_eq_some.mpr h]

lemma positions_scanned {text : String}
    (hlead : ¬ statusLead.toList <+: (canonicalText text).toList)
    (hdoor : mentionsDoor (canonicalText text) = true) :
    Positions.ofAction text = .ofTokens (tokens (canonicalText text)) := by
  unfold Positions.ofAction
  dsimp only
  rw [after?_eq_none.mpr hlead]
  dsimp only
  rw [if_pos hdoor]

lemma positions_mute {text : String}
    (hlead : ¬ statusLead.toList <+: (canonicalText text).toList)
    (hdoor : mentionsDoor (canonicalText text) = false) :
    Positions.ofAction text = ⟨none, none⟩ := by
  unfold Positions.ofAction
  dsimp only
  rw [after?_eq_none.mpr hlead]
  dsimp only
  rw [hdoor]
  rfl

/-- A text with neither the prefix nor a word on the door says nothing, an echo of the query
included. -/
lemma ofAction_mute {text : String}
    (hlead : ¬ statusLead.toList <+: (canonicalText text).toList)
    (hdoor : mentionsDoor (canonicalText text) = false) :
    (Reading.ofAction text).status = .unknown ∧ (Reading.ofAction text).encoding ≠ .tokenScan := by
  unfold Reading.ofAction
  dsimp only
  rw [after?_eq_none.mpr hlead]
  dsimp only
  rw [hdoor]
  by_cases hecho : canonicalText text = queryAction
  · rw [if_pos hecho]
    exact ⟨rfl, nofun⟩
  · rw [if_neg hecho]
    exact ⟨rfl, nofun⟩

/-- The status of a reply is what its two positions come to. -/
lemma status_ofAction (text : String) :
    (Reading.ofAction text).status = mergedStatus (.ofAction text) := by
  obtain ⟨rest, hs⟩ | ⟨hlead, hdoor⟩ | ⟨hlead, hdoor⟩ := text_cases text
  · rw [ofAction_prefixed hs, positions_prefixed hs, merged_singleton]
  · rw [ofAction_scanned hlead hdoor, positions_scanned hlead hdoor, scan_eq_merged]
  · rw [(ofAction_mute hlead hdoor).1, positions_mute hlead hdoor]
    rfl

lemma scanned_of_tokenScan {text : String} (h : (Reading.ofAction text).encoding = .tokenScan) :
    Reading.ofAction text = ⟨scan (canonicalText text), .tokenScan⟩ := by
  obtain ⟨rest, hs⟩ | ⟨hlead, hdoor⟩ | ⟨hlead, hdoor⟩ := text_cases text
  · rw [ofAction_prefixed hs] at h
    cases h
  · exact ofAction_scanned hlead hdoor
  · exact absurd h (ofAction_mute hlead hdoor).2

lemma updatesDoor_scanned (status : Status) :
    Reading.updatesDoor ⟨status, .tokenScan⟩ = status.isKnown := rfl

lemma status_ofEvent (text : String) :
    (Reading.ofEvent text).status = scan (canonicalText text) := by
  unfold Reading.ofEvent
  dsimp only

lemma updatesDoor_ofEvent (text : String) :
    (Reading.ofEvent text).updatesDoor = (scan (canonicalText text)).isKnown := by
  unfold Reading.ofEvent Reading.updatesDoor
  dsimp only
  cases hknown : (scan (canonicalText text)).isKnown with
  | true => rfl
  | false => rfl

lemma updatesDoor_of_isLocked {text : String} {locked : Bool}
    (h : (Positions.ofAction text).isLocked = some locked) :
    (Reading.ofAction text).updatesDoor = true := by
  obtain ⟨rest, hs⟩ | ⟨hlead, hdoor⟩ | ⟨hlead, hdoor⟩ := text_cases text
  · rw [ofAction_prefixed hs]
    rfl
  · rw [positions_scanned hlead hdoor, ← lockState_merged, ← scan_eq_merged] at h
    rw [ofAction_scanned hlead hdoor, updatesDoor_scanned]
    exact isKnown_of_lockState h
  · rw [positions_mute hlead hdoor] at h
    cases h

/-! ### The answer to a query and the record -/

/-- What a call for the information on a door returns if this message is the reply that ends its
query. -/
def answerToQuery (m : ModuleId) (message : Message) : Option CallResult :=
  ((replyEvent message).bind fun ending => ending.2.outcome?).map (Purpose.info m).result

/-- A lock position that a query would be told is on record as soon as the reply was handled. -/
lemma record_of_answer (s : Session) (time : Int) {asked m : ModuleId} {id : CorrelationId}
    {target : Target} {action raw : String} {info : DoorSnapshot} {locked : Bool}
    (hinfo : answerToQuery asked (.feedback m id target action raw) = some (.info (some info)))
    (hlocked : info.positions.isLocked = some locked) :
    info.moduleId = m ∧
      ((s.handle time (.feedback m id target action raw)).doors.door m).isLocked = some locked := by
  obtain rfl : DoorSnapshot.ofReply
      ⟨m, id, target, (Reading.ofAction action).status, action⟩ = info := by
    simpa [answerToQuery, replyEvent, Event.outcome?, Purpose.result, Except.toOption] using hinfo
  refine ⟨rfl, ?_⟩
  have hposition : (Positions.ofAction action).isLocked = some locked := hlocked
  have hstatus : (Reading.ofAction action).status = positionStatus locked := by
    rw [← lockState_eq_some, status_ofAction, lockState_merged, hposition]
  have hreport : reportOn m (.feedback m id target action raw) = some (positionStatus locked) :=
    reportOn_eq_some.mpr ⟨_, rfl, updatesDoor_of_isLocked hposition, hstatus⟩
  rw [door_handle, hreport]
  cases locked <;> rfl

/-- For every text: the status that a reply gives is the one its positions come to; if it was
scanned for tokens, the reader of events gives the same status and the same word on the record; and
whatever lock position a query takes from the reply stands on record of the door of its module once
the reply was handled, whatever stood there before. -/
theorem readers_agree (text : String) :
    (Reading.ofAction text).status = mergedStatus (.ofAction text) ∧
    ((Reading.ofAction text).encoding = .tokenScan →
      (Reading.ofEvent text).status = (Reading.ofAction text).status ∧
        (Reading.ofEvent text).updatesDoor = (Reading.ofAction text).updatesDoor) ∧
    ∀ (s : Session) (time : Int) (asked m : ModuleId) (id : CorrelationId) (target : Target)
      (raw : String) (info : DoorSnapshot) (locked : Bool),
      answerToQuery asked (.feedback m id target text raw) = some (.info (some info)) →
      info.positions.isLocked = some locked →
      info.moduleId = m ∧
        ((s.handle time (.feedback m id target text raw)).doors.door m).isLocked = some locked := by
  refine ⟨status_ofAction text, ?_, ?_⟩
  · intro hscanned
    constructor
    · rw [scanned_of_tokenScan hscanned, status_ofEvent]
    · rw [scanned_of_tokenScan hscanned, updatesDoor_ofEvent, updatesDoor_scanned]
  · intro s time asked m id target raw info locked hinfo hlocked
    exact record_of_answer s time hinfo hlocked

/-- Of an open door with its bolt out the query is told both, and the record keeps the lock. -/
theorem readers_agree_open_locked :
    ((Reading.ofAction "open,unlocked locked").encoding = .tokenScan ∧
      (Reading.ofEvent "open,unlocked locked").status = .locked) ∧
    (((Session.start .default).handle 0
        (.feedback ⟨"D1"⟩ ⟨1⟩ ⟨"D0"⟩ "open,unlocked locked" "")).doors.door ⟨"D1"⟩).isLocked =
      some true := by
  have hscanned : (Reading.ofAction "open,unlocked locked").encoding = .tokenScan := by
    decide +kernel
  obtain ⟨-, hevent, hrecord⟩ := readers_agree "open,unlocked locked"
  refine ⟨⟨hscanned, (hevent hscanned).1.trans (by decide +kernel)⟩, ?_⟩
  refine (hrecord (Session.start .default) 0 ⟨"D1"⟩ ⟨"D1"⟩ ⟨1⟩ ⟨"D0"⟩ ""
    ⟨⟨"D1"⟩, ⟨"D0"⟩, "open,unlocked locked", ⟨some true, some true⟩⟩ true ?_ rfl).2
  have hpositions : Positions.ofAction "open,unlocked locked" = ⟨some true, some true⟩ := by
    decide +kernel
  show some (CallResult.info (some ⟨⟨"D1"⟩, ⟨"D0"⟩, _, Positions.ofAction _⟩)) = _
  rw [hpositions]

end HubBridge.Proofs
