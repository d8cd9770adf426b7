import HubBridge.Proofs.Pieces
import HubBridge.Reading

/-!
# What a status text says of the lock

Upper-casing changes no comma and no blank and makes none, so the tokens of a text in canonical form
are the tokens of the text as it was written, each in upper case. Hence a scanned text says of the
lock what its last whole lock token says.
-/

namespace HubBridge.Proofs

open Text

/-! ### Upper case and separators -/

def separatorCodes : List Nat :=
  [0x2C, 0x09, 0x0A, 0x0B, 0x0C, 0x0D, 0x20, 0x85, 0xA0, 0x1680, 0x2000, 0x2001, 0x2002, 0x2003,
    0x2004, 0x2005, 0x2006, 0x2007, 0x2008, 0x2009, 0x200A, 0x2028, 0x2029, 0x202F, 0x205F, 0x3000]

lemma isSeparator_iff (c : Char) : isSeparator c = true ↔ c.toNat ∈ separatorCodes := by
  have hcomma : c = ',' ↔ c.toNat = 0x2C := by
    rw [← Char.toNat_inj]
    rfl
  simp only [isSeparator, isBlank, Bool.or_eq_true, beq_iff_eq, hcomma, Bool.and_eq_true,
    decide_eq_true_eq, separatorCodes, List.mem_cons, List.not_mem_nil, or_false]
  omega

lemma isSeparator_of_isBlank (c : Char) (h : isBlank c = true) : isSeparator c = true := by
  simp [isSeparator, h]

lemma isSeparator_ofNat {n : Nat} (h : n ∉ separatorCodes) : isSeparator (Char.ofNat n) = false := by
  rw [Bool.eq_false_iff, ne_eq, isSeparator_iff]
  by_cases hn : n.isValidChar
  · rwa [Char.ofNat, dif_pos hn]
  · rw [Char.ofNat, dif_neg hn]
    decide

lemma expansions_clean : ∀ e ∈ expansions, e.2 ≠ [] ∧ ∀ n ∈ e.2, n ∉ separatorCodes := by
  decide +kernel

/-- No run of characters is moved across a separator. -/
lemma shifts_clean : ∀ s ∈ shifts, ∀ n ∈ separatorCodes,
    n < s.image ∨ s.image + (s.last - s.first) < n := by
  decide +kernel

lemma upperChar_separator {c : Char} (h : isSeparator c = true) : upperChar c = [c] := by
  have hall : ∀ n ∈ separatorCodes, upperChar (Char.ofNat n) = [Char.ofNat n] := by
    decide +kernel
  have hc := hall c.toNat ((isSeparator_iff c).mp h)
  rwa [Char.ofNat_toNat] at hc

lemma upperChar_whole {c : Char} (h : isSeparator c = false) :
    upperChar c ≠ [] ∧ Whole isSeparator (upperChar c) := by
  have hself : Whole isSeparator [c] := by simpa [Whole] using h
  unfold upperChar
  dsimp only
  by_cases hascii : c.toNat < 0x80
  · rw [if_pos hascii]
    refine ⟨List.cons_ne_nil _ _, ?_⟩
    simp only [Bool.and_eq_true, decide_eq_true_eq]
    by_cases hlower : 0x61 ≤ c.toNat ∧ c.toNat ≤ 0x7A
    · rw [if_pos hlower]
      have hn : c.toNat - 0x20 ∉ separatorCodes := by
        simp only [separatorCodes, List.mem_cons, List.not_mem_nil, or_false]
        omega
      simpa [Whole] using isSeparator_ofNat hn
    · rwa [if_neg hlower]
  · rw [if_neg hascii]
    cases hl : expansions.lookup c.toNat with
    | some image =>
      obtain ⟨l₁, l₂, hl, -⟩ := List.lookup_eq_some_iff.mp hl
      obtain ⟨hne, himage⟩ := expansions_clean (c.toNat, image) (by rw [hl]; simp)
      refine ⟨by simpa using hne, ?_⟩
      intro x hx
      obtain ⟨n, hn, rfl⟩ := List.mem_map.mp hx
      exact isSeparator_ofNat (himage n hn)
    | none =>
      cases hs : shifts.find? (·.covers c.toNat) with
      | none => exact ⟨List.cons_ne_nil _ _, hself⟩
      | some s =>
        have hmem : s ∈ shifts := List.mem_of_find?_eq_some hs
        have hcov := List.find?_some hs
        have hn : s.image + (c.toNat - s.first) ∉ separatorCodes := by
          intro hmemcode
          have hrun := shifts_clean s hmem _ hmemcode
          simp only [Shift.covers, Bool.and_eq_true, decide_eq_true_eq] at hcov
          omega
        refine ⟨List.cons_ne_nil _ _, ?_⟩
        simpa [Whole] using isSeparator_ofNat hn

theorem tokens_canonicalText (raw : String) :
    tokens (canonicalText raw) = (tokens raw).map upper := by
  unfold tokens canonicalText upper
  rw [String.toList_ofList, toList_trim,
    pieces_flatMap (fun _ => upperChar_separator) (fun _ => upperChar_whole),
    pieces_strip isSeparator_of_isBlank, List.map_map, List.map_map]
  apply List.map_congr_left
  intro piece _
  simp

/-! ### The last lock token -/

lemma lastOf_concat (read : String → Option Bool) (tokens : List String) (token : String) :
    lastOf read (tokens ++ [token]) = (read token).or (lastOf read tokens) := by
  rw [lastOf, List.foldl_append]
  rfl

lemma lastOf_eq_some {read : String → Option Bool} {tokens : List String} {b : Bool} :
    lastOf read tokens = some b ↔ ∃ before token after,
      tokens = before ++ token :: after ∧ read token = some b ∧ ∀ x ∈ after, read x = none := by
  constructor
  · intro h
    induction tokens using List.reverseRecOn with
    | nil => cases h
    | append_singleton tokens token ih =>
      rw [lastOf_concat] at h
      cases hr : read token with
      | some found =>
        rw [hr, Option.some_or] at h
        exact ⟨tokens, token, [], rfl, hr.trans h, by simp⟩
      | none =>
        rw [hr, Option.none_or] at h
        obtain ⟨before, last, after, rfl, hlast, hafter⟩ := ih h
        refine ⟨before, last, after ++ [token], by simp, hlast, ?_⟩
        intro x hx
        rcases List.mem_append.mp hx with hx | hx
        · exact hafter x hx
        · rw [List.mem_singleton.mp hx, hr]
  · rintro ⟨before, token, after, rfl, htoken, hafter⟩
    induction after using List.reverseRecOn with
    | nil => rw [lastOf_concat, htoken, Option.some_or]
    | append_singleton after x ih =>
      have hx : read x = none := hafter x (by simp)
      have hbefore := ih fun y hy => hafter y (List.mem_append_left _ hy)
      rw [← List.cons_append, ← List.append_assoc, lastOf_concat, hx, Option.none_or, hbefore]

def lockToken (locked : Bool) : String := if locked then lockedToken else unlockedToken

lemma lockOfToken_eq_some {token : String} {locked : Bool} :
    lockOfToken token = some locked ↔ token = lockToken locked := by
  unfold lockOfToken lockToken lockedToken unlockedToken
  by_cases h₁ : token = "LOCKED"
  · cases locked <;> simp [h₁]
  · by_cases h₂ : token = "UNLOCKED"
    · cases locked <;> simp [h₂]
    · cases locked <;> simp [h₁, h₂]

lemma lockOfToken_eq_none {token : String} :
    lockOfToken token = none ↔ token ≠ lockedToken ∧ token ≠ unlockedToken := by
  rw [Option.eq_none_iff_forall_ne_some, Bool.forall_bool, ne_eq, ne_eq, lockOfToken_eq_some,
    lockOfToken_eq_some, and_comm]
  rfl

/-- Of the pieces of the text that are lock tokens, in whatever case they are written, the last one
is that of this position. -/
def LastLockToken (locked : Bool) (text : String) : Prop :=
  ∃ before token after, tokens text = before ++ token :: after ∧ upper token = lockToken locked ∧
    ∀ x ∈ after, upper x ≠ lockedToken ∧ upper x ≠ unlockedToken

lemma lastOf_lockOfToken {text : String} {locked : Bool} :
    lastOf lockOfToken (tokens (canonicalText text)) = some locked ↔ LastLockToken locked text := by
  rw [tokens_canonicalText, lastOf_eq_some]
  constructor
  · rintro ⟨before, token, after, heq, htoken, hafter⟩
    obtain ⟨l₁, l₂, hl, rfl, hrest⟩ := List.map_eq_append_iff.mp heq
    obtain ⟨t, l₃, rfl, rfl, rfl⟩ := List.map_eq_cons_iff.mp hrest
    refine ⟨l₁, t, l₃, hl, lockOfToken_eq_some.mp htoken, ?_⟩
    intro x hx
    exact lockOfToken_eq_none.mp (hafter (upper x) (List.mem_map_of_mem hx))
  · rintro ⟨before, token, after, heq, htoken, hafter⟩
    refine ⟨before.map upper, upper token, after.map upper, by rw [heq]; simp,
      lockOfToken_eq_some.mpr htoken, ?_⟩
    intro x hx
    obtain ⟨y, hy, rfl⟩ := List.mem_map.mp hx
    exact lockOfToken_eq_none.mpr (hafter y hy)

lemma lockState_scan (s : String) : (scan s).lockState = lastOf lockOfToken (tokens s) := by
  unfold scan
  cases lastOf lockOfToken (tokens s) with
  | some locked => cases locked <;> rfl
  | none =>
    cases lastOf openOfToken (tokens s) with
    | none => rfl
    | some isOpen => cases isOpen <;> rfl

lemma isKnown_of_lockState {status : Status} {locked : Bool} (h : status.lockState = some locked) :
    status.isKnown = true := by
  cases status <;> first | rfl | cases h

def positionStatus (locked : Bool) : Status := if locked then .locked else .unlocked

lemma lockState_eq_some {status : Status} {locked : Bool} :
    status.lockState = some locked ↔ status = positionStatus locked := by
  cases status <;> cases locked <;> simp [Status.lockState, positionStatus]

def lockCommand (locked : Bool) : String := if locked then lockAction else unlockAction

lemma positionStatus_inj {a b : Bool} : positionStatus a = positionStatus b ↔ a = b := by
  cases a <;> cases b <;> simp [positionStatus]

lemma lockCommand_inj {a b : Bool} : lockCommand a = lockCommand b ↔ a = b := by
  cases a <;> cases b <;> simp [lockCommand, lockAction, unlockAction]

/-- Only the bare echo of a `LOCK` or an `UNLOCK` promises something, which is its position. -/
lemma acknowledged_eq_some {raw : String} {status : Status} :
    acknowledged raw = some status ↔
      ∃ locked, trim raw = lockCommand locked ∧ status = positionStatus locked := by
  unfold acknowledged
  dsimp only
  rw [Bool.exists_bool]
  unfold lockCommand positionStatus
  by_cases h₁ : trim raw = lockAction
  · simp [h₁, lockAction, unlockAction, eq_comm]
  · rw [if_neg h₁]
    by_cases h₂ : trim raw = unlockAction
    · simp [h₂, lockAction, unlockAction, eq_comm]
    · simp [h₁, h₂]

/-! ### Texts that report a lock position -/

lemma mentionsDoor_iff (s : String) : mentionsDoor s = true ↔
    openToken.toList <:+: s.toList ∨ closedToken.toList <:+: s.toList := by
  rw [mentionsDoor, Bool.or_eq_true, contains, contains, occursIn_iff, occursIn_iff]

/-- The action of a reply says outright that the lock is in this position: either it is prefixed, or
it speaks of the door and its last lock token is that of the position. -/
def ActionReports (locked : Bool) (action : String) : Prop :=
  canonicalText action = statusLead ++ lockToken locked ∨
    (¬ statusLead.toList <+: (canonicalText action).toList ∧
      (openToken.toList <:+: (canonicalText action).toList ∨
        closedToken.toList <:+: (canonicalText action).toList) ∧
      LastLockToken locked action)

lemma after?_eq_none {lead s : String} : after? lead s = none ↔ ¬ lead.toList <+: s.toList := by
  rw [Option.eq_none_iff_forall_ne_some, ← not_exists, not_iff_not]
  constructor
  · rintro ⟨rest, h⟩
    rw [after?_eq_some.mp h, String.toList_append]
    exact List.prefix_append _ _
  · rintro ⟨rest, h⟩
    refine ⟨.ofList rest, after?_eq_some.mpr ?_⟩
    rw [← String.toList_inj, String.toList_append, String.toList_ofList, h]

lemma lockState_prefixed (rest : String) (locked : Bool) :
    (if rest = lockedToken then Status.locked
      else if rest = unlockedToken then .unlocked
      else if rest = openToken then .opened
      else .unknown).lockState = some locked ↔ rest = lockToken locked := by
  unfold lockToken
  by_cases h₁ : rest = lockedToken
  · rw [if_pos h₁, h₁]
    cases locked <;> simp [Status.lockState, lockedToken, unlockedToken]
  · rw [if_neg h₁]
    by_cases h₂ : rest = unlockedToken
    · rw [if_pos h₂, h₂]
      cases locked <;> simp [Status.lockState, lockedToken, unlockedToken]
    · rw [if_neg h₂]
      by_cases h₃ : rest = openToken
      · rw [if_pos h₃]
        cases locked <;> simp [Status.lockState, h₁, h₂]
      · rw [if_neg h₃]
        cases locked <;> simp [Status.lockState, h₁, h₂]

lemma ofAction_prefixed {action rest : String} (h : canonicalText action = statusLead ++ rest) :
    Reading.ofAction action =
      ⟨if rest = lockedToken then .locked
        else if rest = unlockedToken then .unlocked
        else if rest = openToken then .opened
        else .unknown, .prefixed⟩ := by
  unfold Reading.ofAction
  dsimp only
  rw [after?_eq_some.mpr h]

lemma ofAction_scanned {action : String}
    (hlead : ¬ statusLead.toList <+: (canonicalText action).toList)
    (hdoor : mentionsDoor (canonicalText action) = true) :
    Reading.ofAction action = ⟨scan (canonicalText action), .tokenScan⟩ := by
  have hecho : canonicalText action ≠ queryAction := by
    intro h
    rw [h] at hdoor
    exact absurd hdoor (by decide +kernel)
  unfold Reading.ofAction
  dsimp only
  rw [after?_eq_none.mpr hlead]
  dsimp only
  rw [if_neg hecho, if_pos hdoor]

lemma updatesDoor_ofAction_other {action : String}
    (hlead : ¬ statusLead.toList <+: (canonicalText action).toList)
    (hdoor : mentionsDoor (canonicalText action) = false) :
    (Reading.ofAction action).updatesDoor = false := by
  unfold Reading.ofAction
  dsimp only
  rw [after?_eq_none.mpr hlead]
  dsimp only
  rw [hdoor]
  by_cases hecho : canonicalText action = queryAction
  · rw [if_pos hecho]
    rfl
  · rw [if_neg hecho]
    rfl

/-- The record of the door gets a lock position from a reply exactly if its action reports it. -/
theorem ofAction_reports (locked : Bool) (action : String) :
    (Reading.ofAction action).updatesDoor = true ∧
        (Reading.ofAction action).status.lockState = some locked ↔
      ActionReports locked action := by
  unfold ActionReports
  by_cases hlead : statusLead.toList <+: (canonicalText action).toList
  · obtain ⟨rest, hrest⟩ := hlead
    have hs : canonicalText action = statusLead ++ .ofList rest := by
      rw [← String.toList_inj, String.toList_append, String.toList_ofList, hrest]
    rw [ofAction_prefixed hs, lockState_prefixed, hs, String.append_right_inj]
    simp [Reading.updatesDoor]
  · have hne : canonicalText action ≠ statusLead ++ lockToken locked := by
      intro h
      rw [h, String.toList_append] at hlead
      exact hlead (List.prefix_append _ _)
    rw [← mentionsDoor_iff]
    cases hdoor : mentionsDoor (canonicalText action) with
    | true =>
      rw [ofAction_scanned hlead hdoor, ← lastOf_lockOfToken, ← lockState_scan]
      have hknown := @isKnown_of_lockState (scan (canonicalText action)) locked
      simp only [Reading.updatesDoor, hne, hlead, not_false_eq_true, true_and, false_or]
      exact and_iff_right_of_imp hknown
    | false =>
      rw [updatesDoor_ofAction_other hlead hdoor]
      simp [hne]

/-- The record of the door gets a lock position from an event exactly if that is what its last lock
token says. -/
theorem ofEvent_reports (locked : Bool) (text : String) :
    (Reading.ofEvent text).updatesDoor = true ∧
        (Reading.ofEvent text).status.lockState = some locked ↔
      LastLockToken locked text := by
  rw [← lastOf_lockOfToken, ← lockState_scan]
  unfold Reading.ofEvent
  dsimp only
  constructor
  · exact And.right
  · intro h
    have hknown := isKnown_of_lockState h
    refine ⟨?_, h⟩
    simp [Reading.updatesDoor, hknown]

end HubBridge.Proofs
