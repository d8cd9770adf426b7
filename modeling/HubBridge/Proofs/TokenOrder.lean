import HubBridge.Proofs.Spelling

/-!
# Legacy pairs in any order

In a text without a prefixed status only three things count: its last lock token, its last door token
and, for a reply, whether any of its tokens speaks of the door. The order of the tokens can matter only
where both positions of the lock, or both of the door, are named.
-/

namespace HubBridge.Proofs

open Text

/-! ### The last token of a kind -/

/-- The tokens of a text as the readers see them. -/
def upperTokens (text : String) : List String := (tokens text).map upper

def lockTokens : List String := [lockedToken, unlockedToken]

def doorTokens : List String := [openToken, closedToken]

def lastAmong (kinds ts : List String) : Option String := ts.reverse.find? (· ∈ kinds)

lemma lastAmong_concat (kinds ts : List String) (token : String) :
    lastAmong kinds (ts ++ [token]) =
      if token ∈ kinds then some token else lastAmong kinds ts := by
  unfold lastAmong
  rw [List.reverse_append, List.reverse_singleton, List.singleton_append, List.find?_cons]
  by_cases h : token ∈ kinds
  · rw [if_pos h, decide_eq_true h]
  · rw [if_neg h, decide_eq_false h]

/-- A reader that answers to just these tokens answers to the last of them. -/
lemma lastOf_eq_bind {read : String → Option Bool} {kinds : List String}
    (hread : ∀ token, read token = none ↔ token ∉ kinds) (ts : List String) :
    lastOf read ts = (lastAmong kinds ts).bind read := by
  induction ts using List.reverseRecOn with
  | nil => rfl
  | append_singleton ts token ih =>
    rw [lastOf_concat, lastAmong_concat, ih]
    by_cases h : token ∈ kinds
    · obtain ⟨found, hfound⟩ := Option.ne_none_iff_exists'.mp fun hnone => (hread token).mp hnone h
      rw [if_pos h, hfound, Option.some_or, Option.bind_some, hfound]
    · rw [if_neg h, (hread token).mpr h, Option.none_or]

lemma lockOfToken_eq_none_iff (token : String) : lockOfToken token = none ↔ token ∉ lockTokens := by
  rw [lockOfToken_eq_none, lockTokens, List.mem_pair, not_or]

lemma openOfToken_eq_none_iff (token : String) : openOfToken token = none ↔ token ∉ doorTokens := by
  unfold openOfToken doorTokens
  rw [List.mem_pair, not_or]
  by_cases hopen : token = openToken
  · simp [hopen]
  · rw [if_neg hopen]
    by_cases hclosed : token = closedToken
    · simp [hclosed]
    · simp [hopen, hclosed]

lemma lastAmong_eq_none {kinds ts : List String} :
    lastAmong kinds ts = none ↔ ∀ token ∈ ts, token ∉ kinds := by
  simp [lastAmong]

lemma mem_of_lastAmong {kinds ts : List String} {token : String}
    (h : lastAmong kinds ts = some token) : token ∈ ts ∧ token ∈ kinds := by
  have hkind := List.find?_some h
  exact ⟨List.mem_reverse.mp (List.mem_of_find?_eq_some h), by simpa using hkind⟩

lemma lastAmong_eq_none_of_perm {kinds ts ts' : List String} (hperm : ts.Perm ts')
    (h : lastAmong kinds ts = none) : lastAmong kinds ts' = none := by
  rw [lastAmong_eq_none] at h ⊢
  exact fun token htoken => h token (hperm.mem_iff.mpr htoken)

/-- Which of two tokens comes last does not depend on the order if only one of them is there. -/
lemma lastAmong_perm {a b : String} {ts ts' : List String} (hperm : ts.Perm ts')
    (hone : ¬ (a ∈ ts ∧ b ∈ ts)) : lastAmong [a, b] ts = lastAmong [a, b] ts' := by
  cases h : lastAmong [a, b] ts with
  | none => rw [lastAmong_eq_none_of_perm hperm h]
  | some x =>
    cases h' : lastAmong [a, b] ts' with
    | none => rw [lastAmong_eq_none_of_perm hperm.symm h'] at h; cases h
    | some y =>
      obtain ⟨hx, hxkind⟩ := mem_of_lastAmong h
      obtain ⟨hy, hykind⟩ := mem_of_lastAmong h'
      rw [← hperm.mem_iff] at hy
      rw [List.mem_pair] at hxkind hykind
      -- Both are in the text, so they cannot be the two different tokens.
      rcases hxkind with rfl | rfl
      · rcases hykind with rfl | rfl
        · rfl
        · exact absurd ⟨hx, hy⟩ hone
      · rcases hykind with rfl | rfl
        · exact absurd ⟨hy, hx⟩ hone
        · rfl

/-! ### Texts without a prefixed status -/

def NoneLeads (ts : List String) : Prop := ∀ token ∈ ts, ¬ statusLead.toList <+: token.toList

def NamesDoor (ts : List String) : Prop :=
  ∃ token ∈ ts, openToken.toList <:+: token.toList ∨ closedToken.toList <:+: token.toList

variable {text other : String}

lemma not_prefixed_of_noneLeads (h : NoneLeads (upperTokens text)) :
    ¬ statusLead.toList <+: (canonicalText text).toList := by
  intro hlead
  obtain ⟨piece, hpiece, hfirst⟩ :=
    exists_head_of_prefixed (by decide) (by decide : Whole isSeparator statusLead.toList) hlead
  have hmem : String.ofList piece ∈ tokens (canonicalText text) :=
    List.mem_map_of_mem (List.mem_of_mem_head? hpiece)
  rw [tokens_canonicalText] at hmem
  apply h _ hmem
  rwa [String.toList_ofList]

lemma mentionsDoor_iff_namesDoor (text : String) :
    mentionsDoor (canonicalText text) = true ↔ NamesDoor (upperTokens text) := by
  rw [mentionsDoor_iff_exists_piece (by decide : Whole isSeparator openToken.toList) (by decide),
    NamesDoor, upperTokens, ← tokens_canonicalText]
  simp only [mentionsDoor_iff]
  rfl

lemma NamesDoor.perm {ts ts' : List String} (hperm : ts.Perm ts') :
    NamesDoor ts ↔ NamesDoor ts' := by
  unfold NamesDoor
  simp only [hperm.mem_iff]

lemma NoneLeads.perm {ts ts' : List String} (hperm : ts.Perm ts') (h : NoneLeads ts) :
    NoneLeads ts' := fun token htoken => h token (hperm.mem_iff.mpr htoken)

/-- What the scan of a text finds is its last token of either kind. -/
lemma positions_of_tokens (text : String) :
    Positions.ofTokens (tokens (canonicalText text)) =
      ⟨(lastAmong doorTokens (upperTokens text)).bind openOfToken,
        (lastAmong lockTokens (upperTokens text)).bind lockOfToken⟩ := by
  rw [tokens_canonicalText, Positions.ofTokens, lastOf_eq_bind openOfToken_eq_none_iff,
    lastOf_eq_bind lockOfToken_eq_none_iff]
  rfl

/-- Where no status is prefixed the record changes with every reply that tells something. -/
lemma updatesDoor_unprefixed (hlead : ¬ statusLead.toList <+: (canonicalText text).toList) :
    (Reading.ofAction text).updatesDoor = (Reading.ofAction text).status.isKnown := by
  cases hdoor : mentionsDoor (canonicalText text) with
  | true =>
    rw [ofAction_scanned hlead hdoor]
    rfl
  | false =>
    rw [updatesDoor_ofAction_other hlead hdoor, (ofAction_mute hlead hdoor).1]
    rfl

/-! ### What a reading depends on -/

/-- The texts have the same last lock token and the same last door token. -/
structure SameLast (ts ts' : List String) : Prop where
  lock : lastAmong lockTokens ts = lastAmong lockTokens ts'
  door : lastAmong doorTokens ts = lastAmong doorTokens ts'

lemma SameLast.scanned (h : SameLast (upperTokens text) (upperTokens other)) :
    Positions.ofTokens (tokens (canonicalText text)) =
      Positions.ofTokens (tokens (canonicalText other)) := by
  rw [positions_of_tokens, positions_of_tokens, h.lock, h.door]

lemma SameLast.ofEvent (h : SameLast (upperTokens text) (upperTokens other)) :
    Reading.ofEvent text = Reading.ofEvent other := by
  unfold Reading.ofEvent
  rw [scan_eq_merged, scan_eq_merged, h.scanned]

lemma SameLast.positions (h : SameLast (upperTokens text) (upperTokens other))
    (hlead : NoneLeads (upperTokens text)) (hlead' : NoneLeads (upperTokens other))
    (hdoor : NamesDoor (upperTokens text) ↔ NamesDoor (upperTokens other)) :
    Positions.ofAction text = Positions.ofAction other := by
  have hlead := not_prefixed_of_noneLeads hlead
  have hlead' := not_prefixed_of_noneLeads hlead'
  rw [← mentionsDoor_iff_namesDoor, ← mentionsDoor_iff_namesDoor, ← Bool.eq_iff_iff] at hdoor
  cases hother : mentionsDoor (canonicalText other) with
  | true =>
    rw [positions_scanned hlead (hdoor.trans hother), positions_scanned hlead' hother, h.scanned]
  | false =>
    rw [positions_mute hlead (hdoor.trans hother), positions_mute hlead' hother]

lemma SameLast.ofAction (h : SameLast (upperTokens text) (upperTokens other))
    (hlead : NoneLeads (upperTokens text)) (hlead' : NoneLeads (upperTokens other))
    (hdoor : NamesDoor (upperTokens text) ↔ NamesDoor (upperTokens other)) :
    (Reading.ofAction text).status = (Reading.ofAction other).status ∧
      (Reading.ofAction text).updatesDoor = (Reading.ofAction other).updatesDoor := by
  have hstatus : (Reading.ofAction text).status = (Reading.ofAction other).status := by
    rw [status_ofAction, status_ofAction, h.positions hlead hlead' hdoor]
  refine ⟨hstatus, ?_⟩
  rw [updatesDoor_unprefixed (not_prefixed_of_noneLeads hlead),
    updatesDoor_unprefixed (not_prefixed_of_noneLeads hlead'), hstatus]

/-- Two texts with the same tokens in any order read the same, if no token is a prefixed status and
they name at most one position of the lock and one of the door. Without these two conditions the
reading depends on the last lock token, the last door token and, for a reply, whether some token
speaks of the door. -/
theorem pairs_in_any_order :
    (∀ text other : String, (upperTokens text).Perm (upperTokens other) →
      NoneLeads (upperTokens text) →
      ¬(lockedToken ∈ upperTokens text ∧ unlockedToken ∈ upperTokens text) →
      ¬(openToken ∈ upperTokens text ∧ closedToken ∈ upperTokens text) →
      (Reading.ofAction text).status = (Reading.ofAction other).status ∧
        (Reading.ofAction text).updatesDoor = (Reading.ofAction other).updatesDoor ∧
        Reading.ofEvent text = Reading.ofEvent other ∧
        Positions.ofAction text = Positions.ofAction other) ∧
    ∀ text other : String, NoneLeads (upperTokens text) → NoneLeads (upperTokens other) →
      lastAmong lockTokens (upperTokens text) = lastAmong lockTokens (upperTokens other) →
      lastAmong doorTokens (upperTokens text) = lastAmong doorTokens (upperTokens other) →
      Reading.ofEvent text = Reading.ofEvent other ∧
        ((NamesDoor (upperTokens text) ↔ NamesDoor (upperTokens other)) →
          (Reading.ofAction text).status = (Reading.ofAction other).status ∧
            (Reading.ofAction text).updatesDoor = (Reading.ofAction other).updatesDoor ∧
            Positions.ofAction text = Positions.ofAction other) := by
  refine ⟨?_, ?_⟩
  · intro text other hperm hlead hlock hdoor
    have hlast : SameLast (upperTokens text) (upperTokens other) :=
      ⟨lastAmong_perm hperm hlock, lastAmong_perm hperm hdoor⟩
    have hnames := NamesDoor.perm hperm
    have hlead' := hlead.perm hperm
    obtain ⟨hstatus, hupdates⟩ := hlast.ofAction hlead hlead' hnames
    exact ⟨hstatus, hupdates, hlast.ofEvent, hlast.positions hlead hlead' hnames⟩
  · intro text other hlead hlead' hlock hdoor
    have hlast : SameLast (upperTokens text) (upperTokens other) := ⟨hlock, hdoor⟩
    refine ⟨hlast.ofEvent, fun hnames => ?_⟩
    obtain ⟨hstatus, hupdates⟩ := hlast.ofAction hlead hlead' hnames
    exact ⟨hstatus, hupdates, hlast.positions hlead hlead' hnames⟩

/-- A pair turned round, and two texts that name both positions of the lock and end alike. -/
theorem pairs_in_any_order_turned :
    Positions.ofAction "closed,unlocked" = Positions.ofAction "Unlocked\u2003 Closed," ∧
      Positions.ofAction "reopened, unlocked locked" = Positions.ofAction "unclosed,LOCKED" := by
  obtain ⟨hturned, hlast⟩ := pairs_in_any_order
  constructor
  · exact (hturned _ _ (by decide +kernel) (by unfold NoneLeads; decide +kernel)
      (by decide +kernel) (by decide +kernel)).2.2.2
  · have hnames : NamesDoor (upperTokens "reopened, unlocked locked") ↔
        NamesDoor (upperTokens "unclosed,LOCKED") := by
      rw [← mentionsDoor_iff_namesDoor, ← mentionsDoor_iff_namesDoor]
      decide +kernel
    exact ((hlast _ _ (by unfold NoneLeads; decide +kernel) (by unfold NoneLeads; decide +kernel)
      (by decide +kernel) (by decide +kernel)).2 hnames).2.2

end HubBridge.Proofs
