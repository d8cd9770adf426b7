import HubBridge.Proofs.Padding
import HubBridge.Proofs.StatusReaders

/-!
# How a status may be spelt

A prefix, a part of a word and a whole token all lie within one word of a text, and upper-casing
neither breaks a word nor joins two. So the readers of statuses see the words of a text in upper case
and nothing else: neither the white space around them nor the case of their letters matters, and the
action that a message keeps is read like the part of the line where it stood.
-/

namespace HubBridge.Proofs

open Text

/-! ### The words of a text in upper case -/

lemma upperChar_blank {c : Char} (h : isBlank c = true) : upperChar c = [c] :=
  upperChar_separator (isSeparator_of_isBlank c h)

lemma upperChar_unbroken {c : Char} (h : isBlank c = false) :
    upperChar c ≠ [] ∧ Whole isBlank (upperChar c) := by
  cases hsep : isSeparator c with
  | true =>
    rw [upperChar_separator hsep]
    exact ⟨List.cons_ne_nil _ _, by simpa [Whole] using h⟩
  | false =>
    obtain ⟨hne, hwhole⟩ := upperChar_whole hsep
    refine ⟨hne, fun x hx => ?_⟩
    have hx := hwhole x hx
    simp only [isSeparator, Bool.or_eq_false_iff] at hx
    exact hx.2

theorem words_canonicalText (raw : String) :
    words (canonicalText raw) = (words raw).map upper := by
  unfold words canonicalText upper
  rw [String.toList_ofList, toList_trim,
    pieces_flatMap (fun _ => upperChar_blank) (fun _ => upperChar_unbroken),
    pieces_strip fun _ h => h, List.map_map, List.map_map]
  apply List.map_congr_left
  intro piece _
  simp

lemma head_canonicalText (raw : String) :
    ∀ c ∈ (canonicalText raw).toList.head?, isBlank c = false := by
  have hstrip := head_strip isBlank raw.toList
  unfold canonicalText upper
  rw [String.toList_ofList, toList_trim]
  cases hcs : strip isBlank raw.toList with
  | nil => simp
  | cons c cs =>
    rw [hcs] at hstrip
    obtain ⟨hne, hwhole⟩ := upperChar_unbroken (hstrip c rfl)
    obtain ⟨x, xs, hx⟩ := List.exists_cons_of_ne_nil hne
    rw [List.flatMap_cons, hx, List.cons_append, List.head?_cons]
    rintro y ⟨⟩
    exact hwhole x (hx ▸ List.mem_cons_self)

/-- A text is one word in canonical form just if that is its only word in upper case. -/
lemma canonicalText_eq_word {raw w : String} (hw : isWord w = true) :
    canonicalText raw = w ↔ (words raw).map upper = [w] := by
  rw [← words_canonicalText]
  constructor
  · rintro rfl
    exact words_word hw
  · intro h
    rw [words_canonicalText] at h
    obtain ⟨v, hv, hupper⟩ := List.map_eq_singleton_iff.mp h
    rw [canonicalText, trim_of_words_singleton hv, hupper]

/-! ### What the readers look for -/

lemma tokens_eq_flatMap (s : String) : tokens s = (words s).flatMap tokens := by
  unfold tokens words
  rw [← flatMap_pieces isSeparator_of_isBlank, List.map_flatMap, List.flatMap_map]
  simp only [String.toList_ofList]

lemma mentionsDoor_iff_exists_piece {sep : Char → Bool} (hopen : Whole sep openToken.toList)
    (hclosed : Whole sep closedToken.toList) (s : String) :
    mentionsDoor s = true ↔
      ∃ piece ∈ (pieces sep s.toList).map String.ofList, mentionsDoor piece = true := by
  have hopen := infix_iff_exists_piece (by decide) hopen s.toList
  have hclosed := infix_iff_exists_piece (by decide) hclosed s.toList
  simp only [mentionsDoor_iff, hopen, hclosed, List.mem_map, exists_exists_and_eq_and,
    String.toList_ofList, and_or_left, exists_or]

lemma mentionsDoor_iff_exists_word (s : String) :
    mentionsDoor s = true ↔ ∃ w ∈ words s, mentionsDoor w = true :=
  mentionsDoor_iff_exists_piece (by decide) (by decide) s

/-- A canonical text has the prefix of a status if its first word has. -/
lemma statusLead_prefix_iff (raw : String) :
    statusLead.toList <+: (canonicalText raw).toList ↔
      ∃ w ∈ ((words raw).map upper).head?, statusLead.toList <+: w.toList := by
  rw [← words_canonicalText, words, List.head?_map]
  constructor
  · intro h
    obtain ⟨piece, hpiece, hlead⟩ :=
      exists_head_of_prefixed (by decide) (by decide : Whole isBlank statusLead.toList) h
    exact ⟨.ofList piece, Option.mem_map_of_mem _ hpiece, by rwa [String.toList_ofList]⟩
  · rintro ⟨w, hw, hlead⟩
    obtain ⟨piece, hpiece, rfl⟩ := Option.mem_map.mp hw
    rw [String.toList_ofList] at hlead
    exact hlead.trans (prefix_of_head (head_canonicalText raw) hpiece)

/-- A text with neither the prefix nor a word on the door is an echo of the query or nothing that is
known. -/
lemma ofAction_unscanned {text : String}
    (hlead : ¬ statusLead.toList <+: (canonicalText text).toList)
    (hdoor : mentionsDoor (canonicalText text) = false) :
    Reading.ofAction text =
      ⟨.unknown, if canonicalText text = queryAction then .bareEcho else .unrecognized⟩ := by
  unfold Reading.ofAction
  dsimp only
  rw [after?_eq_none.mpr hlead]
  dsimp only
  rw [hdoor]
  by_cases hecho : canonicalText text = queryAction
  · rw [if_pos hecho, if_pos hecho]
  · rw [if_neg hecho, if_neg hecho]
    rfl

/-! ### Texts that are spelt alike -/

/-- The texts have the same words, but for the case of their letters. -/
def SpeltAlike (text other : String) : Prop := (words text).map upper = (words other).map upper

section SpeltAlike

variable {text other : String}

lemma SpeltAlike.tokens_eq (h : SpeltAlike text other) :
    tokens (canonicalText text) = tokens (canonicalText other) := by
  rw [tokens_eq_flatMap, tokens_eq_flatMap (canonicalText other), words_canonicalText,
    words_canonicalText, h]

lemma SpeltAlike.word_iff (h : SpeltAlike text other) {w : String} (hw : isWord w = true) :
    canonicalText text = w ↔ canonicalText other = w := by
  rw [canonicalText_eq_word hw, canonicalText_eq_word hw, h]

lemma SpeltAlike.prefixed (h : SpeltAlike text other) {rest : String}
    (hs : canonicalText text = statusLead ++ rest) :
    ∃ rest', canonicalText other = statusLead ++ rest' ∧
      ∀ token, isWord (statusLead ++ token) = true → (rest = token ↔ rest' = token) := by
  have hlead : statusLead.toList <+: (canonicalText other).toList := by
    rw [statusLead_prefix_iff, ← h, ← statusLead_prefix_iff, hs, String.toList_append]
    exact List.prefix_append _ _
  obtain ⟨rest', hrest'⟩ := hlead
  have hs' : canonicalText other = statusLead ++ .ofList rest' := by
    rw [← String.toList_inj, String.toList_append, String.toList_ofList, hrest']
  refine ⟨_, hs', fun token htoken => ?_⟩
  have hsame := h.word_iff htoken
  rwa [hs, hs', String.append_right_inj, String.append_right_inj] at hsame

lemma SpeltAlike.mentionsDoor_eq (h : SpeltAlike text other) :
    mentionsDoor (canonicalText text) = mentionsDoor (canonicalText other) := by
  rw [Bool.eq_iff_iff, mentionsDoor_iff_exists_word, mentionsDoor_iff_exists_word,
    words_canonicalText, words_canonicalText, h]

lemma SpeltAlike.not_prefixed (h : SpeltAlike text other)
    (hlead : ¬ statusLead.toList <+: (canonicalText text).toList) :
    ¬ statusLead.toList <+: (canonicalText other).toList := by
  rwa [statusLead_prefix_iff, ← h, ← statusLead_prefix_iff]

lemma SpeltAlike.ofEvent (h : SpeltAlike text other) :
    Reading.ofEvent text = Reading.ofEvent other := by
  unfold Reading.ofEvent scan
  rw [h.tokens_eq]

lemma SpeltAlike.ofAction (h : SpeltAlike text other) :
    Reading.ofAction text = Reading.ofAction other := by
  obtain ⟨rest, hs⟩ | ⟨hlead, hdoor⟩ | ⟨hlead, hdoor⟩ := text_cases text
  · obtain ⟨rest', hs', hsame⟩ := h.prefixed hs
    rw [ofAction_prefixed hs, ofAction_prefixed hs']
    simp only [hsame lockedToken (by decide), hsame unlockedToken (by decide),
      hsame openToken (by decide)]
  · have hdoor' := h.mentionsDoor_eq ▸ hdoor
    rw [ofAction_scanned hlead hdoor, ofAction_scanned (h.not_prefixed hlead) hdoor']
    unfold scan
    rw [h.tokens_eq]
  · have hdoor' := h.mentionsDoor_eq ▸ hdoor
    rw [ofAction_unscanned hlead hdoor, ofAction_unscanned (h.not_prefixed hlead) hdoor']
    have hecho : canonicalText text = queryAction ↔ canonicalText other = queryAction :=
      h.word_iff (by decide)
    simp only [hecho]

lemma SpeltAlike.positions (h : SpeltAlike text other) :
    Positions.ofAction text = Positions.ofAction other := by
  obtain ⟨rest, hs⟩ | ⟨hlead, hdoor⟩ | ⟨hlead, hdoor⟩ := text_cases text
  · obtain ⟨rest', hs', hsame⟩ := h.prefixed hs
    rw [positions_prefixed hs, positions_prefixed hs']
    simp only [Positions.ofTokens, lastOf_singleton, lockOfToken, openOfToken,
      hsame lockedToken (by decide), hsame unlockedToken (by decide),
      hsame openToken (by decide), hsame closedToken (by decide)]
  · have hdoor' := h.mentionsDoor_eq ▸ hdoor
    rw [positions_scanned hlead hdoor, positions_scanned (h.not_prefixed hlead) hdoor', h.tokens_eq]
  · have hdoor' := h.mentionsDoor_eq ▸ hdoor
    rw [positions_mute hlead hdoor, positions_mute (h.not_prefixed hlead) hdoor']

end SpeltAlike

lemma upperChar_lowerAsciiChar (c : Char) : upperChar (lowerAsciiChar c) = upperChar c := by
  have hletters : ∀ n ∈ List.range' 0x41 26,
      upperChar (Char.ofNat (n + 0x20)) = upperChar (Char.ofNat n) := by decide +kernel
  unfold lowerAsciiChar
  dsimp only
  simp only [Bool.and_eq_true, decide_eq_true_eq]
  by_cases hupper : 0x41 ≤ c.toNat ∧ c.toNat ≤ 0x5A
  · rw [if_pos hupper, hletters c.toNat (by rw [List.mem_range'_1]; omega), Char.ofNat_toNat]
  · rw [if_neg hupper]

lemma upper_lowerAscii (s : String) : upper (lowerAscii s) = upper s := by
  unfold upper lowerAscii
  rw [String.toList_ofList, List.flatMap_map]
  simp only [upperChar_lowerAsciiChar]

lemma speltAlike_of_lowerAscii {text other : String}
    (h : (words text).map lowerAscii = (words other).map lowerAscii) : SpeltAlike text other := by
  have hupper (ws : List String) : (ws.map lowerAscii).map upper = ws.map upper := by
    rw [List.map_map]
    exact List.map_congr_left fun w _ => upper_lowerAscii w
  rw [SpeltAlike, ← hupper, h, hupper]

/-! ### The part of a line that is read -/

/-- The part stands in the line behind `n` words, none of which it cuts. -/
def StandsBehind (n : Nat) (line part : String) : Prop :=
  ∃ head : String, line = head ++ part ∧ words line = words head ++ words part ∧
    (words head).length = n

lemma StandsBehind.words_eq {line part : String} {before after : List String}
    (h : StandsBehind before.length line part) (hwords : words line = before ++ after) :
    words part = after := by
  obtain ⟨head, -, hline, hlength⟩ := h
  rw [hwords] at hline
  exact (List.append_inj hline hlength.symm).2.symm

lemma words_ofList {ws : List String} {cs : List Char} (h : LaidOut ws cs) :
    words (.ofList cs) = ws := words_eq_iff.mpr (by rwa [String.toList_ofList])

lemma exists_cut {ws : List String} {cs : List Char} (h : LaidOut ws cs) {n : Nat}
    (hn : n ≤ ws.length) :
    ∃ head part, cs = head ++ part ∧ LaidOut (ws.take n) head ∧ LaidOut (ws.drop n) part := by
  induction h generalizing n with
  | @blank cs hblank =>
    obtain rfl := Nat.le_zero.mp hn
    exact ⟨[], cs, rfl, .blank (by simp), .blank hblank⟩
  | @word lead rest w ws hlead hword hrest hlaid ih =>
    cases n with
    | zero => exact ⟨[], _, rfl, .blank (by simp), .word hlead hword hrest hlaid⟩
    | succ n =>
      obtain ⟨head, part, rfl, hhead, hpart⟩ := ih (Nat.le_of_succ_le_succ hn)
      refine ⟨lead ++ (w.toList ++ head), part, by simp, ?_, hpart⟩
      refine .word hlead hword (fun c hc => hrest c ?_) hhead
      rw [List.head?_append, Option.mem_def.mp hc]
      rfl

lemma exists_standsBehind {line : String} {n : Nat} (hn : n ≤ (words line).length) :
    ∃ part, StandsBehind n line part := by
  obtain ⟨head, part, hline, hhead, hpart⟩ := exists_cut (laidOut_words line) hn
  refine ⟨.ofList part, .ofList head, ?_, ?_, ?_⟩
  · rw [← String.toList_inj, String.toList_append, String.toList_ofList, String.toList_ofList, hline]
  · rw [words_ofList hhead, words_ofList hpart, List.take_append_drop]
  · rw [words_ofList hhead, List.length_take_of_le hn]

/-- The words of a line from some place on, joined anew, are spelt like the part that stands there. -/
lemma spelt_behind {line : String} {before after : List String}
    (hline : words line = before ++ after) :
    (∃ part, StandsBehind before.length line part) ∧
      ∀ part, StandsBehind before.length line part → SpeltAlike (unwords after) part := by
  have hafter : ∀ w ∈ after, isWord w = true := by
    intro w hw
    apply isWord_of_laidOut (laidOut_words line) w
    rw [hline]
    exact List.mem_append_right before hw
  constructor
  · apply exists_standsBehind
    rw [hline, List.length_append]
    omega
  · intro part hpart
    rw [SpeltAlike, words_unwords hafter, hpart.words_eq hline]

lemma words_of_ofLine {line : String} {message : Message} {m : ModuleId}
    (hline : Message.ofLine line = message) (hm : message.moduleId? = some m) :
    Composed (trim line) (words line) message := by
  rcases ofLine_cases line with h | h
  · rwa [hline] at h
  · rw [hline] at h
    rw [h] at hm
    cases hm

/-- Two texts whose words are equal up to the case of ASCII letters read the same. And the action that a
reply keeps, or the text that an event keeps, reads like the part of its line behind the words that go
before: there is such a part, and where white space stands between them it may be cut anywhere. -/
theorem spelling_ignored :
    (∀ text other : String, (words text).map lowerAscii = (words other).map lowerAscii →
      Reading.ofAction text = Reading.ofAction other ∧
        Reading.ofEvent text = Reading.ofEvent other ∧
        Positions.ofAction text = Positions.ofAction other) ∧
    (∀ (line : String) (m : ModuleId) (id : CorrelationId) (target : Target) (action raw : String),
      Message.ofLine line = .feedback m id target action raw →
      (∃ part, StandsBehind 4 line part) ∧ ∀ part, StandsBehind 4 line part →
        Reading.ofAction action = Reading.ofAction part ∧
          Positions.ofAction action = Positions.ofAction part) ∧
    ∀ (line : String) (m : ModuleId) (target : Target) (text raw : String),
      Message.ofLine line = .event m target text raw →
      (∃ part, StandsBehind 3 line part) ∧ ∀ part, StandsBehind 3 line part →
        Reading.ofEvent text = Reading.ofEvent part := by
  refine ⟨?_, ?_, ?_⟩
  · intro text other h
    have halike := speltAlike_of_lowerAscii h
    exact ⟨halike.ofAction, halike.ofEvent, halike.positions⟩
  · intro line m id target action raw hline
    -- A reply keeps the words behind the first four.
    have hcomposed := words_of_ofLine hline rfl
    generalize hwords : words line = ws at hcomposed
    cases hcomposed with
    | @feedback idText more m id target hid hmore =>
      obtain ⟨hpart, halike⟩ :=
        @spelt_behind line [m.text, "FEEDBACK", idText, target.text] more hwords
      exact ⟨hpart, fun part h => ⟨(halike part h).ofAction, (halike part h).positions⟩⟩
  · intro line m target text raw hline
    have hcomposed := words_of_ofLine hline rfl
    generalize hwords : words line = ws at hcomposed
    cases hcomposed with
    | @event more m target hmore =>
      obtain ⟨hpart, halike⟩ :=
        @spelt_behind line [m.text, "EVENT", target.text] more hwords
      exact ⟨hpart, fun part h => (halike part h).ofEvent⟩

/-- Tabs, wide blanks and small letters, in two texts, in a reply and in an event. -/
theorem spelling_ignored_wide :
    Reading.ofAction "\u2003Closed, \tunLocked\n" = Reading.ofAction "closed,\u3000UNLOCKED" ∧
      Reading.ofAction "open, Locked" = Reading.ofAction "open,\u3000Locked \n" ∧
      Reading.ofEvent "lock Unlocked" = Reading.ofEvent "\tlock \u2003 Unlocked" := by
  obtain ⟨htexts, hreplies, hevents⟩ := spelling_ignored
  refine ⟨(htexts _ _ (by decide +kernel)).1, ?_, ?_⟩
  · exact ((hreplies "D2\tFEEDBACK +7  D0 open,\u3000Locked \n" ⟨"D2"⟩ ⟨7⟩ ⟨"D0"⟩ "open, Locked"
      "D2\tFEEDBACK +7  D0 open,\u3000Locked" (by decide +kernel)).2 "open,\u3000Locked \n"
      ⟨"D2\tFEEDBACK +7  D0 ", by decide +kernel, by decide +kernel, by decide +kernel⟩).1
  · exact (hevents "D2 EVENT\u00A0D0\tlock \u2003 Unlocked" ⟨"D2"⟩ ⟨"D0"⟩ "lock Unlocked"
      "D2 EVENT\u00A0D0\tlock \u2003 Unlocked" (by decide +kernel)).2 "\tlock \u2003 Unlocked"
      ⟨"D2 EVENT\u00A0D0", by decide +kernel, by decide +kernel, by decide +kernel⟩

end HubBridge.Proofs
