import HubBridge.Proofs.InboundGrammar

/-!
# Lines that are written and read again

Words with single blanks between them are read as those words, and a number is read as itself when it
is written. So a message can be written anew from its parts and is read as the same message, and of the
line that it came on only the trimmed text counts.
-/

namespace HubBridge.Proofs

open Text

/-! ### White space around a text -/

section Strip

variable {p : Char → Bool}

lemma exists_padding (p : Char → Bool) (cs : List Char) :
    ∃ lead trail, (∀ c ∈ lead, p c = true) ∧ (∀ c ∈ trail, p c = true) ∧
      cs = lead ++ (strip p cs ++ trail) := by
  refine ⟨cs.takeWhile p, (cs.dropWhile p).rtakeWhile p, ?_, ?_, ?_⟩
  · exact fun c hc => List.mem_takeWhile_imp hc
  · exact fun c hc => List.mem_rtakeWhile_imp hc
  · calc cs = cs.takeWhile p ++ cs.dropWhile p := List.takeWhile_append_dropWhile.symm
      _ = _ := congrArg (cs.takeWhile p ++ ·) List.rdropWhile_append_rtakeWhile.symm

lemma dropEndWhile_append {trail : List Char} (htrail : ∀ c ∈ trail, p c = true) (cs : List Char) :
    dropEndWhile p (cs ++ trail) = dropEndWhile p cs := by
  unfold dropEndWhile
  rw [List.reverse_append, List.dropWhile_append_of_pos fun c hc => htrail c (List.mem_reverse.mp hc)]

lemma strip_padded {lead trail : List Char} (hlead : ∀ c ∈ lead, p c = true)
    (htrail : ∀ c ∈ trail, p c = true) (cs : List Char) :
    strip p (lead ++ (cs ++ trail)) = strip p cs := by
  unfold strip
  rw [List.dropWhile_append_of_pos hlead, List.dropWhile_append]
  split
  · rename_i hnone
    have hdropped : trail.dropWhile p = [] := List.dropWhile_eq_nil_iff.mpr htrail
    rw [hdropped, List.isEmpty_iff.mp hnone]
  · exact dropEndWhile_append htrail _

lemma strip_strip (cs : List Char) : strip p (strip p cs) = strip p cs := by
  obtain ⟨lead, trail, hlead, htrail, hcs⟩ := exists_padding p cs
  calc strip p (strip p cs) = strip p (lead ++ (strip p cs ++ trail)) :=
        (strip_padded hlead htrail _).symm
    _ = strip p cs := by rw [← hcs]

/-- A text that begins and ends with other characters is left as it is. -/
lemma strip_eq_self {cs : List Char} (hhead : ∀ c ∈ cs.head?, p c = false)
    (hlast : ∀ c ∈ cs.getLast?, p c = false) : strip p cs = cs := by
  have hdrop : cs.dropWhile p = cs := by
    cases cs with
    | nil => rfl
    | cons c cs => exact List.dropWhile_cons_of_neg (by simp [hhead c rfl])
  unfold strip
  rw [hdrop]
  refine List.rdropWhile_eq_self_iff.mpr fun hne => ?_
  rw [Bool.not_eq_true]
  exact hlast _ (List.getLast?_eq_some_getLast hne)

end Strip

lemma trim_trim (s : String) : trim (trim s) = trim s := by
  rw [← String.toList_inj, toList_trim, toList_trim, strip_strip]

lemma trim_padded {lead trail : String} (hlead : isAllBlank lead = true)
    (htrail : isAllBlank trail = true) (s : String) : trim (lead ++ s ++ trail) = trim s := by
  rw [← String.toList_inj, toList_trim, toList_trim, String.toList_append, String.toList_append,
    List.append_assoc]
  exact strip_padded (List.all_eq_true.mp hlead) (List.all_eq_true.mp htrail) _

/-! ### Words with single blanks between them -/

lemma toList_unwords_cons (w : String) {ws : List String} (hws : ws ≠ []) :
    (unwords (w :: ws)).toList = w.toList ++ ' ' :: (unwords ws).toList := by
  unfold unwords
  rw [String.intercalate_cons_of_ne_nil hws, String.toList_append, String.toList_append,
    List.append_assoc]
  rfl

lemma toList_unwords_singleton (w : String) : (unwords [w]).toList = w.toList := by
  rw [unwords, String.intercalate_singleton]

/-- What follows the first words may as well be joined before. -/
lemma unwords_append_unwords (ws : List String) {more : List String} (hmore : more ≠ []) :
    unwords (ws ++ [unwords more]) = unwords (ws ++ more) := by
  unfold unwords
  cases ws with
  | nil => rw [List.nil_append, List.nil_append, String.intercalate_singleton]
  | cons w ws =>
    rw [String.intercalate_append_of_ne_nil (List.cons_ne_nil w ws) (List.cons_ne_nil _ _),
      String.intercalate_append_of_ne_nil (List.cons_ne_nil w ws) hmore,
      String.intercalate_singleton]

lemma laidOut_unwords {ws : List String} (hws : ∀ w ∈ ws, isWord w = true) :
    LaidOut ws (unwords ws).toList := by
  induction ws with
  | nil => exact .blank (by simp [unwords])
  | cons w ws ih =>
    have hw : isWord w = true := hws w List.mem_cons_self
    have hlaid := ih fun x hx => hws x (List.mem_cons_of_mem w hx)
    cases ws with
    | nil =>
      have h : LaidOut [w] ([] ++ (w.toList ++ [])) := .word (by simp) hw (by simp) (.blank (by simp))
      rwa [List.nil_append, List.append_nil, ← toList_unwords_singleton] at h
    | cons x ws =>
      rw [toList_unwords_cons w (List.cons_ne_nil x ws)]
      exact @LaidOut.word [] _ w _ (by simp) hw (by simp; decide) (hlaid.cons_blank (by decide))

theorem words_unwords {ws : List String} (hws : ∀ w ∈ ws, isWord w = true) :
    words (unwords ws) = ws := words_eq_iff.mpr (laidOut_unwords hws)

lemma isWord_iff_exists {w : String} :
    isWord w = true ↔ ∃ c cs, w.toList = c :: cs ∧ Whole isBlank (c :: cs) := by
  rw [isWord_iff]
  constructor
  · rintro ⟨hne, hwhole⟩
    obtain ⟨c, cs, hw⟩ := List.exists_cons_of_ne_nil hne
    exact ⟨c, cs, hw, hw ▸ hwhole⟩
  · rintro ⟨c, cs, hw, hwhole⟩
    rw [hw]
    exact ⟨List.cons_ne_nil c cs, hwhole⟩

lemma head_unwords {ws : List String} (hws : ∀ w ∈ ws, isWord w = true) :
    ∀ c ∈ (unwords ws).toList.head?, isBlank c = false := by
  cases ws with
  | nil => simp [unwords]
  | cons w ws =>
    obtain ⟨c, cs, hw, hwhole⟩ := isWord_iff_exists.mp (hws w List.mem_cons_self)
    have hhead : (unwords (w :: ws)).toList.head? = some c := by
      by_cases h : ws = []
      · rw [h, toList_unwords_singleton, hw, List.head?_cons]
      · rw [toList_unwords_cons w h, hw, List.cons_append, List.head?_cons]
    rw [hhead]
    rintro x ⟨⟩
    exact hwhole c List.mem_cons_self

lemma getLast_unwords {ws : List String} (hws : ∀ w ∈ ws, isWord w = true) :
    ∀ c ∈ (unwords ws).toList.getLast?, isBlank c = false := by
  induction ws with
  | nil => simp [unwords]
  | cons w ws ih =>
    have hlater := ih fun x hx => hws x (List.mem_cons_of_mem w hx)
    obtain ⟨hne, hwhole⟩ := isWord_iff.mp (hws w List.mem_cons_self)
    by_cases h : ws = []
    · rw [h, toList_unwords_singleton]
      intro c hc
      exact hwhole c (List.mem_of_mem_getLast? hc)
    · obtain ⟨x, more, rfl⟩ := List.exists_cons_of_ne_nil h
      obtain ⟨c, cs, hx, -⟩ :=
        isWord_iff_exists.mp (hws x (List.mem_cons_of_mem w List.mem_cons_self))
      have hrest : (unwords (x :: more)).toList ≠ [] := by
        by_cases hmore : more = []
        · rw [hmore, toList_unwords_singleton, hx]
          exact List.cons_ne_nil c cs
        · rw [toList_unwords_cons x hmore, hx]
          exact List.cons_ne_nil c _
      rw [toList_unwords_cons w h, List.getLast?_append_of_ne_nil _ (List.cons_ne_nil _ _),
        List.getLast?_cons_of_ne_nil hrest]
      exact hlater

lemma trim_unwords {ws : List String} (hws : ∀ w ∈ ws, isWord w = true) :
    trim (unwords ws) = unwords ws := by
  rw [← String.toList_inj, toList_trim]
  exact strip_eq_self (head_unwords hws) (getLast_unwords hws)

/-! ### Numbers -/

/-- The digits of a number, with no zero in front unless it is the only one. -/
lemma exists_digits (n : Nat) : ∃ digits : List Nat, digits ≠ [] ∧ (∀ d ∈ digits, d < 10) ∧
    Nat.toDigits 10 n = digits.map Nat.digitChar ∧ n = Nat.ofDigits 10 digits.reverse ∧
    (digits.head? = some 0 → digits = [0]) := by
  induction n using Nat.strong_induction_on with
  | _ n ih =>
    by_cases hsmall : n < 10
    · exact ⟨[n], by simp, by simpa using hsmall, Nat.toDigits_of_lt_base hsmall, by simp, by simp⟩
    · obtain ⟨digits, hne, hdigits, hchars, hvalue, hzero⟩ := ih (n / 10) (by omega)
      refine ⟨digits ++ [n % 10], by simp, ?_, ?_, ?_, ?_⟩
      · intro d hd
        rcases List.mem_append.mp hd with hd | hd
        · exact hdigits d hd
        · rw [List.mem_singleton.mp hd]
          omega
      · rw [Nat.toDigits_of_base_le (by decide) (by omega), hchars, List.map_append, List.map_singleton]
      · rw [List.reverse_append, List.reverse_singleton, List.singleton_append, Nat.ofDigits_cons,
          ← hvalue]
        exact (Nat.mod_add_div n 10).symm
      · intro hhead
        rw [List.head?_append_of_ne_nil _ hne] at hhead
        rw [hzero hhead] at hvalue
        simp at hvalue
        omega

lemma writes_toString (n : Nat) : Writes (toString n) n := by
  obtain ⟨digits, hne, hdigits, hchars, hvalue, -⟩ := exists_digits n
  refine ⟨[], digits, .inl rfl, hne, hdigits, ?_, hvalue⟩
  rw [Nat.toString_eq_ofList_toDigits, String.toList_ofList, hchars, List.nil_append]

lemma writes_toText (id : CorrelationId) : Writes id.toText id.value.toNat := writes_toString _

lemma ofText_toText (id : CorrelationId) : CorrelationId.ofText id.toText = .ok id :=
  correlationId_ofText_eq_ok.mpr (writes_toText id)

lemma toText_injective {id other : CorrelationId} (h : id.toText = other.toText) : id = other := by
  have hread := ofText_toText id
  rw [h, ofText_toText other] at hread
  cases hread
  rfl

lemma digitChar_not_blank {d : Nat} (hd : d < 10) : isBlank (Nat.digitChar d) = false := by
  revert d
  decide

lemma isWord_of_writes {s : String} {n : Nat} (h : Writes s n) : isWord s = true := by
  obtain ⟨sign, digits, hsign, hne, hdigits, hs, -⟩ := h
  rw [isWord_iff, hs]
  refine ⟨by simp [hne], ?_⟩
  intro c hc
  rcases List.mem_append.mp hc with hc | hc
  · rcases hsign with rfl | rfl
    · cases hc
    · rw [List.mem_singleton.mp hc]
      decide
  · obtain ⟨d, hd, rfl⟩ := List.mem_map.mp hc
    exact digitChar_not_blank (hdigits d hd)

lemma isWord_toText (id : CorrelationId) : isWord id.toText = true :=
  isWord_of_writes (writes_toText id)

/-! ### Messages -/

/-- A reply or an event as it is written from its parts. -/
def written? : Message → Option String
  | .feedback m id target rawAction _ =>
    some (unwords [m.text, feedbackKind, id.toText, target.text, rawAction])
  | .event m target rawEvent _ => some (unwords [m.text, eventKind, target.text, rawEvent])
  | .heartbeat .. | .hello .. | .raw _ => none

/-- The same message, as if it had come on the line `raw`. -/
def broughtBy (raw : String) : Message → Message
  | .feedback m id target rawAction _ => .feedback m id target rawAction raw
  | .event m target rawEvent _ => .event m target rawEvent raw
  | .heartbeat m _ => .heartbeat m raw
  | .hello m _ => .hello m raw
  | .raw _ => .raw raw

lemma ofLine_cases (line : String) :
    Composed (trim line) (words line) (Message.ofLine line) ∨
      Message.ofLine line = .raw (trim line) := by
  by_cases h : ∃ message, Composed (trim line) (words line) message
  · obtain ⟨message, hcomposed⟩ := h
    rw [ofLine_of_composed hcomposed]
    exact .inl hcomposed
  · exact .inr (ofLine_of_not_composed (not_exists.mp h))

lemma Composed.text {raw : String} {ws : List String} {message : Message}
    (h : Composed raw ws message) : message.text = raw := by
  cases h <;> rfl

lemma text_ofLine (line : String) : (Message.ofLine line).text = trim line := by
  rcases ofLine_cases line with h | h
  · exact h.text
  · rw [h]
    rfl

/-- Only the trimmed text of a line counts. -/
lemma ofLine_congr {line other : String} (h : trim line = trim other) :
    Message.ofLine line = Message.ofLine other := by
  unfold Message.ofLine
  rw [h]

lemma ofLine_unwords {ws : List String} {message : Message} (hws : ∀ w ∈ ws, isWord w = true)
    (h : Composed (unwords ws) ws message) : Message.ofLine (unwords ws) = message := by
  apply ofLine_of_composed
  rwa [trim_unwords hws, words_unwords hws]

lemma ofLine_reply {m : ModuleId} (id : CorrelationId) {target : Target} {actions : List String}
    (hm : isWord m.text = true) (htarget : isWord target.text = true) (hne : actions ≠ [])
    (hactions : ∀ w ∈ actions, isWord w = true) :
    let line := unwords (m.text :: feedbackKind :: id.toText :: target.text :: actions)
    Message.ofLine line = .feedback m id target (unwords actions) line := by
  apply ofLine_unwords
  · simp only [List.forall_mem_cons]
    exact ⟨hm, by decide, isWord_toText id, htarget, hactions⟩
  · exact .feedback m id target (writes_toText id) hne

lemma ofLine_report {m : ModuleId} {target : Target} {actions : List String}
    (hm : isWord m.text = true) (htarget : isWord target.text = true) (hne : actions ≠ [])
    (hactions : ∀ w ∈ actions, isWord w = true) :
    let line := unwords (m.text :: eventKind :: target.text :: actions)
    Message.ofLine line = .event m target (unwords actions) line := by
  apply ofLine_unwords
  · simp only [List.forall_mem_cons]
    exact ⟨hm, by decide, htarget, hactions⟩
  · exact .event m target hne

/-- However the line of a message was spaced and its id written, the line that is written from its
parts brings the message again. -/
lemma ofLine_written {line again : String} (h : written? (Message.ofLine line) = some again) :
    Message.ofLine again = broughtBy again (Message.ofLine line) := by
  have hwords := isWord_of_laidOut (laidOut_words line)
  rcases ofLine_cases line with hcomposed | hraw
  · generalize Message.ofLine line = message at h hcomposed ⊢
    generalize words line = ws at hwords hcomposed
    cases hcomposed with
    | @feedback idText more m id target hid hmore =>
      simp only [List.forall_mem_cons] at hwords
      obtain ⟨hm, -, -, htarget, hactions⟩ := hwords
      have hline : unwords [m.text, feedbackKind, id.toText, target.text, unwords more] =
          unwords (m.text :: feedbackKind :: id.toText :: target.text :: more) :=
        unwords_append_unwords [m.text, feedbackKind, id.toText, target.text] hmore
      rw [written?, hline, Option.some_inj] at h
      rw [← h]
      exact ofLine_reply id hm htarget hmore hactions
    | @event more m target hmore =>
      simp only [List.forall_mem_cons] at hwords
      obtain ⟨hm, -, htarget, hactions⟩ := hwords
      have hline : unwords [m.text, eventKind, target.text, unwords more] =
          unwords (m.text :: eventKind :: target.text :: more) :=
        unwords_append_unwords [m.text, eventKind, target.text] hmore
      rw [written?, hline, Option.some_inj] at h
      rw [← h]
      exact ofLine_report hm htarget hmore hactions
    | heartbeat m more => cases h
    | hello m more => cases h
  · rw [hraw] at h
    cases h

/-- A message is that of its own text, whatever blanks stood around it. A reply or an event that is
written from its parts has these parts, and so has the one that is written from what any line brought. -/
theorem line_round_trip :
    (∀ line : String, (Message.ofLine line).text = trim line ∧
      Message.ofLine (Message.ofLine line).text = Message.ofLine line ∧
      ∀ lead trail : String, isAllBlank lead = true → isAllBlank trail = true →
        Message.ofLine (lead ++ line ++ trail) = Message.ofLine line) ∧
    (∀ (m : ModuleId) (id : CorrelationId) (target : Target) (actions : List String),
      isWord m.text = true → isWord target.text = true → actions ≠ [] →
      (∀ w ∈ actions, isWord w = true) →
      let reply := unwords (m.text :: feedbackKind :: id.toText :: target.text :: actions)
      let report := unwords (m.text :: eventKind :: target.text :: actions)
      Message.ofLine reply = .feedback m id target (unwords actions) reply ∧
        Message.ofLine report = .event m target (unwords actions) report) ∧
    ∀ line again : String, written? (Message.ofLine line) = some again →
      Message.ofLine again = broughtBy again (Message.ofLine line) := by
  refine ⟨?_, ?_, ?_⟩
  · intro line
    refine ⟨text_ofLine line, ?_, ?_⟩
    · rw [text_ofLine]
      exact ofLine_congr (trim_trim line)
    · intro lead trail hlead htrail
      exact ofLine_congr (trim_padded hlead htrail line)
  · intro m id target actions hm htarget hne hactions
    exact ⟨ofLine_reply id hm htarget hne hactions, ofLine_report hm htarget hne hactions⟩
  · intro line again h
    exact ofLine_written h

/-- A reply with a sign and zeros in front of its id, and with tabs and wide blanks. -/
def looseLine : String := "D2\tFEEDBACK  +007\u3000D0 \u00A0OPEN \tLOCKED"

def tidyLine : String := "D2 FEEDBACK 7 D0 OPEN LOCKED"

theorem line_round_trip_loose :
    Message.ofLine ("\r\n" ++ looseLine ++ " \n") =
        .feedback ⟨"D2"⟩ ⟨7⟩ ⟨"D0"⟩ "OPEN LOCKED" looseLine ∧
      Message.ofLine tidyLine = .feedback ⟨"D2"⟩ ⟨7⟩ ⟨"D0"⟩ "OPEN LOCKED" tidyLine ∧
      Message.ofLine "D2 EVENT D0 LOCK LOCKED" =
        .event ⟨"D2"⟩ ⟨"D0"⟩ "LOCK LOCKED" "D2 EVENT D0 LOCK LOCKED" := by
  have hloose : Message.ofLine looseLine =
      .feedback ⟨"D2"⟩ ⟨7⟩ ⟨"D0"⟩ "OPEN LOCKED" looseLine := by decide +kernel
  have hwritten : written? (Message.ofLine looseLine) = some tidyLine := by decide +kernel
  obtain ⟨hline, hparts, hagain⟩ := line_round_trip
  refine ⟨?_, ?_, ?_⟩
  · rw [(hline looseLine).2.2 "\r\n" " \n" (by decide) (by decide), hloose]
  · rw [hagain looseLine tidyLine hwritten, hloose]
    rfl
  · exact (hparts ⟨"D2"⟩ ⟨7⟩ ⟨"D0"⟩ ["LOCK", "LOCKED"] (by decide) (by decide) (by decide)
      (by decide)).2

end HubBridge.Proofs
