import HubBridge.Proofs.DoorReports
import HubBridge.Proofs.OctetText
import Mathlib.Data.Nat.Digits.Defs

/-!
# The grammar of inbound datagrams

A datagram carries a message if it is UTF-8 and its words stand where the kind of message has them;
every other datagram is a raw line. Words and numbers are described here by how they are written, and
the readers are shown to accept just that.
-/

namespace HubBridge.Proofs

open Text

/-! ### Words -/

/-- The words stand in the text in this order, with white space between them and around them. -/
inductive LaidOut : List String → List Char → Prop
  | blank {cs : List Char} (hblank : ∀ c ∈ cs, isBlank c = true) : LaidOut [] cs
  | word {lead rest : List Char} {w : String} {ws : List String}
      (hlead : ∀ c ∈ lead, isBlank c = true) (hword : isWord w = true)
      (hrest : ∀ c ∈ rest.head?, isBlank c = true) (hlaid : LaidOut ws rest) :
      LaidOut (w :: ws) (lead ++ (w.toList ++ rest))

lemma isWord_iff {w : String} : isWord w = true ↔ w.toList ≠ [] ∧ Whole isBlank w.toList := by
  unfold isWord Whole
  simp

lemma LaidOut.cons_blank {ws : List String} {cs : List Char} (h : LaidOut ws cs) {c : Char}
    (hc : isBlank c = true) : LaidOut ws (c :: cs) := by
  cases h with
  | blank hblank =>
    refine .blank ?_
    rintro x (_ | ⟨_, hx⟩)
    · exact hc
    · exact hblank x hx
  | @word lead rest w ws hlead hword hrest hlaid =>
    refine @LaidOut.word (c :: lead) rest w ws ?_ hword hrest hlaid
    rintro x (_ | ⟨_, hx⟩)
    · exact hc
    · exact hlead x hx

lemma LaidOut.whole {piece rest : List Char} {ws : List String} (hpiece : Whole isBlank piece)
    (hrest : ∀ c ∈ rest.head?, isBlank c = true) (h : LaidOut ws rest) :
    LaidOut ((pieces isBlank piece).map .ofList ++ ws) (piece ++ rest) := by
  rw [pieces_whole hpiece]
  by_cases hempty : piece = []
  · rw [if_pos hempty, hempty]
    exact h
  · have hword : isWord (.ofList piece) = true := by
      rw [isWord_iff, String.toList_ofList]
      exact ⟨hempty, hpiece⟩
    rw [if_neg hempty]
    have hlaid : LaidOut (.ofList piece :: ws) ([] ++ ((String.ofList piece).toList ++ rest)) :=
      .word (by simp) hword hrest h
    rwa [List.nil_append, String.toList_ofList] at hlaid

lemma laidOut_words (s : String) : LaidOut (words s) s.toList := by
  unfold words
  generalize s.toList = cs
  induction cs using cut_induction isBlank with
  | whole piece hpiece =>
    have hnone : LaidOut [] [] := .blank (by simp)
    have h := LaidOut.whole hpiece (by simp) hnone
    rwa [List.append_nil, List.append_nil] at h
  | cut piece c rest hpiece hc ih =>
    rw [pieces_cut rest hpiece hc, List.map_append]
    exact LaidOut.whole hpiece (by simp [hc]) (ih.cons_blank hc)

lemma pieces_append_blank {lead : List Char} (h : ∀ c ∈ lead, isBlank c = true) (cs : List Char) :
    pieces isBlank (lead ++ cs) = pieces isBlank cs := by
  induction lead with
  | nil => rfl
  | cons c lead ih =>
    rw [List.cons_append, pieces_sep_cons _ (h c List.mem_cons_self),
      ih fun x hx => h x (List.mem_cons_of_mem c hx)]

/-- The words of a text are the only ones that stand in it like this. -/
theorem words_eq_iff {s : String} {ws : List String} : words s = ws ↔ LaidOut ws s.toList := by
  constructor
  · rintro rfl
    exact laidOut_words s
  · intro h
    unfold words
    generalize s.toList = cs at h ⊢
    induction h with
    | @blank cs hblank =>
      have h := pieces_append_blank hblank []
      rw [List.append_nil] at h
      rw [h]
      rfl
    | @word lead rest w ws hlead hword hrest hlaid ih =>
      obtain ⟨hne, hwhole⟩ := isWord_iff.mp hword
      rw [pieces_append_blank hlead]
      cases rest with
      | nil =>
        rw [← ih, List.append_nil, pieces_whole hwhole, if_neg hne]
        simp [pieces, splitAt]
      | cons c rest =>
        have hc : isBlank c = true := hrest c rfl
        rw [← ih, pieces_cut rest hwhole hc, pieces_whole hwhole, if_neg hne, pieces_sep_cons rest hc]
        simp

lemma isWord_of_laidOut {ws : List String} {cs : List Char} (h : LaidOut ws cs) :
    ∀ w ∈ ws, isWord w = true := by
  induction h with
  | blank hblank => simp
  | word hlead hword hrest hlaid ih =>
    rintro w (_ | ⟨_, hw⟩)
    · exact hword
    · exact ih w hw

lemma words_trim (s : String) : words (trim s) = words s := by
  unfold words
  rw [toList_trim, pieces_strip fun _ h => h]

/-! ### Numbers -/

/-- The text writes the number in decimal digits, with at most one plus sign in front. -/
def Writes (s : String) (n : Nat) : Prop :=
  ∃ (sign : List Char) (digits : List Nat), (sign = [] ∨ sign = ['+']) ∧ digits ≠ [] ∧
    (∀ d ∈ digits, d < 10) ∧ s.toList = sign ++ digits.map Nat.digitChar ∧
    n = Nat.ofDigits 10 digits.reverse

lemma digit?_eq_some {c : Char} {d : Nat} : digit? c = some d ↔ d < 10 ∧ c = Nat.digitChar d := by
  unfold digit?
  simp only [Bool.and_eq_true, decide_eq_true_eq, Char.le_def, UInt32.le_iff_toNat_le]
  have hzero : '0'.val.toNat = 48 := rfl
  have hnine : '9'.val.toNat = 57 := rfl
  have hcode : c.val.toNat = c.toNat := rfl
  rw [hzero, hnine, hcode]
  constructor
  · intro h
    split at h
    · rename_i hc
      rw [Option.some_inj] at h
      have hd : c.toNat = 48 + d := by
        change c.toNat - 48 = d at h
        omega
      refine ⟨by omega, Char.toNat_inj.mp ?_⟩
      rw [Nat.toNat_digitChar_of_lt_ten (by omega), hd]
    · cases h
  · rintro ⟨hd, rfl⟩
    rw [Nat.toNat_digitChar_of_lt_ten hd, if_pos (by omega)]
    change some (48 + d - 48) = some d
    rw [Nat.add_sub_cancel_left]

lemma le_foldl_digits (value : Nat) (digits : List Nat) :
    value ≤ digits.foldl (fun v d => v * 10 + d) value := by
  induction digits generalizing value with
  | nil => exact Nat.le_refl _
  | cons d digits ih =>
    rw [List.foldl_cons]
    exact Nat.le_trans (by omega) (ih (value * 10 + d))

lemma readDigits_eq_ok {bound value n : Nat} {cs : List Char} (hvalue : value < bound) :
    readDigits bound value cs = .ok n ↔ ∃ digits : List Nat, (∀ d ∈ digits, d < 10) ∧
      cs = digits.map Nat.digitChar ∧ n = digits.foldl (fun v d => v * 10 + d) value ∧ n < bound := by
  induction cs generalizing value with
  | nil =>
    rw [readDigits]
    constructor
    · intro h
      cases h
      exact ⟨[], by simp, rfl, rfl, hvalue⟩
    · rintro ⟨digits, -, hnil, rfl, -⟩
      rw [List.map_eq_nil_iff.mp hnil.symm]
      rfl
  | cons c cs ih =>
    rw [readDigits]
    cases hc : digit? c with
    | none =>
      constructor
      · intro h
        cases h
      · rintro ⟨digits, hdigits, hcs, -, -⟩
        obtain ⟨d, rest, rfl, rfl, -⟩ := List.map_eq_cons_iff.mp hcs.symm
        rw [digit?_eq_some.mpr ⟨hdigits d List.mem_cons_self, rfl⟩] at hc
        cases hc
    | some d =>
      obtain ⟨hd, rfl⟩ := digit?_eq_some.mp hc
      dsimp only
      split
      · rename_i hfits
        rw [ih hfits]
        constructor
        · rintro ⟨digits, hdigits, rfl, hn, hlt⟩
          refine ⟨d :: digits, ?_, rfl, hn, hlt⟩
          rintro x (_ | ⟨_, hx⟩)
          · exact hd
          · exact hdigits x hx
        · rintro ⟨digits, hdigits, hcs, hn, hlt⟩
          obtain ⟨d', rest, rfl, hfirst, rfl⟩ := List.map_eq_cons_iff.mp hcs.symm
          have hsame := digit?_eq_some.mpr ⟨hdigits d' List.mem_cons_self, hfirst.symm⟩
          rw [hc, Option.some_inj] at hsame
          subst hsame
          exact ⟨rest, fun x hx => hdigits x (List.mem_cons_of_mem _ hx), rfl, hn, hlt⟩
      · rename_i hlarge
        constructor
        · intro h
          cases h
        · rintro ⟨digits, hdigits, hcs, hn, hlt⟩
          obtain ⟨d', rest, rfl, hfirst, -⟩ := List.map_eq_cons_iff.mp hcs.symm
          have hsame := digit?_eq_some.mpr ⟨hdigits d' List.mem_cons_self, hfirst.symm⟩
          rw [hc, Option.some_inj] at hsame
          subst hsame
          have hle := le_foldl_digits (value * 10 + d) rest
          rw [List.foldl_cons] at hn
          omega

lemma foldl_digits (digits : List Nat) :
    digits.foldl (fun v d => v * 10 + d) 0 = Nat.ofDigits 10 digits.reverse := by
  rw [Nat.ofDigits_eq_foldr, List.foldr_reverse]
  congr
  funext v d
  rw [Nat.mul_comm, Nat.add_comm]
  rfl

lemma digitChar_ne_plus {d : Nat} (hd : d < 10) : Nat.digitChar d ≠ '+' := by
  intro h
  have hcode := Nat.toNat_digitChar_of_lt_ten hd
  rw [h] at hcode
  change 43 = 48 + d at hcode
  omega

/-- A numeral is read as the number that it writes, if that is below the bound. -/
theorem readNumeral_eq_ok {bound n : Nat} {s : String} (hbound : 0 < bound) :
    readNumeral bound s = .ok n ↔ Writes s n ∧ n < bound := by
  unfold readNumeral Writes
  constructor
  · intro h
    split at h
    · cases h
    · cases h
    · rename_i cs hne hcs
      obtain ⟨digits, hdigits, rfl, rfl, hlt⟩ := (readDigits_eq_ok hbound).mp h
      refine ⟨⟨['+'], digits, .inr rfl, ?_, hdigits, hcs, foldl_digits digits⟩, hlt⟩
      rintro rfl
      exact hne rfl
    · rename_i hnil _ _
      obtain ⟨digits, hdigits, hcs, rfl, hlt⟩ := (readDigits_eq_ok hbound).mp h
      refine ⟨⟨[], digits, .inl rfl, ?_, hdigits, hcs, foldl_digits digits⟩, hlt⟩
      rintro rfl
      exact hnil hcs
  · rintro ⟨⟨sign, digits, hsign, hne, hdigits, hs, rfl⟩, hlt⟩
    have hread : readDigits bound 0 (digits.map Nat.digitChar) =
        .ok (Nat.ofDigits 10 digits.reverse) :=
      (readDigits_eq_ok hbound).mpr ⟨digits, hdigits, rfl, (foldl_digits digits).symm, hlt⟩
    obtain ⟨d, rest, rfl⟩ := List.exists_cons_of_ne_nil hne
    have hplus : Nat.digitChar d ≠ '+' := digitChar_ne_plus (hdigits d List.mem_cons_self)
    rw [hs]
    rcases hsign with rfl | rfl
    · simpa [hplus] using hread
    · simpa using hread

/-! ### Messages -/

lemma moduleId_ofText_word {w : String} (h : isWord w = true) : ModuleId.ofText w = .ok ⟨w⟩ := by
  rw [ModuleId.ofText, if_pos h]

lemma target_ofText_word {w : String} (h : isWord w = true) : Target.ofText w = .ok ⟨w⟩ := by
  rw [Target.ofText, if_pos h]

lemma correlationId_ofText_eq_ok {s : String} {id : CorrelationId} :
    CorrelationId.ofText s = .ok id ↔ Writes s id.value.toNat := by
  have hread := fun n => @readNumeral_eq_ok UInt64.size n s (by decide)
  unfold CorrelationId.ofText
  constructor
  · intro h
    split at h
    · rename_i n hn
      cases h
      obtain ⟨hwrites, hlt⟩ := (hread n).mp hn
      have hvalue : (UInt64.ofNat n).toNat = n := UInt64.toNat_ofNat_of_lt' hlt
      rwa [hvalue]
    · cases h
  · intro h
    rw [(hread id.value.toNat).mpr ⟨h, id.value.toNat_lt⟩]
    dsimp only
    rw [UInt64.ofNat_toNat]

lemma correlationId_ofText_eq_error {s : String} {fault : Fault} :
    CorrelationId.ofText s = .error fault ↔
      (∀ n < 2 ^ 64, ¬Writes s n) ∧ fault = .invalidCorrelationId s := by
  have hread := fun n => @readNumeral_eq_ok UInt64.size n s (by decide)
  unfold CorrelationId.ofText
  cases h : readNumeral UInt64.size s with
  | ok n =>
    obtain ⟨hwrites, hlt⟩ := (hread n).mp h
    constructor
    · intro h
      cases h
    · rintro ⟨hnone, -⟩
      exact absurd hwrites (hnone n hlt)
  | error cause =>
    dsimp only
    constructor
    · intro heq
      cases heq
      refine ⟨?_, rfl⟩
      intro n hlt hwrites
      rw [(hread n).mpr ⟨hwrites, hlt⟩] at h
      cases h
    · rintro ⟨-, rfl⟩
      rfl

/-- The message that a line of these words carries; `raw` is the whole line. -/
inductive Composed (raw : String) : List String → Message → Prop
  | feedback {idText : String} {more : List String} (m : ModuleId) (id : CorrelationId)
      (target : Target) (hid : Writes idText id.value.toNat) (hmore : more ≠ []) :
      Composed raw (m.text :: "FEEDBACK" :: idText :: target.text :: more)
        (.feedback m id target (unwords more) raw)
  | event {more : List String} (m : ModuleId) (target : Target) (hmore : more ≠ []) :
      Composed raw (m.text :: "EVENT" :: target.text :: more) (.event m target (unwords more) raw)
  | heartbeat (m : ModuleId) (more : List String) :
      Composed raw (m.text :: "HEARTBEAT" :: more) (.heartbeat m raw)
  | hello (m : ModuleId) (more : List String) :
      Composed raw (m.text :: "HELLO" :: more) (.hello m raw)

/-- The line is a reply like any other, but for the id, which is no number that an id could be. -/
inductive BadId : List String → Fault → Prop
  | intro (sender idText target : String) {more : List String} (hmore : more ≠ [])
      (hid : ∀ n < 2 ^ 64, ¬Writes idText n) :
      BadId (sender :: "FEEDBACK" :: idText :: target :: more) (.invalidCorrelationId idText)

lemma ofWords_of_composed {raw : String} {ws : List String} {message : Message}
    (hws : ∀ w ∈ ws, isWord w = true) (h : Composed raw ws message) :
    Message.ofWords raw ws = .ok message := by
  have hsender : ∀ {sender rest}, ws = sender :: rest → ModuleId.ofText sender = .ok ⟨sender⟩ := by
    rintro sender rest rfl
    exact moduleId_ofText_word (hws sender List.mem_cons_self)
  have htarget : ∀ w ∈ ws, Target.ofText w = .ok ⟨w⟩ := fun w hw => target_ofText_word (hws w hw)
  unfold Message.ofWords
  cases h with
  | @feedback idText more m id target hid hmore =>
    obtain ⟨first, more, rfl⟩ := List.exists_cons_of_ne_nil hmore
    dsimp only
    rw [hsender rfl, htarget target.text (by simp), correlationId_ofText_eq_ok.mpr hid]
    rfl
  | @event more m target hmore =>
    obtain ⟨first, more, rfl⟩ := List.exists_cons_of_ne_nil hmore
    dsimp only
    rw [hsender rfl, htarget target.text (by simp)]
    rfl
  | heartbeat m more =>
    dsimp only
    rw [hsender rfl]
    rfl
  | hello m more =>
    dsimp only
    rw [hsender rfl]
    rfl

lemma ofWords_of_badId (raw : String) {ws : List String} {fault : Fault}
    (hws : ∀ w ∈ ws, isWord w = true) (h : BadId ws fault) :
    Message.ofWords raw ws = .error fault := by
  cases h with
  | intro sender idText target hmore hid =>
    obtain ⟨first, more, rfl⟩ := List.exists_cons_of_ne_nil hmore
    rw [Message.ofWords, moduleId_ofText_word (hws sender List.mem_cons_self)]
    dsimp only [bind, Except.bind]
    rw [if_pos (show "FEEDBACK" = feedbackKind from rfl),
      correlationId_ofText_eq_error.mpr ⟨hid, rfl⟩]

/-- Nothing else carries a message, and a bad id is the only fault there is. -/
lemma ofWords_cases (raw : String) {ws : List String} (hws : ∀ w ∈ ws, isWord w = true) :
    (∃ message, Composed raw ws message) ∨ Message.ofWords raw ws = .ok (.raw raw) ∨
      ∃ fault, BadId ws fault := by
  rcases ws with _ | ⟨sender, _ | ⟨kind, rest⟩⟩
  · exact .inr (.inl rfl)
  · exact .inr (.inl rfl)
  have hsender := moduleId_ofText_word (hws sender List.mem_cons_self)
  by_cases hfeedback : kind = feedbackKind
  · subst hfeedback
    rcases rest with _ | ⟨idText, _ | ⟨target, _ | ⟨first, more⟩⟩⟩
    · refine .inr (.inl ?_)
      rw [Message.ofWords, hsender]
      rfl
    · refine .inr (.inl ?_)
      rw [Message.ofWords, hsender]
      rfl
    · refine .inr (.inl ?_)
      rw [Message.ofWords, hsender]
      rfl
    · cases hid : CorrelationId.ofText idText with
      | ok id =>
        exact .inl ⟨_, .feedback ⟨sender⟩ id ⟨target⟩ (correlationId_ofText_eq_ok.mp hid)
          (List.cons_ne_nil first more)⟩
      | error fault =>
        obtain ⟨hnone, -⟩ := correlationId_ofText_eq_error.mp hid
        exact .inr (.inr ⟨_, .intro sender idText target (List.cons_ne_nil first more) hnone⟩)
  by_cases hevent : kind = eventKind
  · subst hevent
    rcases rest with _ | ⟨target, _ | ⟨first, more⟩⟩
    · refine .inr (.inl ?_)
      rw [Message.ofWords, hsender]
      rfl
    · refine .inr (.inl ?_)
      rw [Message.ofWords, hsender]
      rfl
    · exact .inl ⟨_, .event ⟨sender⟩ ⟨target⟩ (List.cons_ne_nil first more)⟩
  by_cases hheartbeat : kind = heartbeatKind
  · subst hheartbeat
    exact .inl ⟨_, .heartbeat ⟨sender⟩ rest⟩
  by_cases hhello : kind = helloKind
  · subst hhello
    exact .inl ⟨_, .hello ⟨sender⟩ rest⟩
  refine .inr (.inl ?_)
  rw [Message.ofWords, hsender]
  dsimp only [bind, Except.bind]
  rw [if_neg hfeedback, if_neg hevent, if_neg hheartbeat, if_neg hhello]
  rfl

/-- A bad id is the only fault that a line can have. -/
theorem ofWords_eq_error {raw : String} {ws : List String} (hws : ∀ w ∈ ws, isWord w = true)
    {fault : Fault} : Message.ofWords raw ws = .error fault ↔ BadId ws fault := by
  refine ⟨fun heq => ?_, ofWords_of_badId raw hws⟩
  rcases ofWords_cases raw hws with ⟨message, h⟩ | h | ⟨cause, hbad⟩
  · rw [ofWords_of_composed hws h] at heq
    cases heq
  · rw [h] at heq
    cases heq
  · rw [ofWords_of_badId raw hws hbad] at heq
    cases heq
    exact hbad

/-! ### Datagrams -/

/-- The datagram is a line of text whose words compose the message. -/
inductive Spelt : ByteArray → Message → Prop
  | intro (line : String) {ws : List String} {message : Message} (hlaid : LaidOut ws line.toList)
      (hcomposed : Composed (trim line) ws message) : Spelt line.toUTF8 message

lemma spelt_toUTF8 {line : String} {message : Message} :
    Spelt line.toUTF8 message ↔ Composed (trim line) (words line) message := by
  constructor
  · generalize hbytes : line.toUTF8 = bytes
    rintro ⟨other, hlaid, hcomposed⟩
    have hline : line = other := String.toByteArray_inj.mp hbytes
    subst hline
    rwa [words_eq_iff.mpr hlaid]
  · exact .intro line (laidOut_words line)

lemma ofLine_of_composed {line : String} {message : Message}
    (h : Composed (trim line) (words line) message) : Message.ofLine line = message := by
  unfold Message.ofLine
  dsimp only
  rw [words_trim, ofWords_of_composed (isWord_of_laidOut (laidOut_words line)) h]

lemma ofLine_of_not_composed {line : String}
    (h : ∀ message, ¬Composed (trim line) (words line) message) :
    Message.ofLine line = .raw (trim line) := by
  unfold Message.ofLine
  dsimp only
  rw [words_trim]
  have hws := isWord_of_laidOut (laidOut_words line)
  rcases ofWords_cases (trim line) hws with ⟨message, hcomposed⟩ | hraw | ⟨fault, hbad⟩
  · exact absurd hcomposed (h message)
  · rw [hraw]
  · rw [ofWords_of_badId (trim line) hws hbad]

lemma ofDatagram_of_spelt {bytes : ByteArray} {message : Message} (h : Spelt bytes message) :
    Message.ofDatagram bytes = message := by
  cases h with
  | intro line hlaid hcomposed =>
    rw [← words_eq_iff.mpr hlaid] at hcomposed
    rw [Message.ofDatagram, fromUTF8?_eq_some.mpr rfl]
    exact ofLine_of_composed hcomposed

lemma ofDatagram_of_not_spelt {bytes : ByteArray} (h : ∀ message, ¬Spelt bytes message) :
    Message.ofDatagram bytes = .raw (trim (Octets.text bytes)) := by
  unfold Message.ofDatagram
  split
  · rename_i line hline
    obtain rfl := fromUTF8?_eq_some.mp hline
    rw [text_toUTF8]
    exact ofLine_of_not_composed fun message hcomposed => h message (spelt_toUTF8.mpr hcomposed)
  · rfl

/-- A datagram is the message that it spells, and a raw line if it spells none. The words of a line
always do for a module and for a target, so what turns a line with a place for each part into a raw
one is the id alone. -/
theorem ofDatagram_grammar :
    (∀ bytes message, Message.ofDatagram bytes = message ↔ Spelt bytes message ∨
      (∀ other, ¬Spelt bytes other) ∧ message = .raw (trim (Octets.text bytes))) ∧
    ∀ line : String,
      (∀ w ∈ words line, ModuleId.ofText w = .ok ⟨w⟩ ∧ Target.ofText w = .ok ⟨w⟩) ∧
      ∀ fault, Message.ofWords (trim line) (words (trim line)) = .error fault ↔
        BadId (words line) fault := by
  refine ⟨?_, ?_⟩
  · intro bytes message
    constructor
    · rintro rfl
      by_cases hspelt : ∃ message, Spelt bytes message
      · obtain ⟨message, h⟩ := hspelt
        rw [ofDatagram_of_spelt h]
        exact .inl h
      · have hnone := not_exists.mp hspelt
        exact .inr ⟨hnone, ofDatagram_of_not_spelt hnone⟩
    · rintro (h | ⟨hnone, rfl⟩)
      · exact ofDatagram_of_spelt h
      · exact ofDatagram_of_not_spelt hnone
  · intro line
    have hws := isWord_of_laidOut (laidOut_words line)
    refine ⟨fun w hw => ⟨moduleId_ofText_word (hws w hw), target_ofText_word (hws w hw)⟩, ?_⟩
    intro fault
    rw [words_trim]
    exact ofWords_eq_error hws

end HubBridge.Proofs
