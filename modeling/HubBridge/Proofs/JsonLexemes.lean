import HubBridge.Json.Record
import HubBridge.Proofs.LineRoundTrip

/-!
# Reading what the JSON writer wrote

The parts of a JSON text, each with any text behind it: strings and the words for flags stop by
themselves, a number stops where no digit, point or exponent follows.
-/

namespace HubBridge.Proofs

open Json Text

/-! ### Strings -/

lemma hexValue?_hexDigit : ∀ n < 16, hexValue? (hexDigit n) = some n := by decide

lemma readUnit_escape (n : Nat) (hn : n < 0x100) (s : List Char) :
    readUnit ('0' :: '0' :: hexDigit (n / 16) :: hexDigit (n % 16) :: s) = .ok (n, s) := by
  have hhigh := hexValue?_hexDigit (n / 16) (by omega)
  have hlow := hexValue?_hexDigit (n % 16) (by omega)
  have hzero : hexValue? '0' = some 0 := rfl
  simp only [readUnit, List.take_succ_cons, List.take_zero, List.drop_succ_cons, List.drop_zero,
    List.mapM_cons, List.mapM_nil, hzero, hhigh, hlow, Option.pure_def, Option.bind_eq_bind,
    Option.bind_some]
  rw [show ((0 * 16 + 0) * 16 + n / 16) * 16 + n % 16 = n by omega]

/-- The two ways in which a character stands in a string: escaped, or for itself. -/
lemma readPiece_escapeChar (c : Char) (s : List Char) :
    readPiece (escapeChar c ++ s) = .ok (some c, s) := by
  unfold escapeChar
  split
  case h_8 hquote hslash _ _ _ _ _ =>
    split
    case isTrue hlow =>
      have hunit := readUnit_escape c.toNat (by omega) s
      have hsurrogate : ¬ 0xDC00 ≤ c.toNat := by omega
      have hsurrogate' : ¬ 0xD800 ≤ c.toNat := by omega
      simp [readPiece, readUnicode, hunit, hsurrogate, hsurrogate', bind, Except.bind]
    case isFalse hlow =>
      -- neither a quote nor a backslash, so all patterns but the last are out
      simp only [List.cons_append, List.nil_append]
      rw [readPiece.eq_def]
      split <;> simp_all
  all_goals rfl

lemma readPieces_escaped (cs : List Char) (s : List Char) {bound : Nat} (hbound : cs.length < bound) :
    readPieces bound (cs.flatMap escapeChar ++ '"' :: s) = .ok (cs, s) := by
  induction cs generalizing bound with
  | nil =>
    obtain _ | bound := bound
    · simp at hbound
    · rfl
  | cons c cs ih =>
    obtain _ | bound := bound
    · simp at hbound
    · rw [List.flatMap_cons, List.append_assoc, readPieces, readPiece_escapeChar]
      simp only [bind, Except.bind, ih (by simpa using hbound)]

lemma length_le_escaped (cs : List Char) : cs.length ≤ (cs.flatMap escapeChar).length := by
  induction cs with
  | nil => simp
  | cons c cs ih =>
    have hone : 1 ≤ (escapeChar c).length := by
      unfold escapeChar
      split <;> [skip; skip; skip; skip; skip; skip; skip; split] <;> simp
    simp only [List.length_cons, List.flatMap_cons, List.length_append]
    omega

lemma readString_escaped (t : String) (s : List Char) :
    readString (t.toList.flatMap escapeChar ++ '"' :: s) = .ok (t, s) := by
  have hlength := length_le_escaped t.toList
  rw [readString, readPieces_escaped _ _ (by simp only [List.length_append, List.length_cons]; omega)]
  simp [bind, Except.bind]

lemma skipPiece_escapeChar (c : Char) (s : List Char) :
    skipPiece (escapeChar c ++ s) = .ok (true, s) := by
  unfold escapeChar
  split
  case h_8 hquote hslash _ _ _ _ _ =>
    split
    case isTrue hlow =>
      simp [skipPiece, readUnit_escape c.toNat (by omega) s, bind, Except.bind]
    case isFalse hlow =>
      simp only [List.cons_append, List.nil_append]
      rw [skipPiece.eq_def]
      split <;> simp_all
  all_goals rfl

lemma skipPieces_escaped (cs : List Char) (s : List Char) {bound : Nat} (hbound : cs.length < bound) :
    skipPieces bound (cs.flatMap escapeChar ++ '"' :: s) = .ok s := by
  induction cs generalizing bound with
  | nil =>
    obtain _ | bound := bound
    · simp at hbound
    · rfl
  | cons c cs ih =>
    obtain _ | bound := bound
    · simp at hbound
    · rw [List.flatMap_cons, List.append_assoc, skipPieces, skipPiece_escapeChar]
      exact ih (by simpa using hbound)

lemma skipString_escaped (t : String) (s : List Char) :
    skipString (t.toList.flatMap escapeChar ++ '"' :: s) = .ok s := by
  have hlength := length_le_escaped t.toList
  exact skipPieces_escaped _ _ (by simp only [List.length_append, List.length_cons]; omega)

lemma writeString_append (t : String) (s : List Char) :
    writeString t ++ s = '"' :: (t.toList.flatMap escapeChar ++ '"' :: s) := by
  simp [writeString]

/-- The text has none of the control characters that JSON asks to be escaped, line ends among them. -/
def NoControls (s : List Char) : Prop := ∀ c ∈ s, 0x20 ≤ c.toNat

instance (s : List Char) : Decidable (NoControls s) := List.decidableBAll _ s

lemma NoControls.append {s t : List Char} (hs : NoControls s) (ht : NoControls t) :
    NoControls (s ++ t) := by
  intro c hc
  rcases List.mem_append.mp hc with hc | hc
  · exact hs c hc
  · exact ht c hc

lemma NoControls.cons {c : Char} {s : List Char} (hc : 0x20 ≤ c.toNat) (hs : NoControls s) :
    NoControls (c :: s) := by
  rintro d (_ | ⟨_, hd⟩)
  · exact hc
  · exact hs d hd

lemma noControls_escapeChar (c : Char) : NoControls (escapeChar c) := by
  unfold escapeChar
  split
  case h_8 =>
    split
    case isTrue hlow =>
      have hdigit : ∀ n < 16, 0x20 ≤ (hexDigit n).toNat := by decide
      have hlead : NoControls ['\\', 'u', '0', '0'] := by decide
      exact hlead.append (.cons (hdigit _ (by omega)) (.cons (hdigit _ (by omega)) (by decide)))
    case isFalse hlow => exact .cons (by omega) (by decide)
  all_goals decide

lemma noControls_writeString (t : String) : NoControls (writeString t) := by
  have hescaped : NoControls (t.toList.flatMap escapeChar) := by
    intro c hc
    obtain ⟨d, -, hd⟩ := List.mem_flatMap.mp hc
    exact noControls_escapeChar d c hd
  exact .append (.cons (by decide) hescaped) (by decide)

/-! ### Numbers -/

/-- The text goes on as it does behind a member of an object. -/
def EndsMember (s : List Char) : Prop := ∃ rest, s = ',' :: rest ∨ s = '}' :: rest

lemma startsWithDigit_end {s : List Char} (hs : EndsMember s) : startsWithDigit s = false := by
  obtain ⟨rest, rfl | rfl⟩ := hs <;> rfl

lemma takeDigits_written (digits : List Nat) (hdigits : ∀ d ∈ digits, d < 10) {s : List Char}
    (hs : startsWithDigit s = false) (value taken : Nat)
    (hlt : digits.foldl (fun v d => v * 10 + d) value < UInt64.size) :
    takeDigits value taken (digits.map Nat.digitChar ++ s) =
      (digits.foldl (fun v d => v * 10 + d) value, taken + digits.length, s) := by
  induction digits generalizing value taken with
  | nil =>
    rcases s with _ | ⟨c, s⟩
    · rfl
    · have hc : digit? c = none := by simpa [startsWithDigit] using hs
      simp [takeDigits, hc]
  | cons d digits ih =>
    have hd := digit?_eq_some.mpr ⟨hdigits d List.mem_cons_self, rfl⟩
    have hle := le_foldl_digits (value * 10 + d) digits
    rw [List.foldl_cons] at hlt
    rw [List.map_cons, List.cons_append, takeDigits]
    simp only [hd, if_pos (hle.trans_lt hlt)]
    rw [ih (fun x hx => hdigits x (List.mem_cons_of_mem _ hx)) _ _ hlt, List.foldl_cons,
      List.length_cons, Nat.add_right_comm, Nat.add_assoc]

lemma skipDigits_written (digits : List Nat) (hdigits : ∀ d ∈ digits, d < 10) {s : List Char}
    (hs : startsWithDigit s = false) : skipDigits (digits.map Nat.digitChar ++ s) = s := by
  induction digits with
  | nil =>
    rcases s with _ | ⟨c, s⟩
    · rfl
    · have hc : digit? c = none := by simpa [startsWithDigit] using hs
      simp [skipDigits, hc]
  | cons d digits ih =>
    have hd := digit?_eq_some.mpr ⟨hdigits d List.mem_cons_self, rfl⟩
    rw [List.map_cons, List.cons_append, skipDigits, List.dropWhile_cons_of_pos (by rw [hd]; rfl)]
    exact ih fun x hx => hdigits x (List.mem_cons_of_mem _ hx)

/-- A number as it is written: its first digit, which is no zero in front of others. -/
lemma exists_leading_digit (n : UInt64) : ∃ (d : Nat) (digits : List Nat),
    (toString n.toNat).toList = Nat.digitChar d :: digits.map Nat.digitChar ∧ d < 10 ∧
    (∀ x ∈ digits, x < 10) ∧ digits.foldl (fun v d => v * 10 + d) d = n.toNat ∧
    (d = 0 → digits = []) := by
  obtain ⟨digits, hne, hdigits, hchars, hvalue, hzero⟩ := exists_digits n.toNat
  obtain ⟨d, digits, rfl⟩ := List.exists_cons_of_ne_nil hne
  refine ⟨d, digits, ?_, hdigits d List.mem_cons_self,
    fun x hx => hdigits x (List.mem_cons_of_mem _ hx), ?_, ?_⟩
  · rw [Nat.toString_eq_ofList_toDigits, String.toList_ofList, hchars, List.map_cons]
  · rw [hvalue, ← foldl_digits, List.foldl_cons, Nat.zero_mul, Nat.zero_add]
  · rintro rfl
    simpa using hzero rfl

lemma readNumber_written (n : UInt64) {s : List Char} (hs : EndsMember s) :
    readNumber false ((toString n.toNat).toList ++ s) = .ok (.natural n, s) := by
  obtain ⟨d, digits, hchars, hd, hdigits, hvalue, hzero⟩ := exists_leading_digit n
  have hstop := startsWithDigit_end hs
  have hfirst : (d = 0 && startsWithDigit (digits.map Nat.digitChar ++ s)) = false := by
    rw [Bool.and_eq_false_iff, decide_eq_false_iff_not]
    by_cases hz : d = 0
    · right
      rw [hzero hz]
      exact hstop
    · exact .inl hz
  have htaken := takeDigits_written digits hdigits hstop d 0 (by rw [hvalue]; exact n.toNat_lt)
  rw [hchars, List.cons_append, readNumber]
  simp only [digit?_eq_some.mpr ⟨hd, rfl⟩, hfirst, htaken, hvalue]
  obtain ⟨rest, rfl | rfl⟩ := hs
  · simp [skipDigits, digit?]
  · simp [skipDigits, digit?]

lemma skipNumber_written (n : UInt64) {s : List Char} (hs : EndsMember s) :
    skipNumber ((toString n.toNat).toList ++ s) = .ok s := by
  obtain ⟨d, digits, hchars, hd, hdigits, -, hzero⟩ := exists_leading_digit n
  have hstop := startsWithDigit_end hs
  have hdigit := digit?_eq_some.mpr ⟨hd, rfl⟩
  have hskip : skipSomeDigits (Nat.digitChar d :: (digits.map Nat.digitChar ++ s)) = .ok s := by
    have hrest := skipDigits_written (d :: digits) (by simpa using ⟨hd, hdigits⟩) hstop
    rw [List.map_cons, List.cons_append] at hrest
    simp [skipSomeDigits, startsWithDigit, hdigit, hrest]
  have hzeroFirst : Nat.digitChar d = '0' → digits = [] := by
    intro h0
    have h0' : digit? (Nat.digitChar d) = some 0 := by rw [h0]; rfl
    rw [hdigit] at h0'
    exact hzero (Option.some_inj.mp h0')
  rw [hchars, List.cons_append, skipNumber, hskip]
  simp only [bind, Except.bind]
  split
  case isTrue h =>
    obtain ⟨h0, hlength⟩ := (Bool.and_eq_true ..).mp h
    rw [hzeroFirst (Option.some_inj.mp (of_decide_eq_true h0))] at hlength
    exact absurd rfl (of_decide_eq_true hlength)
  case isFalse =>
    obtain ⟨rest, rfl | rfl⟩ := hs <;> rfl

/-! ### Cells -/

lemma skipSpace_cons {c : Char} (hc : isSpace c = false) (s : List Char) :
    skipSpace (c :: s) = c :: s := by
  rw [skipSpace, List.dropWhile_cons_of_neg (by rw [hc]; exact Bool.false_ne_true)]

lemma isSpace_digitChar : ∀ d < 10, isSpace (Nat.digitChar d) = false := by decide

/-- No digit begins a value of another kind than a number, or a negative one. -/
lemma digitChar_not_opening :
    ∀ d < 10, Nat.digitChar d ∉ ['n', 't', 'f', '-', '"', '[', '{'] := by decide

lemma digitChar_ne {d : Nat} (hd : d < 10) {c : Char}
    (hc : c ∈ ['n', 't', 'f', '-', '"', '[', '{']) {s t : List Char} :
    Nat.digitChar d :: s ≠ c :: t :=
  fun h => digitChar_not_opening d hd ((List.cons.inj h).1 ▸ hc)

/-- A field of this kind can hold the cell. -/
inductive Fits : Kind → Cell → Prop
  | text (t : String) : Fits .text (.text t)
  | number (n : UInt64) : Fits .number (.number n)
  | flag (b : Option Bool) : Fits .flag (.flag b)
  | word {names : List String} {t : String} (h : t ∈ names) : Fits (.word names) (.text t)

attribute [simp] Fits.text Fits.number Fits.flag Fits.word

/-- The cell as a value of its own. -/
def valueOf : Cell → Value
  | .text s => .string s
  | .number n => .number (.natural n)
  | .flag none => .null
  | .flag (some b) => .bool b

lemma readText_written (t : String) (s : List Char) :
    readText (writeString t ++ s) = .ok (t, s) := by
  rw [writeString_append, readText, skipSpace_cons rfl]
  exact readString_escaped t s

lemma readName_written {names : List String} {t : String} (ht : t ∈ names) (s : List Char) :
    readName names (writeString t ++ s) = .ok (t, s) := by
  rw [readName, readText_written]
  simp [bind, Except.bind, ht]

lemma readWord_written {names : List String} {t : String} (ht : t ∈ names) (s : List Char) :
    readWord names (writeString t ++ s) = .ok (t, s) := by
  have hname := readName_written ht s
  rw [writeString_append] at hname ⊢
  rw [readWord, skipSpace_cons rfl]
  exact hname

lemma readNatural_written (n : UInt64) {s : List Char} (hs : EndsMember s) :
    readNatural ((toString n.toNat).toList ++ s) = .ok (n, s) := by
  obtain ⟨d, digits, hchars, hd, -⟩ := exists_leading_digit n
  have hdigit := digit?_eq_some.mpr ⟨hd, rfl⟩
  have hread := readNumber_written n hs
  rw [hchars, List.cons_append] at hread ⊢
  rw [readNatural, skipSpace_cons (isSpace_digitChar d hd)]
  split
  · next h => cases h
  · next h => exact absurd h (digitChar_ne hd (by decide))
  · simp [startsWithDigit, hdigit, hread, bind, Except.bind]

lemma readFlag_written (b : Option Bool) (s : List Char) :
    readFlag (writeCell (.flag b) ++ s) = .ok (b, s) := by
  rcases b with _ | _ | _ <;> rfl

lemma readCell_written {kind : Kind} {cell : Cell} (hfits : Fits kind cell) {s : List Char}
    (hs : EndsMember s) : readCell kind (writeCell cell ++ s) = .ok (cell, s) := by
  cases hfits with
  | text t =>
    rw [readCell, writeCell, readText_written]
    rfl
  | number n =>
    rw [readCell, writeCell, readNatural_written n hs]
    rfl
  | flag b =>
    rw [readCell, readFlag_written]
    rfl
  | word ht =>
    rw [readCell, writeCell, readWord_written ht]
    rfl

lemma ofValue?_valueOf {kind : Kind} {cell : Cell} (hfits : Fits kind cell) :
    kind.ofValue? (valueOf cell) = some cell := by
  cases hfits with
  | text t => rfl
  | number n => rfl
  | flag b => rcases b with _ | b <;> rfl
  | word ht => simp only [valueOf, Kind.ofValue?, List.contains_iff_mem.mpr ht, if_true]

lemma readValueWithin_written (cell : Cell) {s : List Char} (hs : EndsMember s)
    (bound depth : Nat) :
    readValueWithin (bound + 1) depth (writeCell cell ++ s) = .ok (valueOf cell, s) := by
  cases cell with
  | text t =>
    rw [writeCell, writeString_append, readValueWithin, skipSpace_cons rfl]
    simp only [readString_escaped, bind, Except.bind]
    rfl
  | number n =>
    obtain ⟨d, digits, hchars, hd, -⟩ := exists_leading_digit n
    have hdigit := digit?_eq_some.mpr ⟨hd, rfl⟩
    have hread := readNumber_written n hs
    rw [writeCell]
    rw [hchars, List.cons_append] at hread ⊢
    rw [readValueWithin, skipSpace_cons (isSpace_digitChar d hd)]
    split
    case h_9 => simp [startsWithDigit, hdigit, hread, bind, Except.bind, valueOf]
    case h_1 h => cases h
    all_goals
      next h => exact absurd h (digitChar_ne hd (by decide))
  | flag b =>
    rcases b with _ | _ | _ <;> rfl

/-- A member that nobody wants is passed over, whatever it holds. -/
lemma skipValue_written (cell : Cell) {s : List Char} (hs : EndsMember s) :
    skipValue (writeCell cell ++ s) = .ok s := by
  have hopening : skipOpening [] (writeCell cell ++ s) = .ok (none, s) := by
    cases cell with
    | text t =>
      rw [writeCell, writeString_append, skipOpening, skipSpace_cons rfl]
      simp only [skipString_escaped, bind, Except.bind]
    | number n =>
      obtain ⟨d, digits, hchars, hd, -⟩ := exists_leading_digit n
      have hdigit := digit?_eq_some.mpr ⟨hd, rfl⟩
      have hskip := skipNumber_written n hs
      rw [writeCell]
      rw [hchars, List.cons_append] at hskip ⊢
      rw [skipOpening, skipSpace_cons (isSpace_digitChar d hd)]
      split
      case h_9 => simp [startsWithDigit, hdigit, hskip, bind, Except.bind]
      case h_1 h => cases h
      all_goals
        next h => exact absurd h (digitChar_ne hd (by decide))
    | flag b => rcases b with _ | _ | _ <;> rfl
  rw [skipValue, skipWithin, hopening]
  rfl

lemma noControls_writeCell (cell : Cell) : NoControls (writeCell cell) := by
  cases cell with
  | text t => exact noControls_writeString t
  | number n =>
    obtain ⟨d, digits, hchars, hd, hdigits, -⟩ := exists_leading_digit n
    have hdigit : ∀ d < 10, 0x20 ≤ (Nat.digitChar d).toNat := by decide
    rw [writeCell, hchars]
    refine .cons (hdigit d hd) ?_
    rintro c hc
    obtain ⟨x, hx, rfl⟩ := List.mem_map.mp hc
    exact hdigit x (hdigits x hx)
  | flag b => rcases b with _ | _ | _ <;> decide

end HubBridge.Proofs
