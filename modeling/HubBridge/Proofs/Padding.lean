import HubBridge.Proofs.LineRoundTrip

/-!
# Texts with white space around them

Whoever reads a part of a line, a variable or an order takes off the white space around it first. A text
is blank, or it is a bare one with blanks before and behind it, and then trimming gives the bare one.
-/

namespace HubBridge.Proofs

open Text

/-- The text with white space around it, of any kind and as much as one likes. -/
def Padded (s padded : String) : Prop :=
  ∃ lead trail, isAllBlank lead = true ∧ isAllBlank trail = true ∧ padded = lead ++ s ++ trail

/-- There is a text, and it neither begins nor ends with white space. -/
structure Bare (s : String) : Prop where
  nonempty : s.toList ≠ []
  head : ∀ c ∈ s.toList.head?, isBlank c = false
  last : ∀ c ∈ s.toList.getLast?, isBlank c = false

/-- There is no text, or it is blank. -/
def Unset (value : Option String) : Prop := ∀ s ∈ value, isAllBlank s = true

lemma unset_some {s : String} : Unset (some s) ↔ isAllBlank s = true := by simp [Unset]

/-- What is set can be read. -/
lemma exists_of_set {value : Option String} (h : ¬Unset value) :
    ∃ s, value = some s ∧ isAllBlank s = false := by
  cases value with
  | none => exact absurd (fun s hs => nomatch hs) h
  | some s => exact ⟨s, rfl, Bool.eq_false_iff.mpr fun hblank => h (unset_some.mpr hblank)⟩

lemma padded_self (s : String) : Padded s s :=
  ⟨"", "", rfl, rfl, by rw [String.empty_append, String.append_empty]⟩

lemma Padded.trim_eq {s padded : String} (h : Padded s padded) : trim padded = trim s := by
  obtain ⟨lead, trail, hlead, htrail, rfl⟩ := h
  exact trim_padded hlead htrail s

lemma padded_trim (s : String) : Padded (trim s) s := by
  obtain ⟨lead, trail, hlead, htrail, hs⟩ := exists_padding isBlank s.toList
  refine ⟨.ofList lead, .ofList trail, ?_, ?_, ?_⟩
  · simpa [isAllBlank] using hlead
  · simpa [isAllBlank] using htrail
  · rw [← String.toList_inj, String.toList_append, String.toList_append, String.toList_ofList,
      String.toList_ofList, toList_trim, List.append_assoc]
    exact hs

lemma trim_eq_empty {s : String} : (trim s).toList = [] ↔ isAllBlank s = true := by
  constructor
  · intro h
    obtain ⟨lead, trail, hlead, htrail, hs⟩ := padded_trim s
    rw [hs, String.toList_eq_nil_iff.mp h, String.append_empty]
    unfold isAllBlank at hlead htrail ⊢
    rw [String.toList_append, List.all_append, hlead, htrail, Bool.and_true]
  · intro h
    have hpadded : Padded "" s := ⟨s, "", h, rfl, by rw [String.append_empty, String.append_empty]⟩
    rw [hpadded.trim_eq]
    rfl

lemma isEmpty_trim (s : String) : (trim s).isEmpty = isAllBlank s := by
  rw [Bool.eq_iff_iff, String.isEmpty_iff, ← String.toList_eq_nil_iff, trim_eq_empty]

lemma head_strip (p : Char → Bool) (cs : List Char) : ∀ c ∈ (strip p cs).head?, p c = false := by
  intro c hc
  obtain ⟨trail, htrail⟩ : strip p cs <+: cs.dropWhile p := List.rdropWhile_prefix p _
  have hhead : (cs.dropWhile p).head? = some c := by
    rw [← htrail, List.head?_append, Option.mem_def.mp hc, Option.some_or]
  have hnot := List.head?_dropWhile_not p cs
  rwa [hhead] at hnot

lemma last_strip (p : Char → Bool) (cs : List Char) : ∀ c ∈ (strip p cs).getLast?, p c = false := by
  intro c hc
  obtain ⟨hne, rfl⟩ := List.mem_getLast?_eq_getLast hc
  exact Bool.eq_false_iff.mpr (List.rdropWhile_last_not p _ hne)

lemma bare_trim {s : String} (h : isAllBlank s = false) : Bare (trim s) where
  nonempty hnil := by
    rw [trim_eq_empty.mp hnil] at h
    cases h
  head := by
    rw [toList_trim]
    exact head_strip isBlank _
  last := by
    rw [toList_trim]
    exact last_strip isBlank _

lemma Bare.trim_eq {s : String} (h : Bare s) : trim s = s := by
  rw [← String.toList_inj, toList_trim]
  exact strip_eq_self h.head h.last

lemma Bare.not_blank {s : String} (h : Bare s) : isAllBlank s = false := by
  rw [Bool.eq_false_iff, ne_eq, ← trim_eq_empty, h.trim_eq]
  exact h.nonempty

/-- A bare text stands in another with white space around it just if trimming brings it out. -/
lemma Bare.padded_iff {s padded : String} (h : Bare s) : Padded s padded ↔ trim padded = s := by
  constructor
  · intro hpadded
    rw [hpadded.trim_eq, h.trim_eq]
  · rintro rfl
    exact padded_trim padded

/-- Any text ends in white space, and what stands before that does not. -/
lemma exists_trail (s : String) : ∃ kept trail, s = kept ++ trail ∧ isAllBlank trail = true ∧
    ∀ c ∈ kept.toList.getLast?, isBlank c = false := by
  refine ⟨.ofList (s.toList.rdropWhile isBlank), .ofList (s.toList.rtakeWhile isBlank), ?_, ?_, ?_⟩
  · rw [← String.ofList_append, List.rdropWhile_append_rtakeWhile, String.ofList_toList]
  · rw [isAllBlank, String.toList_ofList, List.all_eq_true]
    exact fun c hc => List.mem_rtakeWhile_imp hc
  · rw [String.toList_ofList]
    intro c hc
    obtain ⟨hne, rfl⟩ := List.mem_getLast?_eq_getLast hc
    exact Bool.eq_false_iff.mpr (List.rdropWhile_last_not isBlank _ hne)

lemma Bare.append {s kept : String} (h : Bare s)
    (hkept : ∀ c ∈ kept.toList.getLast?, isBlank c = false) : Bare (s ++ kept) where
  nonempty := by
    rw [String.toList_append]
    exact List.append_ne_nil_of_left_ne_nil h.nonempty _
  head := by
    rw [String.toList_append, List.head?_append_of_ne_nil _ h.nonempty]
    exact h.head
  last := by
    intro c hc
    rw [String.toList_append, List.getLast?_append, Option.mem_def, Option.or_eq_some_iff] at hc
    obtain hc | ⟨-, hc⟩ := hc
    · exact hkept c hc
    · exact h.last c hc

/-! ### Single words -/

lemma bare_of_isWord {w : String} (h : isWord w = true) : Bare w := by
  obtain ⟨hne, hwhole⟩ := isWord_iff.mp h
  exact ⟨hne, fun c hc => hwhole c (List.mem_of_mem_head? hc),
    fun c hc => hwhole c (List.mem_of_mem_getLast? hc)⟩

lemma words_word {w : String} (hw : isWord w = true) : words w = [w] := by
  obtain ⟨hne, hwhole⟩ := isWord_iff.mp hw
  rw [words, pieces_whole hwhole, if_neg hne, List.map_singleton, String.ofList_toList]

lemma trim_of_words_singleton {s w : String} (h : words s = [w]) : trim s = w := by
  have hlaid := words_eq_iff.mp h
  rw [← String.toList_inj, toList_trim]
  generalize s.toList = cs at hlaid ⊢
  cases hlaid with
  | @word lead rest w ws hlead hword hrest hlaid =>
    have hbare := bare_of_isWord hword
    cases hlaid with
    | blank htrail =>
      rw [strip_padded hlead htrail]
      exact strip_eq_self hbare.head hbare.last

lemma words_eq_singleton {s w : String} : words s = [w] ↔ isWord w = true ∧ trim s = w := by
  constructor
  · intro h
    refine ⟨?_, trim_of_words_singleton h⟩
    have hwords := isWord_of_laidOut (words_eq_iff.mp h)
    exact hwords w List.mem_cons_self
  · rintro ⟨hw, rfl⟩
    rw [← words_trim, words_word hw]

end HubBridge.Proofs
