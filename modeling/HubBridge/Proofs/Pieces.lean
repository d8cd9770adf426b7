import HubBridge.Text.Blank
import Mathlib.Data.List.DropRight
import Mathlib.Tactic.Lemma

/-!
# Texts cut into pieces

A text is a first piece without separators, alone or followed by a separator and the rest of the
text. The laws of `pieces` go by induction on that shape: blanks around a text do not change its
pieces, and neither does it matter whether characters are replaced before or after the cut. A part
without separators stands in a text just if it stands in one of the pieces.
-/

namespace HubBridge.Proofs

open Text

variable {sep : Char → Bool}

def Whole (sep : Char → Bool) (cs : List Char) : Prop := ∀ c ∈ cs, sep c = false

instance (sep : Char → Bool) (cs : List Char) : Decidable (Whole sep cs) :=
  decidable_of_iff (cs.all fun c => !sep c) (by simp [Whole])

theorem cut_induction (sep : Char → Bool) {motive : List Char → Prop}
    (whole : ∀ piece, Whole sep piece → motive piece)
    (cut : ∀ piece c rest, Whole sep piece → sep c = true → motive rest →
      motive (piece ++ c :: rest)) :
    ∀ cs, motive cs := by
  intro cs
  -- Any prefix without separators may stand before `cs`: it grows until the next separator.
  suffices h : ∀ piece, Whole sep piece → motive (piece ++ cs) from h [] (by simp [Whole])
  induction cs with
  | nil =>
    intro piece hp
    rw [List.append_nil]
    exact whole piece hp
  | cons c cs ih =>
    intro piece hp
    by_cases hc : sep c = true
    · exact cut piece c cs hp hc (ih [] (by simp [Whole]))
    · have hp' : Whole sep (piece ++ [c]) := by
        intro x hx
        rcases List.mem_append.mp hx with hx | hx
        · exact hp x hx
        · rw [List.mem_singleton.mp hx]
          exact Bool.eq_false_iff.mpr hc
      have h := ih (piece ++ [c]) hp'
      rwa [List.append_assoc, List.singleton_append] at h

lemma splitAt_whole {piece : List Char} (h : Whole sep piece) : splitAt sep piece = [piece] := by
  induction piece with
  | nil => rfl
  | cons c cs ih =>
    have hc : sep c = false := h c List.mem_cons_self
    rw [splitAt, ih fun x hx => h x (List.mem_cons_of_mem c hx)]
    simp [hc]

lemma splitAt_cut {piece : List Char} {c : Char} (rest : List Char) (h : Whole sep piece)
    (hc : sep c = true) : splitAt sep (piece ++ c :: rest) = piece :: splitAt sep rest := by
  induction piece with
  | nil => simp [splitAt, hc]
  | cons x xs ih =>
    have hx : sep x = false := h x List.mem_cons_self
    rw [List.cons_append, splitAt, ih fun y hy => h y (List.mem_cons_of_mem x hy)]
    simp [hx]

lemma splitAt_ne_nil (sep : Char → Bool) (cs : List Char) : splitAt sep cs ≠ [] := by
  induction cs using cut_induction sep with
  | whole piece hpiece =>
    rw [splitAt_whole hpiece]
    exact List.cons_ne_nil _ _
  | cut piece c rest hpiece hc =>
    rw [splitAt_cut rest hpiece hc]
    exact List.cons_ne_nil _ _

lemma splitAt_eq_singleton {cs piece : List Char} :
    splitAt sep cs = [piece] ↔ Whole sep piece ∧ cs = piece := by
  constructor
  · intro h
    induction cs using cut_induction sep with
    | whole cs hcs =>
      rw [splitAt_whole hcs] at h
      cases h
      exact ⟨hcs, rfl⟩
    | cut first c rest hfirst hc =>
      rw [splitAt_cut rest hfirst hc] at h
      exact absurd (List.cons.inj h).2 (splitAt_ne_nil sep rest)
  · rintro ⟨hpiece, rfl⟩
    exact splitAt_whole hpiece

lemma splitAt_eq_cons {cs piece next : List Char} {more : List (List Char)} :
    splitAt sep cs = piece :: next :: more ↔ Whole sep piece ∧ ∃ c rest, sep c = true ∧
      cs = piece ++ c :: rest ∧ splitAt sep rest = next :: more := by
  constructor
  · intro h
    induction cs using cut_induction sep with
    | whole cs hcs =>
      rw [splitAt_whole hcs] at h
      cases h
    | cut first c rest hfirst hc =>
      rw [splitAt_cut rest hfirst hc] at h
      obtain ⟨rfl, hrest⟩ := List.cons.inj h
      exact ⟨hfirst, c, rest, hc, rfl, hrest⟩
  · rintro ⟨hpiece, c, rest, hc, rfl, hrest⟩
    rw [splitAt_cut rest hpiece hc, hrest]

lemma pieces_whole {piece : List Char} (h : Whole sep piece) :
    pieces sep piece = if piece = [] then [] else [piece] := by
  rw [pieces, splitAt_whole h]
  by_cases hp : piece = [] <;> simp [hp]

lemma pieces_cut {piece : List Char} {c : Char} (rest : List Char) (h : Whole sep piece)
    (hc : sep c = true) :
    pieces sep (piece ++ c :: rest) = pieces sep piece ++ pieces sep rest := by
  rw [pieces_whole h, pieces, splitAt_cut rest h hc]
  by_cases hp : piece = [] <;> simp [hp, pieces]

lemma pieces_sep_cons {c : Char} (rest : List Char) (hc : sep c = true) :
    pieces sep (c :: rest) = pieces sep rest := by
  have h : pieces sep ([] ++ c :: rest) = pieces sep [] ++ pieces sep rest :=
    pieces_cut rest (by simp [Whole]) hc
  simpa [pieces, splitAt] using h

lemma pieces_concat_sep {c : Char} (cs : List Char) (hc : sep c = true) :
    pieces sep (cs ++ [c]) = pieces sep cs := by
  induction cs using cut_induction sep with
  | whole piece hp =>
    rw [pieces_cut [] hp hc]
    simp [pieces, splitAt]
  | cut piece d rest hp hd ih =>
    rw [List.append_assoc, List.cons_append, pieces_cut _ hp hd, pieces_cut _ hp hd, ih]

lemma pieces_dropWhile {p : Char → Bool} (hp : ∀ c, p c = true → sep c = true) (cs : List Char) :
    pieces sep (cs.dropWhile p) = pieces sep cs := by
  induction cs with
  | nil => rfl
  | cons c cs ih =>
    rw [List.dropWhile_cons]
    by_cases hc : p c = true
    · rw [if_pos hc, ih, pieces_sep_cons cs (hp c hc)]
    · rw [if_neg hc]

lemma pieces_dropEndWhile {p : Char → Bool} (hp : ∀ c, p c = true → sep c = true)
    (cs : List Char) : pieces sep (dropEndWhile p cs) = pieces sep cs := by
  change pieces sep (cs.rdropWhile p) = pieces sep cs
  induction cs using List.reverseRecOn with
  | nil => rfl
  | append_singleton cs c ih =>
    by_cases hc : p c = true
    · rw [List.rdropWhile_concat_pos p cs c hc, ih, pieces_concat_sep cs (hp c hc)]
    · rw [List.rdropWhile_concat_neg p cs c hc]

theorem pieces_strip {p : Char → Bool} (hp : ∀ c, p c = true → sep c = true) (cs : List Char) :
    pieces sep (strip p cs) = pieces sep cs := by
  rw [strip, pieces_dropEndWhile hp, pieces_dropWhile hp]

/-- Replacing characters commutes with cutting if a separator stays and anything else becomes a text
without separators. -/
theorem pieces_flatMap {f : Char → List Char} (hsep : ∀ c, sep c = true → f c = [c])
    (hpiece : ∀ c, sep c = false → f c ≠ [] ∧ Whole sep (f c)) (cs : List Char) :
    pieces sep (cs.flatMap f) = (pieces sep cs).map (List.flatMap f) := by
  have hwhole : ∀ piece, Whole sep piece → Whole sep (piece.flatMap f) := by
    intro piece hp x hx
    obtain ⟨c, hc, hxc⟩ := List.mem_flatMap.mp hx
    exact (hpiece c (hp c hc)).2 x hxc
  have hmap : ∀ piece, Whole sep piece →
      pieces sep (piece.flatMap f) = (pieces sep piece).map (List.flatMap f) := by
    intro piece hp
    rw [pieces_whole (hwhole piece hp), pieces_whole hp]
    cases piece with
    | nil => rfl
    | cons c cs =>
      have hc := (hpiece c (hp c List.mem_cons_self)).1
      rw [if_neg (by simp [hc]), if_neg (by simp)]
      rfl
  induction cs using cut_induction sep with
  | whole piece hp => exact hmap piece hp
  | cut piece c rest hp hc ih =>
    rw [List.flatMap_append, List.flatMap_cons, hsep c hc, List.singleton_append,
      pieces_cut _ (hwhole piece hp) hc, pieces_cut _ hp hc, hmap piece hp, ih, List.map_append]

/-- A separator cuts a text, whatever stands before it. -/
lemma pieces_append_cons (cs : List Char) {c : Char} (rest : List Char) (hc : sep c = true) :
    pieces sep (cs ++ c :: rest) = pieces sep cs ++ pieces sep rest := by
  induction cs using cut_induction sep with
  | whole piece hp => exact pieces_cut rest hp hc
  | cut piece d more hp hd ih =>
    rw [List.append_assoc, List.cons_append, pieces_cut _ hp hd, pieces_cut _ hp hd, ih,
      List.append_assoc]

lemma flatMap_pieces_whole {p : Char → Bool} {piece : List Char} (h : Whole p piece) :
    (pieces p piece).flatMap (pieces sep) = pieces sep piece := by
  rw [pieces_whole h]
  by_cases hempty : piece = []
  · rw [if_pos hempty, hempty]
    rfl
  · rw [if_neg hempty, List.flatMap_singleton]

/-- A text may be cut at some of its separators first. -/
theorem flatMap_pieces {p : Char → Bool} (hp : ∀ c, p c = true → sep c = true) (cs : List Char) :
    (pieces p cs).flatMap (pieces sep) = pieces sep cs := by
  induction cs using cut_induction p with
  | whole piece hpiece => exact flatMap_pieces_whole hpiece
  | cut piece c rest hpiece hc ih =>
    rw [pieces_cut rest hpiece hc, List.flatMap_append, flatMap_pieces_whole hpiece, ih,
      pieces_append_cons piece rest (hp c hc)]

lemma prefix_append_cons_iff {part cs rest : List Char} {c : Char} (hc : c ∉ part) :
    part <+: cs ++ c :: rest ↔ part <+: cs := by
  constructor
  · intro h
    rcases List.prefix_or_prefix_of_prefix h (List.prefix_append cs (c :: rest)) with h' | ⟨more, rfl⟩
    · exact h'
    · rw [List.prefix_append_right_inj] at h
      cases more with
      | nil => exact ⟨[], by rw [List.append_nil, List.append_nil]⟩
      | cons d more =>
        obtain ⟨rfl, -⟩ := List.cons_prefix_cons.mp h
        exact absurd (List.mem_append_right cs List.mem_cons_self) hc
  · intro h
    exact h.trans (List.prefix_append cs _)

lemma infix_append_cons_iff {part cs rest : List Char} {c : Char} (hc : c ∉ part) :
    part <:+: cs ++ c :: rest ↔ part <:+: cs ∨ part <:+: rest := by
  induction cs with
  | nil =>
    have hhead : part <+: [] ++ c :: rest ↔ part <+: [] := prefix_append_cons_iff hc
    rw [List.nil_append] at hhead ⊢
    rw [List.infix_cons_iff, hhead, List.prefix_nil, List.infix_nil]
  | cons d cs ih =>
    have hhead : part <+: (d :: cs) ++ c :: rest ↔ part <+: d :: cs := prefix_append_cons_iff hc
    rw [List.cons_append] at hhead ⊢
    rw [List.infix_cons_iff, hhead, ih, List.infix_cons_iff, or_assoc]

lemma Whole.not_mem {part : List Char} (h : Whole sep part) {c : Char} (hc : sep c = true) :
    c ∉ part := by
  intro hmem
  rw [h c hmem] at hc
  cases hc

lemma infix_whole_iff {part piece : List Char} (hne : part ≠ []) (hpiece : Whole sep piece) :
    part <:+: piece ↔ ∃ x ∈ pieces sep piece, part <:+: x := by
  rw [pieces_whole hpiece]
  by_cases hempty : piece = []
  · simp [hempty, hne]
  · simp [hempty]

/-- A part without separators stands in the text if it stands in one of the pieces. -/
theorem infix_iff_exists_piece {part : List Char} (hne : part ≠ []) (hpart : Whole sep part)
    (cs : List Char) : part <:+: cs ↔ ∃ piece ∈ pieces sep cs, part <:+: piece := by
  induction cs using cut_induction sep with
  | whole piece hpiece => exact infix_whole_iff hne hpiece
  | cut piece c rest hpiece hc ih =>
    rw [infix_append_cons_iff (hpart.not_mem hc), pieces_cut rest hpiece hc,
      infix_whole_iff hne hpiece, ih]
    simp only [List.mem_append, or_and_right, exists_or]

lemma ne_nil_of_prefixed {part cs : List Char} (hne : part ≠ []) (h : part <+: cs) : cs ≠ [] := by
  rintro rfl
  exact hne (List.prefix_nil.mp h)

/-- A part without separators that begins the text begins its first piece. -/
lemma exists_head_of_prefixed {part : List Char} (hne : part ≠ []) (hpart : Whole sep part)
    {cs : List Char} (h : part <+: cs) : ∃ piece ∈ (pieces sep cs).head?, part <+: piece := by
  induction cs using cut_induction sep with
  | whole piece hpiece =>
    rw [pieces_whole hpiece, if_neg (ne_nil_of_prefixed hne h)]
    exact ⟨piece, rfl, h⟩
  | cut piece c rest hpiece hc ih =>
    rw [prefix_append_cons_iff (hpart.not_mem hc)] at h
    rw [pieces_cut rest hpiece hc, pieces_whole hpiece, if_neg (ne_nil_of_prefixed hne h)]
    exact ⟨piece, rfl, h⟩

/-- Where no separator stands in front, the text begins with its first piece. -/
lemma prefix_of_head {cs : List Char} (hcs : ∀ c ∈ cs.head?, sep c = false) {piece : List Char}
    (h : piece ∈ (pieces sep cs).head?) : piece <+: cs := by
  induction cs using cut_induction sep with
  | whole whole hwhole =>
    rw [pieces_whole hwhole] at h
    by_cases hempty : whole = []
    · simp [hempty] at h
    · rw [if_neg hempty] at h
      cases h
      exact List.prefix_rfl
  | cut first c rest hfirst hc ih =>
    have hempty : first ≠ [] := by
      rintro rfl
      rw [hcs c rfl] at hc
      cases hc
    rw [pieces_cut rest hfirst hc, pieces_whole hfirst, if_neg hempty] at h
    cases h
    exact List.prefix_append _ _

lemma occursIn_iff (part cs : List Char) : occursIn part cs = true ↔ part <:+: cs := by
  induction cs with
  | nil => simp [occursIn]
  | cons c cs ih => simp only [occursIn, Bool.or_eq_true, List.isPrefixOf_iff_prefix, ih,
      List.infix_cons_iff]

lemma after?_eq_some {lead s rest : String} : after? lead s = some rest ↔ s = lead ++ rest := by
  rw [after?, Option.map_eq_some_iff]
  constructor
  · rintro ⟨cs, hcs, rfl⟩
    rw [List.isPrefixOf?_eq_some_iff_append_eq] at hcs
    rw [← String.toList_inj, String.toList_append, String.toList_ofList, hcs]
  · rintro rfl
    refine ⟨rest.toList, ?_, String.ofList_toList⟩
    rw [List.isPrefixOf?_eq_some_iff_append_eq, String.toList_append]

end HubBridge.Proofs
