import HubBridge.Address
import HubBridge.Proofs.LineRoundTrip

/-!
# How addresses are written

The text of an IPv4 address is the only one that is read as the address. IPv6 addresses are described by
a grammar of groups and gaps, and what counts as one is what the grammar derives.
-/

namespace HubBridge.Proofs

open Text

/-! ### IPv4 addresses -/

/-- Further digits of a number stand behind those it has already. -/
lemma toDigits_foldl {value : Nat} (hvalue : 0 < value) {digits : List Nat}
    (h : ∀ d ∈ digits, d < 10) : Nat.toDigits 10 (digits.foldl (fun v d => v * 10 + d) value) =
      Nat.toDigits 10 value ++ digits.map Nat.digitChar := by
  induction digits generalizing value with
  | nil => rw [List.foldl_nil, List.map_nil, List.append_nil]
  | cons d digits ih =>
    obtain ⟨hd, hrest⟩ := List.forall_mem_cons.mp h
    have hstep : Nat.toDigits 10 (value * 10 + d) = Nat.toDigits 10 value ++ [Nat.digitChar d] := by
      rw [Nat.mul_comm, ← Nat.toDigits_append_toDigits (by decide) hvalue hd,
        Nat.toDigits_of_lt_base hd]
    rw [List.foldl_cons, ih (by omega) hrest, hstep, List.map_cons, List.append_assoc,
      List.singleton_append]

lemma digitChar_eq_zero {d : Nat} (hd : d < 10) : Nat.digitChar d = '0' ↔ d = 0 := by
  revert d
  decide

lemma digits_of_readOctet? {cs : List Char} {n : UInt8} (h : IPv4.readOctet? cs = some n) :
    cs = Nat.toDigits 10 n.toNat := by
  unfold IPv4.readOctet? at h
  split at h
  · cases h
  · cases h
    rfl
  · cases h
  · rename_i hne hzero hlead
    split at h
    · cases h
    · split at h
      · rename_i m hread
        cases h
        obtain ⟨digits, hdigits, rfl, rfl, hlt⟩ := (readDigits_eq_ok (by decide)).mp hread
        obtain _ | ⟨d, digits⟩ := digits
        · exact absurd rfl hne
        · obtain ⟨hd, hrest⟩ := List.forall_mem_cons.mp hdigits
          have hpos : 0 < d := by
            rw [Nat.pos_iff_ne_zero, ne_eq, ← digitChar_eq_zero hd]
            intro h0
            exact hlead (digits.map Nat.digitChar) (by rw [List.map_cons, h0])
          rw [List.foldl_cons, Nat.zero_mul, Nat.zero_add] at hlt ⊢
          rw [UInt8.toNat_ofNat_of_lt' hlt, toDigits_foldl hpos hrest, Nat.toDigits_of_lt_base hd,
            List.map_cons, List.singleton_append]
      · cases h

lemma readOctet?_toDigits (n : UInt8) : IPv4.readOctet? (Nat.toDigits 10 n.toNat) = some n := by
  obtain ⟨digits, hne, hdigits, hchars, hvalue, hzero⟩ := exists_digits n.toNat
  have hlength : digits.length ≤ 3 := by
    have hle := Nat.toDigits_length 10 n.toNat 3 (by decide) (by have := n.toNat_lt; omega)
    rwa [hchars, List.length_map] at hle
  have hread : readDigits 256 0 (digits.map Nat.digitChar) = .ok n.toNat :=
    (readDigits_eq_ok (by decide)).mpr
      ⟨digits, hdigits, rfl, by rw [foldl_digits, ← hvalue], n.toNat_lt⟩
  rw [hchars]
  obtain ⟨d, digits, rfl⟩ := List.exists_cons_of_ne_nil hne
  by_cases hd : d = 0
  · subst hd
    rw [hzero rfl] at hvalue ⊢
    have hn : n = 0 := UInt8.toNat_inj.mp hvalue
    subst hn
    rfl
  · have hlead : Nat.digitChar d ≠ '0' := by
      rwa [ne_eq, digitChar_eq_zero (hdigits d List.mem_cons_self)]
    unfold IPv4.readOctet?
    split
    · rename_i hnil
      cases hnil
    · rename_i hcons
      exact absurd (List.cons.inj hcons).1 hlead
    · rename_i hcons
      exact absurd (List.cons.inj hcons).1 hlead
    · rw [List.length_map, if_neg (by omega), hread]
      dsimp only
      rw [UInt8.ofNat_toNat]

/-- A number of an address is read if it is written as it is printed. -/
lemma readOctet?_eq_some {cs : List Char} {n : UInt8} :
    IPv4.readOctet? cs = some n ↔ cs = Nat.toDigits 10 n.toNat := by
  constructor
  · exact digits_of_readOctet?
  · rintro rfl
    exact readOctet?_toDigits n

lemma toList_ipv4 (ip : IPv4) : ip.toText.toList =
    Nat.toDigits 10 ip.a.toNat ++ '.' :: (Nat.toDigits 10 ip.b.toNat ++ '.' ::
      (Nat.toDigits 10 ip.c.toNat ++ '.' :: Nat.toDigits 10 ip.d.toNat)) := by
  have hdot : ".".toList = ['.'] := rfl
  unfold IPv4.toText
  simp only [String.toList_append, Nat.toString_eq_ofList_toDigits, String.toList_ofList, hdot,
    List.append_assoc, List.cons_append, List.nil_append]

lemma isDigit_toDigits {n : Nat} {c : Char} (h : c ∈ Nat.toDigits 10 n) : c.isDigit = true :=
  Nat.isDigit_of_mem_toDigits (by decide) (by decide) h

lemma whole_toDigits (n : Nat) {sep : Char} (h : sep.isDigit = false) :
    Whole (· == sep) (Nat.toDigits 10 n) := by
  intro c hc
  rw [beq_eq_false_iff_ne]
  rintro rfl
  rw [isDigit_toDigits hc] at h
  cases h

/-- The text of an address is the only one that is read as the address. -/
theorem ipv4_ofChars?_eq_some {cs : List Char} {ip : IPv4} :
    IPv4.ofChars? cs = some ip ↔ cs = ip.toText.toList := by
  have hwhole : ∀ n, Whole (· == '.') (Nat.toDigits 10 n) := fun n => whole_toDigits n rfl
  rw [toList_ipv4]
  unfold IPv4.ofChars?
  constructor
  · intro h
    split at h
    · rename_i a b c d hpieces
      simp only [Option.bind_eq_bind, Option.bind_eq_some_iff, readOctet?_eq_some,
        Option.some_inj] at h
      obtain ⟨a, rfl, b, rfl, c, rfl, d, rfl, rfl⟩ := h
      simp only [splitAt_eq_cons, splitAt_eq_singleton, beq_iff_eq] at hpieces
      obtain ⟨-, _, _, rfl, rfl, -, _, _, rfl, rfl, -, _, _, rfl, rfl, -, rfl⟩ := hpieces
      rfl
    · cases h
  · rintro rfl
    rw [splitAt_cut _ (hwhole _) rfl, splitAt_cut _ (hwhole _) rfl, splitAt_cut _ (hwhole _) rfl,
      splitAt_whole (hwhole _)]
    simp only [readOctet?_toDigits]
    rfl

lemma ipv4_ne_nil (ip : IPv4) : ip.toText.toList ≠ [] := by
  rw [toList_ipv4]
  simp

lemma mem_ipv4 {ip : IPv4} {c : Char} (h : c ∈ ip.toText.toList) : c.isDigit = true ∨ c = '.' := by
  rw [toList_ipv4] at h
  simp only [List.mem_append, List.mem_cons] at h
  rcases h with h | rfl | h | rfl | h | rfl | h
  · exact .inl (isDigit_toDigits h)
  · exact .inr rfl
  · exact .inl (isDigit_toDigits h)
  · exact .inr rfl
  · exact .inl (isDigit_toDigits h)
  · exact .inr rfl
  · exact .inl (isDigit_toDigits h)

lemma whole_ipv4 (ip : IPv4) : Whole (· == ':') ip.toText.toList := by
  intro c hc
  rw [beq_eq_false_iff_ne]
  rintro rfl
  obtain h | h := mem_ipv4 hc
  · cases h
  · cases h

lemma not_blank_of_isDigit {c : Char} (h : c.isDigit = true) : isBlank c = false := by
  simp only [Char.isDigit, Bool.and_eq_true, decide_eq_true_eq, ge_iff_le, UInt32.le_iff_toNat_le] at h
  obtain ⟨hzero, hnine⟩ := h
  change 48 ≤ c.toNat at hzero
  change c.toNat ≤ 57 at hnine
  simp only [isBlank, Bool.or_eq_false_iff, Bool.and_eq_false_iff, decide_eq_false_iff_not,
    beq_eq_false_iff_ne]
  omega

lemma isWord_ipv4 (ip : IPv4) : isWord ip.toText = true := by
  rw [isWord_iff]
  refine ⟨ipv4_ne_nil ip, ?_⟩
  intro c hc
  obtain h | rfl := mem_ipv4 hc
  · exact not_blank_of_isDigit h
  · rfl

/-! ### IPv6 addresses -/

/-- So many groups with colons between them. If it `embeds`, an IPv4 address may stand in place of the
last two. -/
inductive Grouped (embeds : Bool) : List Char → Nat → Prop
  | group {cs : List Char} (h : IPv6.isGroup cs = true) : Grouped embeds cs 1
  | address (h : embeds = true) (ip : IPv4) : Grouped embeds ip.toText.toList 2
  | cons {cs rest : List Char} {n : Nat} (h : IPv6.isGroup cs = true)
      (hrest : Grouped embeds rest n) : Grouped embeds (cs ++ ':' :: rest) (n + 1)

/-- The groups on one side of a gap, which may be none. -/
def Side (embeds : Bool) (cs : List Char) (n : Nat) : Prop :=
  cs = [] ∧ n = 0 ∨ Grouped embeds cs n

/-- The text of an IPv6 address: eight groups, or fewer and a gap for those left out. -/
inductive SixText : List Char → Prop
  | full {cs : List Char} (h : Grouped true cs 8) : SixText cs
  | gap {front back : List Char} {n k : Nat} (hfront : Side false front n) (hback : Side true back k)
      (h : n + k ≤ 7) : SixText (front ++ ':' :: ':' :: back)

lemma isGroup_iff {cs : List Char} : IPv6.isGroup cs = true ↔ cs ≠ [] ∧ cs.length ≤ 4 ∧
    ∀ c ∈ cs, ('0' ≤ c ∧ c ≤ '9') ∨ ('a' ≤ c ∧ c ≤ 'f') ∨ ('A' ≤ c ∧ c ≤ 'F') := by
  unfold IPv6.isGroup
  simp [and_assoc, or_assoc]

lemma whole_group {cs : List Char} (h : IPv6.isGroup cs = true) {sep : Char}
    (hsep : IPv6.isGroup [sep] = false) : Whole (· == sep) cs := by
  intro c hc
  rw [beq_eq_false_iff_ne]
  rintro rfl
  have hgroup : IPv6.isGroup [c] = true :=
    isGroup_iff.mpr ⟨List.cons_ne_nil _ _, by simp, by simpa using (isGroup_iff.mp h).2.2 c hc⟩
  rw [hgroup] at hsep
  cases hsep

lemma whole_group_colon {cs : List Char} (h : IPv6.isGroup cs = true) : Whole (· == ':') cs :=
  whole_group h (by decide)

lemma isGroup_ipv4 (ip : IPv4) : IPv6.isGroup ip.toText.toList = false := by
  rw [Bool.eq_false_iff]
  intro h
  have hdot : Whole (· == '.') ip.toText.toList := whole_group h (by decide)
  have hmem : '.' ∈ ip.toText.toList := by
    rw [toList_ipv4]
    exact List.mem_append_right _ List.mem_cons_self
  exact hdot.not_mem rfl hmem

lemma countGroups?_cons {part : List Char} {parts : List (List Char)} (h : parts ≠ []) :
    IPv6.countGroups? (part :: parts) =
      if IPv6.isGroup part then (IPv6.countGroups? parts).map (· + 1) else none := by
  cases parts with
  | nil => exact absurd rfl h
  | cons next more => rfl

lemma exists_head_of_whole {part : List Char} (hne : part ≠ []) (h : Whole (· == ':') part) :
    ∃ c rest, part = c :: rest ∧ c ≠ ':' := by
  obtain ⟨c, rest, rfl⟩ := List.exists_cons_of_ne_nil hne
  exact ⟨c, rest, rfl, beq_eq_false_iff_ne.mp (h c List.mem_cons_self)⟩

section Grouped

variable {embeds : Bool} {cs : List Char} {n : Nat}

/-- Groups begin with one that is not empty. -/
lemma Grouped.head (h : Grouped embeds cs n) : ∃ c rest, cs = c :: rest ∧ c ≠ ':' := by
  cases h with
  | group h => exact exists_head_of_whole (isGroup_iff.mp h).1 (whole_group_colon h)
  | address _ ip => exact exists_head_of_whole (ipv4_ne_nil ip) (whole_ipv4 ip)
  | cons h =>
    obtain ⟨c, rest, rfl, hc⟩ := exists_head_of_whole (isGroup_iff.mp h).1 (whole_group_colon h)
    exact ⟨c, _, rfl, hc⟩

lemma Grouped.ne_nil (h : Grouped embeds cs n) : cs ≠ [] := by
  obtain ⟨c, rest, rfl, -⟩ := h.head
  exact List.cons_ne_nil c rest

lemma Grouped.count (h : Grouped embeds cs n) :
    IPv6.countGroups? (splitAt (· == ':') cs) = some n := by
  induction h with
  | group h => rw [splitAt_whole (whole_group_colon h), IPv6.countGroups?, if_pos h]
  | address _ ip =>
    rw [splitAt_whole (whole_ipv4 ip), IPv6.countGroups?, isGroup_ipv4,
      ipv4_ofChars?_eq_some.mpr rfl]
    rfl
  | cons h _ ih =>
    rw [splitAt_cut _ (whole_group_colon h) rfl, countGroups?_cons (splitAt_ne_nil _ _), if_pos h, ih]
    rfl

lemma Grouped.all_isGroup (h : Grouped false cs n) :
    (splitAt (· == ':') cs).all IPv6.isGroup = true := by
  generalize hembeds : false = embeds at h
  induction h with
  | group h => rw [splitAt_whole (whole_group_colon h), List.all_cons, h, List.all_nil]; rfl
  | address h ip =>
    rw [← hembeds] at h
    cases h
  | cons h _ ih =>
    rw [splitAt_cut _ (whole_group_colon h) rfl, List.all_cons, h, ih]
    rfl

lemma grouped_of_count (h : IPv6.countGroups? (splitAt (· == ':') cs) = some n)
    (hgroups : embeds = true ∨ (splitAt (· == ':') cs).all IPv6.isGroup = true) :
    Grouped embeds cs n := by
  induction cs using cut_induction (· == ':') generalizing n with
  | whole part hpart =>
    rw [splitAt_whole hpart] at h hgroups
    unfold IPv6.countGroups? at h
    split at h
    · rename_i hgroup
      cases h
      exact .group hgroup
    · rename_i hgroup
      split at h
      · rename_i hsome
        cases h
        obtain ⟨ip, hip⟩ := Option.isSome_iff_exists.mp hsome
        obtain rfl := ipv4_ofChars?_eq_some.mp hip
        refine .address ?_ ip
        simpa [hgroup] using hgroups
      · cases h
  | cut part c rest hpart hc ih =>
    obtain rfl := beq_iff_eq.mp hc
    rw [splitAt_cut rest hpart hc] at h hgroups
    rw [countGroups?_cons (splitAt_ne_nil _ _)] at h
    split at h
    · rename_i hgroup
      obtain ⟨k, hk, rfl⟩ := Option.map_eq_some_iff.mp h
      refine .cons hgroup (ih hk ?_)
      simpa [hgroup] using hgroups
    · cases h

lemma groupsOf?_eq_some : IPv6.groupsOf? cs = some n ↔ Side true cs n := by
  unfold IPv6.groupsOf? Side
  split
  · rename_i hnil
    obtain rfl := List.isEmpty_iff.mp hnil
    constructor
    · intro h
      cases h
      exact .inl ⟨rfl, rfl⟩
    · rintro (⟨-, rfl⟩ | h)
      · rfl
      · exact absurd rfl h.ne_nil
  · rename_i hne
    rw [List.isEmpty_iff] at hne
    constructor
    · intro h
      exact .inr (grouped_of_count h (.inl rfl))
    · rintro (⟨rfl, -⟩ | h)
      · exact absurd rfl hne
      · exact h.count

/-- Before a gap there are groups alone. -/
lemma front_iff : ((cs.isEmpty || (splitAt (· == ':') cs).all IPv6.isGroup) = true ∧
    IPv6.groupsOf? cs = some n) ↔ Side false cs n := by
  rw [groupsOf?_eq_some, Bool.or_eq_true, List.isEmpty_iff]
  constructor
  · rintro ⟨hgroups, ⟨rfl, rfl⟩ | h⟩
    · exact .inl ⟨rfl, rfl⟩
    · exact .inr (grouped_of_count h.count (.inr (hgroups.resolve_left h.ne_nil)))
  · rintro (⟨rfl, rfl⟩ | h)
    · exact ⟨.inl rfl, .inl ⟨rfl, rfl⟩⟩
    · exact ⟨.inr h.all_isGroup, .inr (grouped_of_count h.count (.inl rfl))⟩

/-! The gap is the first place with two colons in a row, and there is none within the groups. -/

lemma splitGap_cons {c : Char} (hc : c ≠ ':') (rest : List Char) :
    IPv6.splitGap (c :: rest) =
      (IPv6.splitGap rest).map fun (front, back) => (c :: front, back) := by
  rw [IPv6.splitGap]
  rintro rest' rfl
  exact absurd rfl hc

lemma splitGap_colon {c : Char} (hc : c ≠ ':') (rest : List Char) :
    IPv6.splitGap (':' :: c :: rest) =
      (IPv6.splitGap (c :: rest)).map fun (front, back) => (':' :: front, back) := by
  rw [IPv6.splitGap]
  rintro rest' - h
  exact absurd (List.cons.inj h).1 hc

lemma splitGap_whole {piece : List Char} (h : Whole (· == ':') piece) (rest : List Char) :
    IPv6.splitGap (piece ++ rest) =
      (IPv6.splitGap rest).map fun (front, back) => (piece ++ front, back) := by
  induction piece with
  | nil => simp
  | cons c piece ih =>
    have hc : c ≠ ':' := beq_eq_false_iff_ne.mp (h c List.mem_cons_self)
    rw [List.cons_append, splitGap_cons hc, ih fun x hx => h x (List.mem_cons_of_mem c hx),
      Option.map_map]
    rfl

lemma Grouped.splitGap (h : Grouped embeds cs n) (rest : List Char) :
    IPv6.splitGap (cs ++ rest) =
      (IPv6.splitGap rest).map fun (front, back) => (cs ++ front, back) := by
  induction h with
  | group h => exact splitGap_whole (whole_group_colon h) rest
  | address _ ip => exact splitGap_whole (whole_ipv4 ip) rest
  | @cons part more n h hmore ih =>
    obtain ⟨c, tail, rfl, hc⟩ := hmore.head
    rw [List.append_assoc, splitGap_whole (whole_group_colon h), List.cons_append, List.cons_append,
      splitGap_colon hc, ← List.cons_append, ih, Option.map_map, Option.map_map]
    congr 1
    funext ⟨front, back⟩
    simp

lemma splitGap_sound {front back : List Char} (h : IPv6.splitGap cs = some (front, back)) :
    cs = front ++ ':' :: ':' :: back := by
  fun_induction IPv6.splitGap cs generalizing front with
  | case1 rest =>
    cases h
    rfl
  | case2 c rest _ ih =>
    obtain ⟨⟨front, _⟩, hrest, hpair⟩ := Option.map_eq_some_iff.mp h
    cases hpair
    rw [ih hrest, List.cons_append]
  | case3 => cases h

end Grouped

/-- What counts as an IPv6 address is what is written as one. -/
theorem ipv6_isAddress_iff {cs : List Char} : IPv6.isAddress cs = true ↔ SixText cs := by
  constructor
  · intro h
    unfold IPv6.isAddress at h
    split at h
    · rw [beq_iff_eq, groupsOf?_eq_some] at h
      obtain ⟨-, h⟩ | h := h
      · cases h
      · exact .full h
    · rename_i front back hgap
      rw [Bool.and_eq_true] at h
      obtain ⟨hgroups, h⟩ := h
      split at h
      · rename_i n k hn hk
        rw [splitGap_sound hgap]
        exact .gap (front_iff.mp ⟨hgroups, hn⟩) (groupsOf?_eq_some.mp hk) (by simpa using h)
      · cases h
  · intro h
    unfold IPv6.isAddress
    cases h with
    | full h =>
      have hgap := h.splitGap []
      rw [List.append_nil] at hgap
      rw [hgap, groupsOf?_eq_some.mpr (.inr h)]
      rfl
    | @gap front back n k hfront hback h =>
      have hgap : IPv6.splitGap (front ++ ':' :: ':' :: back) = some (front, back) := by
        obtain ⟨rfl, -⟩ | hfront := hfront
        · rfl
        · rw [hfront.splitGap, IPv6.splitGap, Option.map_some]
          dsimp only
          rw [List.append_nil]
      obtain ⟨hgroups, hn⟩ := front_iff.mpr hfront
      rw [hgap]
      dsimp only
      rw [hgroups, hn, groupsOf?_eq_some.mpr hback]
      exact decide_eq_true h

end HubBridge.Proofs
