import HubBridge.Text.Octets
import Mathlib.Tactic.Lemma

/-!
# Octets that are UTF-8

Octets that spell a text are read as that text: the reader replaces nothing in them. It goes by
characters, each of which leads from the state between characters back to it.
-/

namespace HubBridge.Proofs

open Text Text.Octets

lemma octets_toList_loop (bytes : ByteArray) (i : Nat) (read : List UInt8) :
    ByteArray.toList.loop bytes i read = read.reverse ++ bytes.data.toList.drop i := by
  fun_induction ByteArray.toList.loop bytes i read with
  | case1 i read hi ih =>
    have hi' : i < bytes.data.toList.length := hi
    have hget : bytes.get! i = bytes.data.toList[i] := getElem!_pos bytes.data i hi
    rw [ih, List.reverse_cons, List.append_assoc, List.drop_eq_getElem_cons hi', hget]
    rfl
  | case2 i read hi =>
    have hi' : bytes.data.toList.length ≤ i := Nat.le_of_not_lt hi
    rw [List.drop_eq_nil_of_le hi', List.append_nil]

lemma octets_toList (bytes : ByteArray) : bytes.toList = bytes.data.toList :=
  octets_toList_loop bytes 0 []

lemma toList_toUTF8 (s : String) : s.toUTF8.toList = s.toList.flatMap String.utf8EncodeChar := by
  rw [String.toUTF8_eq_toByteArray, ← String.utf8Encode_toList, octets_toList, List.utf8Encode,
    List.data_toByteArray]

/-! ### One octet -/

lemma octet_toNat {n : Nat} (h : n < 256) : (UInt8.ofNat n).toNat = n := by
  rw [UInt8.toNat_ofNat']
  exact Nat.mod_eq_of_lt h

lemma read_step (state : State) (b : UInt8) (bs : List UInt8) :
    read state (b :: bs) = (step state b).2 ++ read (step state b).1 bs := by
  cases state <;> rfl

lemma first_one {n : Nat} (h : n < 0x80) :
    first (UInt8.ofNat n) = (.start, [Char.ofNat n]) := by
  unfold first
  rw [octet_toNat (by omega)]
  simp [h]

lemma first_two {n : Nat} (hlow : 2 ≤ n) (hhigh : n < 0x20) :
    first (UInt8.ofNat (n + 0xC0)) = (.inside n 0x80 0xBF 0, []) := by
  unfold first
  rw [octet_toNat (by omega)]
  grind

/-- The second octet of three is bounded, so that no code is spelt in three octets that needs only two
and none that stands for half a pair. -/
lemma first_three {n k : Nat} (hn : n < 0x10) (hk : k < 0x40) (hlong : n = 0 → 0x20 ≤ k)
    (hpair : n = 0xD → k < 0x20) :
    ∃ low high, first (UInt8.ofNat (n + 0xE0)) = (.inside n low high 1, []) ∧
      low ≤ k + 0x80 ∧ k + 0x80 ≤ high := by
  unfold first
  rw [octet_toNat (by omega)]
  by_cases h0 : n = 0
  · have := hlong h0
    exact ⟨0xA0, 0xBF, by simp [h0], by omega, by omega⟩
  · by_cases hD : n = 0xD
    · have := hpair hD
      exact ⟨0x80, 0x9F, by simp [hD], by omega, by omega⟩
    · exact ⟨0x80, 0xBF, by grind, by omega, by omega⟩

/-- The second octet of four is bounded, so that no code is spelt in four octets that needs only three
and none beyond the last. -/
lemma first_four {n k : Nat} (hn : n < 5) (hk : k < 0x40) (hlong : n = 0 → 0x10 ≤ k)
    (hlast : n = 4 → k < 0x10) :
    ∃ low high, first (UInt8.ofNat (n + 0xF0)) = (.inside n low high 2, []) ∧
      low ≤ k + 0x80 ∧ k + 0x80 ≤ high := by
  unfold first
  rw [octet_toNat (by omega)]
  by_cases h0 : n = 0
  · have := hlong h0
    exact ⟨0x90, 0xBF, by simp [h0], by omega, by omega⟩
  · by_cases h4 : n = 4
    · have := hlast h4
      exact ⟨0x80, 0x8F, by simp [h4], by omega, by omega⟩
    · exact ⟨0x80, 0xBF, by grind, by omega, by omega⟩

lemma step_inside {code low high owed k : Nat} (hk : k < 0x40) (hlow : low ≤ k + 0x80)
    (hhigh : k + 0x80 ≤ high) :
    step (.inside code low high owed) (UInt8.ofNat (k + 0x80)) = match owed with
      | 0 => (.start, [Char.ofNat (code * 0x40 + k)])
      | owed + 1 => (.inside (code * 0x40 + k) 0x80 0xBF owed, []) := by
  unfold step
  dsimp only
  rw [octet_toNat (by omega)]
  cases owed <;> simp [hlow, hhigh]

/-- The octets after the first one complete the code, six bits each. -/
lemma read_inside {code low high k : Nat} (bs : List UInt8) (hk : k < 0x40) (hlow : low ≤ k + 0x80)
    (hhigh : k + 0x80 ≤ high) :
    read (.inside code low high 0) (UInt8.ofNat (k + 0x80) :: bs) =
      Char.ofNat (code * 0x40 + k) :: read .start bs := by
  rw [read_step, step_inside hk hlow hhigh]
  rfl

lemma read_inside_owing {code low high owed k : Nat} (bs : List UInt8) (hk : k < 0x40)
    (hlow : low ≤ k + 0x80) (hhigh : k + 0x80 ≤ high) :
    read (.inside code low high (owed + 1)) (UInt8.ofNat (k + 0x80) :: bs) =
      read (.inside (code * 0x40 + k) 0x80 0xBF owed) bs := by
  rw [read_step, step_inside hk hlow hhigh]
  rfl

lemma read_first {b : UInt8} {state : State} (bs : List UInt8) (h : first b = (state, [])) :
    read .start (b :: bs) = read state bs := by
  rw [read_step, step, h]
  rfl

/-! ### One character -/

/-- The octets of a character are read as that character. -/
lemma read_utf8EncodeChar (c : Char) (bs : List UInt8) :
    read .start (String.utf8EncodeChar c ++ bs) = c :: read .start bs := by
  have hvalid : c.toNat < 0xD800 ∨ 0xDFFF < c.toNat ∧ c.toNat < 0x110000 := c.valid
  have hchar : ∀ n, n = c.toNat → Char.ofNat n = c := by
    rintro _ rfl
    exact Char.ofNat_toNat c
  have hcode : c.val.toNat = c.toNat := rfl
  fun_cases String.utf8EncodeChar c with
  | case1 v h =>
    rw [List.singleton_append, read_step, step, first_one (by omega), hchar _ hcode]
    rfl
  | case2 v h h' =>
    change read .start (UInt8.ofNat (c.toNat / 64 % 0x20 + 0xC0) ::
      UInt8.ofNat (c.toNat % 0x40 + 0x80) :: bs) = _
    rw [read_first _ (first_two (by omega) (by omega)), read_inside _ (by omega) (by omega) (by omega),
      hchar _ (by omega)]
  | case3 v h h' h'' =>
    obtain ⟨low, high, hfirst, hlow, hhigh⟩ := first_three (n := c.toNat / 4096 % 0x10)
      (k := c.toNat / 64 % 0x40) (by omega) (by omega) (by omega) (by omega)
    change read .start (UInt8.ofNat (c.toNat / 4096 % 0x10 + 0xE0) ::
      UInt8.ofNat (c.toNat / 64 % 0x40 + 0x80) :: UInt8.ofNat (c.toNat % 0x40 + 0x80) :: bs) = _
    rw [read_first _ hfirst, read_inside_owing _ (by omega) hlow hhigh,
      read_inside _ (by omega) (by omega) (by omega), hchar _ (by omega)]
  | case4 v h h' h'' =>
    obtain ⟨low, high, hfirst, hlow, hhigh⟩ := first_four (n := c.toNat / 262144 % 0x08)
      (k := c.toNat / 4096 % 0x40) (by omega) (by omega) (by omega) (by omega)
    change read .start (UInt8.ofNat (c.toNat / 262144 % 0x08 + 0xF0) ::
      UInt8.ofNat (c.toNat / 4096 % 0x40 + 0x80) :: UInt8.ofNat (c.toNat / 64 % 0x40 + 0x80) ::
        UInt8.ofNat (c.toNat % 0x40 + 0x80) :: bs) = _
    rw [read_first _ hfirst, read_inside_owing _ (by omega) hlow hhigh,
      read_inside_owing _ (by omega) (by omega) (by omega),
      read_inside _ (by omega) (by omega) (by omega), hchar _ (by omega)]

/-- A text that is sent as UTF-8 is read as itself. -/
theorem text_toUTF8 (s : String) : Octets.text s.toUTF8 = s := by
  have hread : ∀ cs : List Char, read .start (cs.flatMap String.utf8EncodeChar) = cs := by
    intro cs
    induction cs with
    | nil => rfl
    | cons c cs ih => rw [List.flatMap_cons, read_utf8EncodeChar, ih]
  rw [Octets.text, toList_toUTF8, hread, String.ofList_toList]

end HubBridge.Proofs
