import HubBridge.Proofs.RequestForms

/-!
# Loosely written names of modules

Whoever means a module may leave out the first letter of its name and put white space around it. The
name is trimmed and completed, and then checked: white space inside is all that it can be refused for.
So nothing at all is taken for a name too, the letter alone, which is no name when it is written
strictly. What comes out is a name that means itself.
-/

namespace HubBridge.Proofs

open Text

/-- The module that is meant by a word. -/
def named (w : String) : ModuleId := ⟨if w.toList.head? = some 'D' then w else "D" ++ w⟩

/-! ### Completed names -/

lemma isWord_initial (w : String) : isWord ("D" ++ w) = !w.toList.any isBlank := by
  have hlist : ("D" ++ w).toList = 'D' :: w.toList := String.toList_append
  have hletter : isBlank 'D' = false := by decide
  rw [isWord, hlist, List.any_cons, hletter, Bool.false_or]
  rfl

lemma named_of_head {w : String} (h : w.toList.head? = some 'D') : named w = ⟨w⟩ := by
  rw [named, if_pos h]

lemma head_named (w : String) : (named w).text.toList.head? = some 'D' := by
  unfold named
  split
  · assumption
  · rw [String.toList_append]
    rfl

/-- No completed name is empty. -/
lemma isWord_named (w : String) : isWord (named w).text = !w.toList.any isBlank := by
  unfold named
  split
  · rename_i hletter
    have hne : w.toList ≠ [] := by
      intro hnil
      rw [hnil] at hletter
      cases hletter
    rw [isWord, List.isEmpty_eq_false_iff.mpr hne]
    rfl
  · exact isWord_initial w

/-! ### Strict and loose reading -/

lemma moduleId_ofText_eq_ok {s : String} {m : ModuleId} :
    ModuleId.ofText s = .ok m ↔ isWord s = true ∧ m = ⟨s⟩ := by
  unfold ModuleId.ofText
  cases isWord s <;> simp [eq_comm]

lemma moduleId_ofText_eq_error {s : String} {fault : Fault} :
    ModuleId.ofText s = .error fault ↔ isWord s = false ∧ fault = .invalidModuleId (quote s) := by
  unfold ModuleId.ofText
  cases isWord s <;> simp [eq_comm]

lemma ofLooseText_eq (s : String) :
    ModuleId.ofLooseText s = ModuleId.ofText (named (trim s)).text := by
  have hletter : ModuleId.initial.toString = "D" := rfl
  unfold ModuleId.ofLooseText named
  dsimp only
  rw [hletter, ModuleId.initial]
  split <;> rfl

lemma ofLooseText_eq_ok {s : String} {m : ModuleId} :
    ModuleId.ofLooseText s = .ok m ↔ isBroken (some s) = false ∧ m = named (trim s) := by
  rw [ofLooseText_eq, moduleId_ofText_eq_ok, isWord_named, isBroken_some, Bool.not_eq_true']

lemma ofLooseText_eq_error {s : String} {fault : Fault} :
    ModuleId.ofLooseText s = .error fault ↔
      isBroken (some s) = true ∧ fault = .invalidModuleId (quote (named (trim s)).text) := by
  rw [ofLooseText_eq, moduleId_ofText_eq_error, isWord_named, isBroken_some, Bool.not_eq_false']

lemma isWord_of_ofLooseText {s : String} {m : ModuleId} (h : ModuleId.ofLooseText s = .ok m) :
    isWord m.text = true := by
  obtain ⟨hwhole, rfl⟩ := ofLooseText_eq_ok.mp h
  rw [isWord_named, ← isBroken_some, hwhole]
  rfl

lemma exists_ofText_eq_error {s : String} :
    (∃ fault, ModuleId.ofText (trim s) = .error fault) ↔
      isAllBlank s = true ∨ isBroken (some s) = true := by
  simp only [moduleId_ofText_eq_error, exists_and_left, exists_eq, and_true, isWord_trim]
  cases isAllBlank s <;> simp

lemma exists_ofLooseText_eq_error {s : String} :
    (∃ fault, ModuleId.ofLooseText s = .error fault) ↔ isBroken (some s) = true := by
  simp only [ofLooseText_eq_error, exists_and_left, exists_eq, and_true]

/-- A name with its first letter means itself, whatever white space is put around it. -/
lemma ofLooseText_padded {m : ModuleId} (hword : isWord m.text = true)
    (hletter : m.text.toList.head? = some 'D') {padded : String} (h : Padded m.text padded) :
    ModuleId.ofLooseText padded = .ok m := by
  have hwhole := (h.part hword "D1").1
  have htrim : trim padded = m.text := by rw [h.trim_eq, (bare_of_isWord hword).trim_eq]
  rw [ofLooseText_eq_ok, htrim, named_of_head hletter]
  exact ⟨hwhole, rfl⟩

/-- A name that is written loosely is refused when the trimmed one is, unless there is nothing in it;
and the name that comes of it, trimmed and completed, is a word and means itself, as does each name
that is a word and has its first letter. -/
theorem loose_name_refused_iff (s : String) :
    (((∃ fault, ModuleId.ofLooseText s = .error fault) ↔
        ∃ fault, ModuleId.ofText (trim s) = .error fault) ↔ isAllBlank s = false) ∧
      (∀ fault, ModuleId.ofLooseText s = .error fault ↔
        isBroken (some s) = true ∧ fault = .invalidModuleId (quote (named (trim s)).text)) ∧
      (∀ m, ModuleId.ofLooseText s = .ok m →
        m.text = (if (trim s).toList.head? = some 'D' then trim s else "D" ++ trim s) ∧
          (∀ c ∈ m.text.toList, isBlank c = false) ∧
          ∀ padded, Padded m.text padded → ModuleId.ofLooseText padded = .ok m) ∧
      (∀ m, ModuleId.ofText s = .ok m → s.toList.head? = some 'D' →
        ModuleId.ofLooseText s = .ok m ∧ m.text = s) := by
  refine ⟨?_, fun fault => ofLooseText_eq_error, ?_, ?_⟩
  · rw [exists_ofLooseText_eq_error, exists_ofText_eq_error]
    cases hblank : isAllBlank s with
    | true =>
      have hwhole : isBroken (some s) = false := isBroken_of_unset (unset_some.mpr hblank)
      simp [hwhole]
    | false => simp
  · intro m h
    have hword := isWord_of_ofLooseText h
    obtain ⟨-, rfl⟩ := ofLooseText_eq_ok.mp h
    refine ⟨?_, (isWord_iff.mp hword).2, fun padded hpadded => ?_⟩
    · rw [named]
    · exact ofLooseText_padded hword (head_named _) hpadded
  · intro m h hletter
    obtain ⟨hword, rfl⟩ := moduleId_ofText_eq_ok.mp h
    exact ⟨ofLooseText_padded hword hletter (padded_self s), rfl⟩

/-- A number that is padded, a name with a blank inside and one that is complete. -/
theorem loose_name_refused_iff_odd :
    isAllBlank "\u30007\t" = false ∧ ModuleId.ofLooseText "\u30007\t" = .ok ⟨"D7"⟩ ∧
      ModuleId.ofLooseText " D7\r\n" = .ok ⟨"D7"⟩ ∧
      ModuleId.ofLooseText "1 2" = .error (.invalidModuleId "\"D1 2\"") ∧
      (∃ fault, ModuleId.ofText (trim "1 2") = .error fault) ∧
      ModuleId.ofLooseText "DD1" = .ok ⟨"DD1"⟩ := by
  have hread : ModuleId.ofLooseText "\u30007\t" = .ok ⟨"D7"⟩ := by decide
  have hagain := ((loose_name_refused_iff "\u30007\t").2.2.1 _ hread).2.2
  obtain ⟨hrefused, hfault, -⟩ := loose_name_refused_iff "1 2"
  have htold : ModuleId.ofLooseText "1 2" = .error (.invalidModuleId "\"D1 2\"") :=
    (hfault _).mpr ⟨by decide, by decide +kernel⟩
  refine ⟨by decide, hread, ?_, htold, ?_, ?_⟩
  · exact hagain _ ⟨" ", "\r\n", by decide, by decide, rfl⟩
  · exact (hrefused.mpr (by decide)).mp ⟨_, htold⟩
  · exact ((loose_name_refused_iff "DD1").2.2.2 _ (by decide) (by decide)).1

/-- Nothing at all is no name, but is taken for one. -/
theorem nothing_taken_for_name :
    (∃ fault, ModuleId.ofText (trim "") = .error fault) ∧
      ¬∃ fault, ModuleId.ofLooseText "" = .error fault := by
  refine ⟨⟨.invalidModuleId (quote ""), by decide⟩, ?_⟩
  rintro ⟨fault, h⟩
  cases h

end HubBridge.Proofs
