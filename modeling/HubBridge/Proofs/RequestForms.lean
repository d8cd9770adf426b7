import HubBridge.Command
import HubBridge.Proofs.Padding

/-!
# The normal form of a request

A request is built from three parts that may be absent, blank or padded. All three are read alike: the
white space around a part is taken off, a part that is absent or blank has its default, and white space
inside makes it broken. What comes out is built of words, and gives itself again however it is padded.
-/

namespace HubBridge.Proofs

open Text

/-- The part has white space inside. -/
def isBroken (part : Option String) : Bool := part.any fun s => (trim s).toList.any isBlank

/-- The text that a part stands for. -/
def meant (default : String) : Option String → String
  | none => default
  | some s => if isAllBlank s then default else trim s

/-- The fault of the first broken part from the left. -/
inductive FirstBroken : Option String → Option String → Option String → Fault → Prop
  | moduleId {s : String} (target action : Option String) (h : isBroken (some s) = true) :
      FirstBroken (some s) target action (.invalidModuleId (quote (trim s)))
  | target {moduleId : Option String} {s : String} (action : Option String)
      (hmodule : isBroken moduleId = false) (h : isBroken (some s) = true) :
      FirstBroken moduleId (some s) action
        (.invalidFormat ("Invalid target: " ++ quote (trim s)))
  | action {moduleId target : Option String} {s : String} (hmodule : isBroken moduleId = false)
      (htarget : isBroken target = false) (h : isBroken (some s) = true) :
      FirstBroken moduleId target (some s)
        (.invalidFormat ("Action must be a single token: " ++ quote (trim s)))

/-- All parts of a request are words. -/
structure Worded (r : Request) : Prop where
  moduleId : isWord r.moduleId.text = true
  target : isWord r.target.text = true
  action : isWord r.action = true

/-! ### One part -/

lemma isBroken_some (s : String) : isBroken (some s) = (trim s).toList.any isBlank := by
  rw [isBroken, Option.any_some]

lemma isWord_trim (s : String) :
    isWord (trim s) = (!isAllBlank s && !isBroken (some s)) := by
  have hempty : (trim s).toList.isEmpty = isAllBlank s := by
    rw [Bool.eq_iff_iff, List.isEmpty_iff, trim_eq_empty]
  rw [isWord, hempty, isBroken_some]

lemma isBroken_of_unset {part : Option String} (h : Unset part) : isBroken part = false := by
  cases part with
  | none => rfl
  | some s =>
    have hnil : (trim s).toList = [] := trim_eq_empty.mpr (h s rfl)
    rw [isBroken_some, hnil, List.any_nil]

lemma meant_of_unset {part : Option String} (h : Unset part) (default : String) :
    meant default part = default := by
  cases part with
  | none => rfl
  | some s => exact if_pos (h s rfl)

lemma given_eq (part : Option String) :
    Request.given part = part.bind fun s => if isAllBlank s then none else some (trim s) := by
  cases part with
  | none => rfl
  | some s =>
    rw [Request.given, Option.map_some, Option.filter_some, isEmpty_trim, Option.bind_some]
    cases isAllBlank s <;> rfl

lemma isWord_meant {default : String} (hdefault : isWord default = true) {part : Option String}
    (h : isBroken part = false) : isWord (meant default part) = true := by
  cases part with
  | none => exact hdefault
  | some s =>
    dsimp only [meant]
    split
    · exact hdefault
    · rename_i hblank
      rw [isWord_trim, h, Bool.eq_false_iff.mpr hblank]
      rfl

/-- A word with white space around it is no broken part, and stands for itself. -/
lemma Padded.part {w padded : String} (h : Padded w padded) (hw : isWord w = true)
    (default : String) : isBroken (some padded) = false ∧ meant default (some padded) = w := by
  have htrim : trim padded = w := by rw [h.trim_eq, (bare_of_isWord hw).trim_eq]
  have hparts := isWord_trim padded
  rw [htrim, hw, eq_comm, Bool.and_eq_true, Bool.not_eq_true', Bool.not_eq_true'] at hparts
  obtain ⟨hblank, hbroken⟩ := hparts
  refine ⟨hbroken, ?_⟩
  rw [meant, hblank, htrim]
  rfl

/-- A part that is checked by `make` if there is one, and has its default if not. -/
def readPart {α : Type} (make : String → Except Fault α) (default : α) (part : Option String) :
    Except Fault α :=
  match Request.given part with
  | some s => make s
  | none => .ok default

section ReadPart

variable {α : Type} {make : String → Except Fault α}

lemma readPart_unset (default : α) {part : Option String} (h : Unset part) :
    readPart make default part = .ok default := by
  unfold readPart
  rw [given_eq]
  cases part with
  | none => rfl
  | some s => rw [Option.bind_some, if_pos (h s rfl)]

lemma readPart_set (default : α) {s : String} (h : isAllBlank s = false) :
    readPart make default (some s) = make (trim s) := by
  unfold readPart
  rw [given_eq, Option.bind_some, if_neg (Bool.eq_false_iff.mp h)]

lemma readPart_whole (build : String → α)
    (hmake : ∀ w, isWord w = true → make w = .ok (build w)) (default : String)
    {part : Option String} (h : isBroken part = false) :
    readPart make (build default) part = .ok (build (meant default part)) := by
  by_cases hset : Unset part
  · rw [readPart_unset _ hset, meant_of_unset hset]
  · obtain ⟨s, rfl, hblank⟩ := exists_of_set hset
    have hword : isWord (trim s) = true := by
      rw [isWord_trim, hblank, h]
      rfl
    rw [readPart_set _ hblank, hmake _ hword, meant, if_neg (Bool.eq_false_iff.mp hblank)]

lemma readPart_broken (complain : String → Fault)
    (hmake : ∀ w, isWord w = false → make w = .error (complain w)) (default : α) {s : String}
    (h : isBroken (some s) = true) : readPart make default (some s) = .error (complain (trim s)) := by
  have hset : ¬Unset (some s) := by
    intro hunset
    rw [isBroken_of_unset hunset] at h
    cases h
  have hword : isWord (trim s) = false := by
    rw [isWord_trim, h, Bool.not_true, Bool.and_false]
  rw [readPart_set _ (Bool.eq_false_iff.mpr (mt unset_some.mpr hset)), hmake _ hword]

end ReadPart

/-! ### The three parts -/

lemma ok_bind {ε α β : Type} (a : α) (f : α → Except ε β) : (.ok a >>= f) = f a := rfl

lemma error_bind {ε α β : Type} (e : ε) (f : α → Except ε β) : (.error e >>= f) = .error e := rfl

lemma ofParts_eq (moduleId target action : Option String) :
    Request.ofParts moduleId target action =
      readPart ModuleId.ofText .default moduleId >>= fun m =>
        readPart Target.ofText .default target >>= fun t =>
          Request.ofAction m t (action.getD queryAction) := by
  unfold Request.ofParts readPart
  cases Request.given moduleId <;> cases Request.given target <;> rfl

lemma readModule_whole {part : Option String} (h : isBroken part = false) :
    readPart ModuleId.ofText .default part = .ok ⟨meant "D1" part⟩ :=
  readPart_whole ModuleId.mk (fun _ => moduleId_ofText_word) "D1" h

lemma readModule_broken {s : String} (h : isBroken (some s) = true) :
    readPart ModuleId.ofText .default (some s) = .error (.invalidModuleId (quote (trim s))) :=
  readPart_broken (fun w => .invalidModuleId (quote w))
    (fun w hw => by rw [ModuleId.ofText, hw]; rfl) _ h

lemma readTarget_whole {part : Option String} (h : isBroken part = false) :
    readPart Target.ofText .default part = .ok ⟨meant "D0" part⟩ :=
  readPart_whole Target.mk (fun _ => target_ofText_word) "D0" h

lemma readTarget_broken {s : String} (h : isBroken (some s) = true) :
    readPart Target.ofText .default (some s) =
      .error (.invalidFormat ("Invalid target: " ++ quote (trim s))) :=
  readPart_broken (fun w => .invalidFormat ("Invalid target: " ++ quote w))
    (fun w hw => by rw [Target.ofText, hw]; rfl) _ h

lemma ofAction_some (m : ModuleId) (target : Target) {s : String}
    (h : isBroken (some s) = false) :
    Request.ofAction m target s = .ok ⟨m, target, meant queryAction (some s)⟩ := by
  rw [isBroken_some] at h
  unfold Request.ofAction meant
  dsimp only
  rw [h, isEmpty_trim]
  cases isAllBlank s <;> rfl

lemma ofAction_whole (m : ModuleId) (target : Target) {action : Option String}
    (h : isBroken action = false) :
    Request.ofAction m target (action.getD queryAction) =
      .ok ⟨m, target, meant queryAction action⟩ := by
  cases action with
  | none =>
    have hquery : meant queryAction (some queryAction) = queryAction := by decide
    rw [Option.getD_none, ofAction_some m target (by decide), hquery, meant]
  | some s => exact ofAction_some m target h

lemma ofAction_broken (m : ModuleId) (target : Target) {s : String}
    (h : isBroken (some s) = true) :
    Request.ofAction m target s =
      .error (.invalidFormat ("Action must be a single token: " ++ quote (trim s))) := by
  rw [isBroken_some] at h
  unfold Request.ofAction
  dsimp only
  rw [h]
  rfl

lemma ofParts_whole {moduleId target action : Option String} (hmodule : isBroken moduleId = false)
    (htarget : isBroken target = false) (haction : isBroken action = false) :
    Request.ofParts moduleId target action =
      .ok ⟨⟨meant "D1" moduleId⟩, ⟨meant "D0" target⟩, meant "STATUS" action⟩ := by
  rw [ofParts_eq, readModule_whole hmodule, readTarget_whole htarget, ok_bind, ok_bind,
    ofAction_whole _ _ haction]
  rfl

lemma FirstBroken.ofParts {moduleId target action : Option String} {fault : Fault}
    (h : FirstBroken moduleId target action fault) :
    Request.ofParts moduleId target action = .error fault := by
  rw [ofParts_eq]
  cases h with
  | moduleId target action h =>
    rw [readModule_broken h, error_bind]
  | target action hmodule h =>
    rw [readModule_whole hmodule, readTarget_broken h, ok_bind, error_bind]
  | action hmodule htarget h =>
    rw [readModule_whole hmodule, readTarget_whole htarget, ok_bind, ok_bind, Option.getD_some,
      ofAction_broken _ _ h]

lemma ofParts_cases (moduleId target action : Option String) :
    (isBroken moduleId = false ∧ isBroken target = false ∧ isBroken action = false) ∨
      ∃ fault, FirstBroken moduleId target action fault := by
  have hbroken : ∀ part, isBroken part = false ∨ ∃ s, part = some s ∧ isBroken (some s) = true := by
    intro part
    cases part with
    | none => exact .inl rfl
    | some s =>
      cases h : isBroken (some s) with
      | false => exact .inl rfl
      | true => exact .inr ⟨s, rfl, h⟩
  obtain hmodule | ⟨s, rfl, hmodule⟩ := hbroken moduleId
  · obtain htarget | ⟨s, rfl, htarget⟩ := hbroken target
    · obtain haction | ⟨s, rfl, haction⟩ := hbroken action
      · exact .inl ⟨hmodule, htarget, haction⟩
      · exact .inr ⟨_, .action hmodule htarget haction⟩
    · exact .inr ⟨_, .target action hmodule htarget⟩
  · exact .inr ⟨_, .moduleId target action hmodule⟩

theorem ofParts_eq_ok_iff {moduleId target action : Option String} {r : Request} :
    Request.ofParts moduleId target action = .ok r ↔
      (isBroken moduleId = false ∧ isBroken target = false ∧ isBroken action = false) ∧
        r = ⟨⟨meant "D1" moduleId⟩, ⟨meant "D0" target⟩, meant "STATUS" action⟩ := by
  obtain ⟨hmodule, htarget, haction⟩ | ⟨fault, hfault⟩ := ofParts_cases moduleId target action
  · rw [ofParts_whole hmodule htarget haction, Except.ok.injEq, eq_comm (b := r)]
    exact (and_iff_right ⟨hmodule, htarget, haction⟩).symm
  · rw [hfault.ofParts]
    constructor
    · intro h
      cases h
    · rintro ⟨⟨hmodule, htarget, haction⟩, -⟩
      have hok := ofParts_whole hmodule htarget haction
      rw [hfault.ofParts] at hok
      cases hok

theorem ofParts_eq_error_iff {moduleId target action : Option String} {fault : Fault} :
    Request.ofParts moduleId target action = .error fault ↔
      FirstBroken moduleId target action fault := by
  refine ⟨fun h => ?_, FirstBroken.ofParts⟩
  obtain ⟨hmodule, htarget, haction⟩ | ⟨first, hfirst⟩ := ofParts_cases moduleId target action
  · rw [ofParts_whole hmodule htarget haction] at h
    cases h
  · rw [hfirst.ofParts] at h
    cases h
    exact hfirst

/-! ### The form of what is built -/

/-- The parts are the same, or neither says anything. -/
def Alike (part other : Option String) : Prop := part = other ∨ Unset part ∧ Unset other

/-- The request is made of words, and each way of building one from its parts gives it again. -/
structure NormalForm (r : Request) : Prop where
  worded : Worded r
  again : Request.ofParts (some r.moduleId.text) (some r.target.text) (some r.action) = .ok r
  padded : ∀ moduleId target action, Padded r.moduleId.text moduleId →
    Padded r.target.text target → Padded r.action action →
    Request.ofParts (some moduleId) (some target) (some action) = .ok r
  ofAction : Request.ofAction r.moduleId r.target r.action = .ok r
  status : r.target = .default → r.action = "STATUS" → Request.status r.moduleId = r

lemma readPart_alike {α : Type} (make : String → Except Fault α) (default : α)
    {part other : Option String} (h : Alike part other) :
    readPart make default part = readPart make default other := by
  obtain rfl | ⟨hpart, hother⟩ := h
  · rfl
  · rw [readPart_unset _ hpart, readPart_unset _ hother]

lemma ofAction_alike (m : ModuleId) (target : Target) {action other : Option String}
    (h : Alike action other) : Request.ofAction m target (action.getD queryAction) =
      Request.ofAction m target (other.getD queryAction) := by
  obtain rfl | ⟨haction, hother⟩ := h
  · rfl
  · rw [ofAction_whole m target (isBroken_of_unset haction),
      ofAction_whole m target (isBroken_of_unset hother), meant_of_unset haction,
      meant_of_unset hother]

lemma Worded.padded {r : Request} (h : Worded r) {moduleId target action : String}
    (hmodule : Padded r.moduleId.text moduleId) (htarget : Padded r.target.text target)
    (haction : Padded r.action action) :
    Request.ofParts (some moduleId) (some target) (some action) = .ok r := by
  obtain ⟨hm, hmeant⟩ := hmodule.part h.moduleId "D1"
  obtain ⟨ht, htmeant⟩ := htarget.part h.target "D0"
  obtain ⟨ha, hameant⟩ := haction.part h.action "STATUS"
  rw [ofParts_whole hm ht ha, hmeant, htmeant, hameant]

lemma Worded.normalForm {r : Request} (h : Worded r) : NormalForm r where
  worded := h
  again := h.padded (padded_self _) (padded_self _) (padded_self _)
  padded _ _ _ hmodule htarget haction := h.padded hmodule htarget haction
  ofAction := by
    obtain ⟨ha, hmeant⟩ := (padded_self r.action).part h.action queryAction
    rw [ofAction_some _ _ ha, hmeant]
  status htarget haction := by
    obtain ⟨m, target, action⟩ := r
    dsimp only at htarget haction
    rw [htarget, haction]
    rfl

lemma worded_of_ofParts {moduleId target action : Option String} {r : Request}
    (h : Request.ofParts moduleId target action = .ok r) : Worded r := by
  obtain ⟨⟨hmodule, htarget, haction⟩, rfl⟩ := ofParts_eq_ok_iff.mp h
  exact ⟨isWord_meant (by decide) hmodule, isWord_meant (by decide) htarget,
    isWord_meant (by decide) haction⟩

/-- A request is built unless a part is broken, of which the first is told; parts that say nothing are
as good as none; and what is built is in normal form. -/
theorem request_normal_form (moduleId target action : Option String) :
    ((∃ r, Request.ofParts moduleId target action = .ok r) ↔
      isBroken moduleId = false ∧ isBroken target = false ∧ isBroken action = false) ∧
    (∀ fault, Request.ofParts moduleId target action = .error fault ↔
      FirstBroken moduleId target action fault) ∧
    (∀ moduleId' target' action', Alike moduleId moduleId' → Alike target target' →
      Alike action action' →
      Request.ofParts moduleId target action = Request.ofParts moduleId' target' action') ∧
    ∀ r, Request.ofParts moduleId target action = .ok r →
      r = ⟨⟨meant "D1" moduleId⟩, ⟨meant "D0" target⟩, meant "STATUS" action⟩ ∧ NormalForm r := by
  refine ⟨?_, fun fault => ofParts_eq_error_iff, ?_, ?_⟩
  · constructor
    · rintro ⟨r, h⟩
      exact (ofParts_eq_ok_iff.mp h).1
    · rintro ⟨hmodule, htarget, haction⟩
      exact ⟨_, ofParts_whole hmodule htarget haction⟩
  · intro moduleId' target' action' hmodule htarget haction
    have hactions : ∀ m t, Request.ofAction m t (action.getD queryAction) =
        Request.ofAction m t (action'.getD queryAction) := fun m t => ofAction_alike m t haction
    rw [ofParts_eq, ofParts_eq, readPart_alike _ _ hmodule, readPart_alike _ _ htarget]
    simp only [hactions]
  · intro r h
    exact ⟨(ofParts_eq_ok_iff.mp h).2, (worded_of_ofParts h).normalForm⟩

/-- The target is blank, and the other two parts have white space around them. -/
theorem request_normal_form_loose :
    Request.ofParts (some "\u3000D7 ") (some "\t") (some "LOCK\n") =
        Request.ofParts (some "\u3000D7 ") none (some "LOCK\n") ∧
      Request.ofParts (some "D7\r\n") (some " D0") (some "\u2003LOCK") =
        .ok ⟨⟨"D7"⟩, ⟨"D0"⟩, "LOCK"⟩ ∧
      Request.ofParts (some "D7") (some "D 0") (some "LOCK NOW") =
        .error (.invalidFormat "Invalid target: \"D 0\"") := by
  have hread : Request.ofParts (some "\u3000D7 ") (some "\t") (some "LOCK\n") =
      .ok ⟨⟨"D7"⟩, ⟨"D0"⟩, "LOCK"⟩ := by decide +kernel
  obtain ⟨-, -, halike, hnormal⟩ :=
    request_normal_form (some "\u3000D7 ") (some "\t") (some "LOCK\n")
  refine ⟨halike _ _ _ (.inl rfl) (.inr ?_) (.inl rfl), ?_, ?_⟩
  · exact ⟨unset_some.mpr (by decide), fun s hs => nomatch hs⟩
  · exact (hnormal _ hread).2.padded _ _ _ ⟨"", "\r\n", by decide, by decide, rfl⟩
      ⟨" ", "", by decide, by decide, rfl⟩ ⟨"\u2003", "", by decide, by decide, rfl⟩
  · exact ((request_normal_form (some "D7") (some "D 0") (some "LOCK NOW")).2.1 _).mpr
      (.target _ (by decide) (by decide))

end HubBridge.Proofs
