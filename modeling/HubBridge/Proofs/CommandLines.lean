import HubBridge.Proofs.LooseNames
import HubBridge.Proofs.Messages

/-!
# Commands on the wire

All parts of a command are words, so that its datagram holds one newline, at its end, and is cut into
the same words by whoever reads it. No two commands look alike, not even when many stand in one buffer;
and a hub that answers with the words it was sent answers just that command.
-/

namespace HubBridge.Proofs

open Text

/-! ### Checked parts are words -/

inductive CheckedModule : ModuleId → Prop
  | default : CheckedModule .default
  | ofText {s : String} {m : ModuleId} (h : ModuleId.ofText s = .ok m) : CheckedModule m
  | ofLooseText {s : String} {m : ModuleId} (h : ModuleId.ofLooseText s = .ok m) : CheckedModule m

inductive CheckedTarget : Target → Prop
  | default : CheckedTarget .default
  | ofText {s : String} {target : Target} (h : Target.ofText s = .ok target) : CheckedTarget target

/-- The ways to a request. -/
inductive Built : Request → Prop
  | ofParts {moduleId target action : Option String} {r : Request}
      (h : Request.ofParts moduleId target action = .ok r) : Built r
  | ofAction {m : ModuleId} {target : Target} {action : String} {r : Request}
      (hm : CheckedModule m) (htarget : CheckedTarget target)
      (h : Request.ofAction m target action = .ok r) : Built r
  | status {m : ModuleId} (hm : CheckedModule m) : Built (.status m)

lemma CheckedModule.isWord {m : ModuleId} (h : CheckedModule m) : isWord m.text = true := by
  cases h with
  | default => decide
  | ofText h =>
    obtain ⟨hword, rfl⟩ := moduleId_ofText_eq_ok.mp h
    exact hword
  | ofLooseText h => exact isWord_of_ofLooseText h

lemma CheckedTarget.isWord {target : Target} (h : CheckedTarget target) :
    isWord target.text = true := by
  cases h with
  | default => decide
  | ofText h =>
    unfold Target.ofText at h
    split at h
    · cases h
      assumption
    · cases h

lemma worded_of_ofAction {m : ModuleId} {target : Target} {action : String} {r : Request}
    (hm : isWord m.text = true) (htarget : isWord target.text = true)
    (h : Request.ofAction m target action = .ok r) : Worded r := by
  cases haction : isBroken (some action) with
  | true =>
    rw [ofAction_broken m target haction] at h
    cases h
  | false =>
    rw [ofAction_some m target haction] at h
    cases h
    exact ⟨hm, htarget, isWord_meant (by decide) haction⟩

lemma Built.worded {r : Request} (h : Built r) : Worded r := by
  cases h with
  | ofParts h => exact worded_of_ofParts h
  | ofAction hm htarget h => exact worded_of_ofAction hm.isWord htarget.isWord h
  | status hm =>
    have hdefaults : isWord Target.default.text = true ∧ isWord queryAction = true := by decide
    exact ⟨hm.isWord, hdefaults.1, hdefaults.2⟩

/-! ### One newline -/

def newline : UInt8 := 10

lemma newline_notMem_utf8EncodeChar {c : Char} (h : c ≠ '\n') :
    newline ∉ String.utf8EncodeChar c := by
  have hne : ∀ n, n < 256 → n ≠ 10 → newline ≠ UInt8.ofNat n := by
    intro n hn hten heq
    apply hten
    rw [← octet_toNat hn, ← heq]
    rfl
  have hchar : c.toNat ≠ 10 := fun hten => h (Char.toNat_inj.mp hten)
  have hcode : c.val.toNat = c.toNat := rfl
  fun_cases String.utf8EncodeChar c with
  | case1 v hsmall =>
    have hbyte : c.val.toNat.toUInt8 = UInt8.ofNat c.toNat := rfl
    simp only [List.mem_singleton]
    exact hne c.toNat (by omega) hchar
  | case2 v _ _ =>
    simp only [List.mem_cons, List.not_mem_nil, or_false, not_or]
    exact ⟨hne _ (by omega) (by omega), hne _ (by omega) (by omega)⟩
  | case3 v _ _ _ =>
    simp only [List.mem_cons, List.not_mem_nil, or_false, not_or]
    exact ⟨hne _ (by omega) (by omega), hne _ (by omega) (by omega), hne _ (by omega) (by omega)⟩
  | case4 v _ _ _ =>
    simp only [List.mem_cons, List.not_mem_nil, or_false, not_or]
    exact ⟨hne _ (by omega) (by omega), hne _ (by omega) (by omega), hne _ (by omega) (by omega),
      hne _ (by omega) (by omega)⟩

lemma newline_notMem_toUTF8 {s : String} (h : '\n' ∉ s.toList) : newline ∉ s.toUTF8.toList := by
  rw [toList_toUTF8, List.mem_flatMap]
  rintro ⟨c, hc, hmem⟩
  refine newline_notMem_utf8EncodeChar ?_ hmem
  rintro rfl
  exact h hc

lemma newline_notMem_unwords {ws : List String} (hws : ∀ w ∈ ws, isWord w = true) :
    '\n' ∉ (unwords ws).toList := by
  have hblank : isBlank '\n' = true := by decide
  have hword : ∀ {w}, isWord w = true → '\n' ∉ w.toList := by
    intro w hw hmem
    have hwhole := (isWord_iff.mp hw).2 '\n' hmem
    rw [hblank] at hwhole
    cases hwhole
  induction ws with
  | nil => simp [unwords]
  | cons w ws ih =>
    obtain ⟨hw, hlater⟩ := List.forall_mem_cons.mp hws
    by_cases h : ws = []
    · rw [h, toList_unwords_singleton]
      exact hword hw
    · rw [toList_unwords_cons w h, List.mem_append, List.mem_cons, not_or, not_or]
      exact ⟨hword hw, by decide, ih hlater⟩

/-- The words of a command. -/
def commandWords (c : Command) : List String :=
  [c.moduleId.text, commandKind, c.id.toText, c.target.text, c.action]

lemma line_eq (c : Command) : c.line = unwords (commandWords c) := rfl

lemma Worded.areWords {r : Request} (h : Worded r) (id : CorrelationId) :
    ∀ w ∈ commandWords (r.toCommand id), isWord w = true := by
  have hkind : isWord commandKind = true := by decide
  unfold commandWords
  simp only [List.forall_mem_cons]
  exact ⟨h.moduleId, hkind, isWord_toText id, h.target, h.action, by simp⟩

lemma toList_encode (c : Command) : c.encode.toList = c.line.toUTF8.toList ++ [newline] := by
  rw [Command.encode, toList_toUTF8, toList_toUTF8, String.toList_append, List.flatMap_append]
  rfl

lemma Worded.newline_notMem {r : Request} (h : Worded r) (id : CorrelationId) :
    newline ∉ (r.toCommand id).line.toUTF8.toList :=
  newline_notMem_toUTF8 (newline_notMem_unwords (h.areWords id))

/-! ### How a command is read -/

lemma fromUTF8?_encode (c : Command) : String.fromUTF8? c.encode = some (c.line ++ "\n") :=
  fromUTF8?_eq_some.mpr rfl

lemma Worded.trim_terminated {r : Request} (h : Worded r) (id : CorrelationId) :
    trim ((r.toCommand id).line ++ "\n") = (r.toCommand id).line := by
  have hpadded := @trim_padded "" "\n" (by decide) (by decide) (r.toCommand id).line
  rw [String.empty_append] at hpadded
  rw [hpadded, line_eq]
  exact trim_unwords (h.areWords id)

lemma Worded.words_terminated {r : Request} (h : Worded r) (id : CorrelationId) :
    words ((r.toCommand id).line ++ "\n") = commandWords (r.toCommand id) := by
  rw [← words_trim, h.trim_terminated id, line_eq]
  exact words_unwords (h.areWords id)

/-- No kind of message is called like a command. -/
lemma not_composed_command {raw : String} {c : Command} {message : Message} :
    ¬Composed raw (commandWords c) message := by
  intro h
  have hkind : ∀ kind : String, kind ∈ ["FEEDBACK", "EVENT", "HEARTBEAT", "HELLO"] →
      commandKind ≠ kind := by
    decide
  generalize hws : commandWords c = ws at h
  cases h with
  | feedback | event | heartbeat | hello =>
    simp only [commandWords, List.cons.injEq] at hws
    exact hkind _ (by simp) hws.2.1

lemma Worded.ofDatagram_encode {r : Request} (h : Worded r) (id : CorrelationId) :
    Message.ofDatagram (r.toCommand id).encode = .raw (r.toCommand id).line := by
  rw [Message.ofDatagram, fromUTF8?_encode]
  dsimp only
  rw [ofLine_of_not_composed, h.trim_terminated id]
  intro message
  rw [h.words_terminated id]
  exact not_composed_command

/-! ### Commands apart and in one buffer -/

lemma toUTF8_toList_inj {s other : String} (h : s.toUTF8.toList = other.toUTF8.toList) :
    s = other := by
  rw [octets_toList, octets_toList, Array.toList_inj] at h
  exact String.toByteArray_inj.mp (ByteArray.ext h)

lemma commandWords_injective : Function.Injective commandWords := by
  intro c other h
  obtain ⟨⟨m⟩, id, ⟨target⟩, action⟩ := c
  obtain ⟨⟨m'⟩, id', ⟨target'⟩, action'⟩ := other
  simp only [commandWords, List.cons.injEq, and_true, true_and] at h
  obtain ⟨rfl, hid, rfl, rfl⟩ := h
  rw [toText_injective hid]

lemma toCommand_injective {r r' : Request} {id id' : CorrelationId}
    (h : r.toCommand id = r'.toCommand id') : r = r' ∧ id = id' := by
  obtain ⟨m, target, action⟩ := r
  obtain ⟨m', target', action'⟩ := r'
  cases h
  exact ⟨rfl, rfl⟩

lemma Worded.line_injective {r r' : Request} {id id' : CorrelationId} (h : Worded r)
    (h' : Worded r') (hline : (r.toCommand id).line = (r'.toCommand id').line) :
    r = r' ∧ id = id' := by
  apply toCommand_injective
  apply commandWords_injective
  rw [← h.words_terminated id, ← h'.words_terminated id', hline]

/-- The first stop ends the first piece. -/
lemma append_stop_inj {α : Type} {stop : α} {piece piece' rest rest' : List α} (h : stop ∉ piece)
    (h' : stop ∉ piece') (heq : piece ++ stop :: rest = piece' ++ stop :: rest') :
    piece = piece' ∧ rest = rest' := by
  induction piece generalizing piece' with
  | nil =>
    cases piece' with
    | nil =>
      cases heq
      exact ⟨rfl, rfl⟩
    | cons x piece' =>
      cases heq
      exact absurd List.mem_cons_self h'
  | cons x piece ih =>
    cases piece' with
    | nil =>
      cases heq
      exact absurd List.mem_cons_self h
    | cons x' piece' =>
      obtain ⟨rfl, hlater⟩ := List.cons_eq_cons.mp heq
      obtain ⟨rfl, rfl⟩ :=
        ih (List.not_mem_of_not_mem_cons h) (List.not_mem_of_not_mem_cons h') hlater
      exact ⟨rfl, rfl⟩

/-- A buffer in which the datagrams of commands stand one after the other. -/
def buffered (sent : List (Request × CorrelationId)) : ByteArray :=
  sent.foldl (fun buffer p => buffer ++ (p.1.toCommand p.2).encode) .empty

lemma toList_buffered (sent : List (Request × CorrelationId)) :
    (buffered sent).toList = sent.flatMap fun p => (p.1.toCommand p.2).encode.toList := by
  have hfold : ∀ buffer : ByteArray,
      (sent.foldl (fun buffer p => buffer ++ (p.1.toCommand p.2).encode) buffer).toList =
        buffer.toList ++ sent.flatMap fun p => (p.1.toCommand p.2).encode.toList := by
    induction sent with
    | nil => simp
    | cons p sent ih =>
      intro buffer
      rw [List.foldl_cons, ih, octets_toList (_ ++ _), ByteArray.toList_data_append,
        ← octets_toList, ← octets_toList, List.flatMap_cons, List.append_assoc]
  rw [buffered, hfold, octets_toList]
  rfl

lemma buffered_injective {sent other : List (Request × CorrelationId)}
    (hsent : ∀ p ∈ sent, Worded p.1) (hother : ∀ p ∈ other, Worded p.1)
    (h : buffered sent = buffered other) : sent = other := by
  have hlists := congrArg ByteArray.toList h
  rw [toList_buffered, toList_buffered] at hlists
  clear h
  induction sent generalizing other with
  | nil =>
    cases other with
    | nil => rfl
    | cons p other =>
      rw [List.flatMap_nil, List.flatMap_cons, toList_encode] at hlists
      simp at hlists
  | cons p sent ih =>
    cases other with
    | nil =>
      rw [List.flatMap_nil, List.flatMap_cons, toList_encode] at hlists
      simp at hlists
    | cons p' other =>
      obtain ⟨hp, hsent⟩ := List.forall_mem_cons.mp hsent
      obtain ⟨hp', hother⟩ := List.forall_mem_cons.mp hother
      simp only [List.flatMap_cons, toList_encode, List.append_assoc, List.singleton_append]
        at hlists
      obtain ⟨hline, hrest⟩ :=
        append_stop_inj (hp.newline_notMem p.2) (hp'.newline_notMem p'.2) hlists
      obtain ⟨hr, hid⟩ := hp.line_injective hp' (toUTF8_toList_inj hline)
      have hrest' : sent = other := ih hsent hother (by simpa only [toList_encode] using hrest)
      rw [Prod.ext hr hid, hrest']

/-! ### Answers -/

/-- The line answers the command with the words that it was sent, and with these actions. -/
def AnswerTo (c : Command) (actions : List String) (line : String) : Prop :=
  actions ≠ [] ∧ words line = c.moduleId.text :: feedbackKind :: c.id.toText :: c.target.text :: actions

/-- What the session makes of an answer: the command waits no longer, whoever asked for it is told the
reply, and all others wait on. -/
structure Answered (s : Session) (time : Int) (c : Command) (actions : List String) (line : String)
    (entry : PendingCommand Party) : Prop where
  ended : (s.handle time (.ofDatagram line.toUTF8)).pending.get? c.id = none
  others : ∀ id, id ≠ c.id →
    (s.handle time (.ofDatagram line.toUTF8)).pending.get? id = s.pending.get? id
  told : (replied s.pending (.ofDatagram line.toUTF8)).2 = some ⟨entry.requester,
    .commandFeedback c.moduleId c.id c.target (Reading.ofAction (unwords actions)).status
      (unwords actions) (trim line)⟩

lemma AnswerTo.ofDatagram {c : Command} {actions : List String} {line : String}
    (h : AnswerTo c actions line) : Message.ofDatagram line.toUTF8 =
      .feedback c.moduleId c.id c.target (unwords actions) (trim line) := by
  obtain ⟨hne, hwords⟩ := h
  exact ofDatagram_of_spelt (.intro line (words_eq_iff.mp hwords)
    (.feedback c.moduleId c.id c.target (writes_toText c.id) hne))

lemma AnswerTo.answered {c : Command} {actions : List String} {line : String}
    (h : AnswerTo c actions line) {s : Session} (time : Int) {entry : PendingCommand Party}
    (hentry : s.pending.get? c.id = some entry) : Answered s time c actions line entry := by
  have hreply : replyId (.ofDatagram line.toUTF8) = some c.id := by
    rw [h.ofDatagram]
    rfl
  refine ⟨?_, ?_, ?_⟩
  · rw [get?_handle, if_pos hreply]
  · intro id hid
    have hother : replyId (.ofDatagram line.toUTF8) ≠ some id := by
      rw [hreply, Ne, Option.some_inj]
      exact Ne.symm hid
    rw [get?_handle, if_neg hother]
  · rw [replied_snd, h.ofDatagram, replyEvent, Option.bind_some, hentry, Option.map_some]

/-- Nobody takes the command for anything else, and an answer in its own words ends it. -/
structure Unmistakable (c : Command) : Prop where
  oneNewline : ∃ octets, c.encode.toList = octets ++ [newline] ∧ newline ∉ octets
  words : ∃ line, String.fromUTF8? c.encode = some line ∧
    words line = [c.moduleId.text, "COMMAND", toString c.id.value.toNat, c.target.text, c.action]
  raw : Message.ofDatagram c.encode = .raw c.line
  answer : ∀ actions line, AnswerTo c actions line →
    Message.ofDatagram line.toUTF8 =
        .feedback c.moduleId c.id c.target (unwords actions) (trim line) ∧
      ∀ (s : Session) (time : Int) (entry : PendingCommand Party),
        s.pending.get? c.id = some entry → Answered s time c actions line entry

/-- Every command that is built is read as what it is, alone or in a buffer with others, and its
answers are told from those to any other. -/
theorem commands_unmistakable :
    (∀ (r : Request) (id : CorrelationId), Built r → Unmistakable (r.toCommand id)) ∧
    (∀ (r r' : Request) (id id' : CorrelationId), Built r → Built r' →
      (r.toCommand id).encode = (r'.toCommand id').encode → r = r' ∧ id = id') ∧
    ∀ sent other : List (Request × CorrelationId), (∀ p ∈ sent, Built p.1) →
      (∀ p ∈ other, Built p.1) → buffered sent = buffered other → sent = other := by
  refine ⟨?_, ?_, ?_⟩
  · intro r id hr
    have hworded := hr.worded
    exact
      { oneNewline := ⟨_, toList_encode _, hworded.newline_notMem id⟩
        words := ⟨_, fromUTF8?_encode _, hworded.words_terminated id⟩
        raw := hworded.ofDatagram_encode id
        answer := fun actions line h =>
          ⟨h.ofDatagram, fun s time entry hentry => h.answered time hentry⟩ }
  · intro r r' id id' hr hr' hencode
    have hlines : (r.toCommand id).line ++ "\n" = (r'.toCommand id').line ++ "\n" :=
      String.toByteArray_inj.mp hencode
    exact hr.worded.line_injective hr'.worded (String.append_left_inj _ |>.mp hlines)
  · intro sent other hsent hother h
    exact buffered_injective (fun p hp => (hsent p hp).worded) (fun p hp => (hother p hp).worded) h

/-- To open door `D7`. -/
def opening : Request := ⟨⟨"D7"⟩, .default, "OPEN"⟩

/-- The session in which observer 1 has just asked for it, as the command 11. -/
def askedSession : Session :=
  ({ Session.start ⟨5000, .default⟩ with nextId := ⟨11⟩ }.reserve opening
    (some (.observer ⟨1⟩))).1

theorem commands_unmistakable_opening :
    newline ∉ (opening.toCommand ⟨11⟩).line.toUTF8.toList ∧
      (opening.toCommand ⟨1⟩).encode ≠ (opening.toCommand ⟨11⟩).encode ∧
      buffered [(opening, ⟨1⟩), (.status .default, ⟨11⟩)] ≠
        buffered [(opening, ⟨11⟩), (.status .default, ⟨1⟩)] ∧
      (askedSession.handle 0 (.ofDatagram "D7 FEEDBACK\t11 D0  OPEN UNLOCKED\r\n".toUTF8)).pending.get?
        ⟨11⟩ = none := by
  have hopening : Built opening :=
    .ofParts (show Request.ofParts (some " D7") none (some "OPEN\n") = .ok opening by decide +kernel)
  have hstatus : Built (.status .default) := .status .default
  have hwaits : askedSession.pending.get? ⟨11⟩ =
      some ⟨opening.toCommand ⟨11⟩, .observer ⟨1⟩, 5000, 0⟩ := by
    rfl
  have hanswer : AnswerTo (opening.toCommand ⟨11⟩) ["OPEN", "UNLOCKED"]
      "D7 FEEDBACK\t11 D0  OPEN UNLOCKED\r\n" := by
    unfold AnswerTo
    decide +kernel
  obtain ⟨hunmistakable, hapart, hbuffers⟩ := commands_unmistakable
  have h := hunmistakable opening ⟨11⟩ hopening
  refine ⟨?_, ?_, ?_, ?_⟩
  · obtain ⟨octets, hencode, hnone⟩ := h.oneNewline
    rw [toList_encode] at hencode
    rwa [(List.append_left_inj _).mp hencode]
  · intro hsame
    have hids := (hapart _ _ _ _ hopening hopening hsame).2
    revert hids
    decide
  · intro hsame
    have hlists := hbuffers _ _ (by simp [hopening, hstatus]) (by simp [hopening, hstatus]) hsame
    revert hlists
    decide +kernel
  · exact ((h.answer _ _ hanswer).2 askedSession 0 _ hwaits).ended

end HubBridge.Proofs
