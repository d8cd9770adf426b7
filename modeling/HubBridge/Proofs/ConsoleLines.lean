import HubBridge.Console.Order
import HubBridge.Proofs.CommandLines

/-!
# Lines at the console

A line at the console begins with a word, and what follows the word is read as the word asks for: one
module, the parts of a request, or a text that is sent as it is. `Means` says which lines are orders,
and whatever module or request such a line gives makes a command of five words.
-/

namespace HubBridge.Proofs

open Text Console

/-- The first word of the line is `word`, and `rest` is all that follows it. -/
structure Begins (line word rest : String) : Prop where
  isWord : isWord word = true
  whole : ∃ lead, isAllBlank lead = true ∧ line = lead ++ word ++ rest
  cut : ∀ c ∈ rest.toList.head?, isBlank c = true

/-- The request of these words, of which only the first three count. -/
def requested (ws : List String) : Request :=
  ⟨⟨ws[0]?.getD "D1"⟩, ⟨ws[1]?.getD "D0"⟩, ws[2]?.getD "STATUS"⟩

/-- The words that are followed by a module, and their orders. -/
def moduleOrders : List (String × (ModuleId → Order)) :=
  [("status", .status), ("lock", .lock), ("unlock", .unlock), ("info", .info)]

/-- What the word, in lower case, and the text behind it order. -/
inductive Means : String → String → Order → Prop
  | moduleOrder {word rest w : String} {order : ModuleId → Order}
      (hword : (word, order) ∈ moduleOrders) (hrest : words rest = [w]) :
      Means word rest (order (named w))
  | send (rest : String) : Means "send" rest (.send (requested (words rest)))
  | raw {rest text : String} (hbare : Bare text) (hrest : Padded text rest) :
      Means "raw" rest (.raw text)
  | doors (rest : String) : Means "doors" rest .doors
  | help {word : String} (rest : String) (hword : word ∈ ["help", "?"]) : Means word rest .help
  | quit {word : String} (rest : String) (hword : word ∈ ["quit", "exit"]) : Means word rest .quit

/-! ### The first word -/

lemma firstWord_append {word rest : String} (hword : Whole isBlank word.toList)
    (hcut : ∀ c ∈ rest.toList.head?, isBlank c = true) :
    firstWord (word ++ rest) = (word, .ofList (rest.toList.drop 1)) := by
  have hall : ∀ c ∈ word.toList, (!isBlank c) = true := fun c hc => by rw [hword c hc]; rfl
  have hrest : rest.toList.takeWhile (!isBlank ·) = [] ∧
      rest.toList.dropWhile (!isBlank ·) = rest.toList := by
    cases h : rest.toList with
    | nil => exact ⟨rfl, rfl⟩
    | cons c cs =>
      have hc : ¬(!isBlank c) = true := by
        rw [hcut c (by rw [h]; rfl)]
        exact Bool.false_ne_true
      exact ⟨List.takeWhile_cons_of_neg hc, List.dropWhile_cons_of_neg hc⟩
  unfold firstWord
  dsimp only
  rw [String.toList_append, List.takeWhile_append_of_pos hall, List.dropWhile_append_of_pos hall,
    hrest.1, hrest.2, List.append_nil, String.ofList_toList]

lemma trim_drop_one {rest : String} (hcut : ∀ c ∈ rest.toList.head?, isBlank c = true) :
    trim (.ofList (rest.toList.drop 1)) = trim rest := by
  rw [← String.toList_inj, toList_trim, toList_trim, String.toList_ofList]
  cases h : rest.toList with
  | nil => rfl
  | cons c cs =>
    have hc : isBlank c = true := hcut c (by rw [h]; rfl)
    rw [List.drop_one, List.tail_cons, strip, strip, List.dropWhile_cons_of_pos hc]

/-- Trimming a line leaves its first word, and takes no more than the blanks at its end from the
rest. -/
lemma Begins.trimmed {line word rest : String} (h : Begins line word rest) :
    ∃ kept, trim line = word ++ kept ∧ trim kept = trim rest ∧
      ∀ c ∈ kept.toList.head?, isBlank c = true := by
  obtain ⟨lead, hlead, hline⟩ := h.whole
  obtain ⟨kept, trail, rfl, htrail, hkept⟩ := exists_trail rest
  have hcut := h.cut
  refine ⟨kept, ?_, ?_, ?_⟩
  · have hbare : Bare (word ++ kept) := (bare_of_isWord h.isWord).append hkept
    rw [← hbare.padded_iff]
    exact ⟨lead, trail, hlead, htrail, by rw [hline, String.append_assoc, String.append_assoc,
      String.append_assoc]⟩
  · have hpadded : Padded kept (kept ++ trail) :=
      ⟨"", trail, rfl, htrail, by rw [String.empty_append]⟩
    rw [hpadded.trim_eq]
  · intro c hc
    apply hcut c
    rw [String.toList_append, List.head?_append, Option.mem_def.mp hc, Option.some_or]
    rfl

lemma ofLine_of_begins {line word rest : String} (h : Begins line word rest) :
    Order.ofLine line = some (Order.ofWord word (trim rest)) := by
  obtain ⟨kept, hline, hkept, hcut⟩ := h.trimmed
  obtain ⟨hne, hwhole⟩ := isWord_iff.mp h.isWord
  have hword : word.isEmpty = false := by
    rw [Bool.eq_false_iff, ne_eq, String.isEmpty_iff, ← String.toList_eq_nil_iff]
    exact hne
  unfold Order.ofLine
  rw [hline, firstWord_append hwhole hcut]
  dsimp only
  rw [hword, trim_drop_one hcut, hkept]
  rfl

lemma exists_begins {line : String} (h : isAllBlank line = false) :
    ∃ word rest, Begins line word rest := by
  have hlaid := laidOut_words line
  generalize words line = ws, hcs : line.toList = cs at hlaid
  cases hlaid with
  | blank hblank =>
    rw [isAllBlank, hcs, List.all_eq_true.mpr hblank] at h
    cases h
  | @word lead rest w ws hlead hword hrest hlaid =>
    refine ⟨w, .ofList rest, hword, ⟨.ofList lead, ?_, ?_⟩, ?_⟩
    · rw [isAllBlank, String.toList_ofList, List.all_eq_true]
      exact hlead
    · rw [← String.toList_inj, String.toList_append, String.toList_append, String.toList_ofList,
        String.toList_ofList, List.append_assoc]
      exact hcs
    · rwa [String.toList_ofList]

lemma ofLine_eq_none {line : String} : Order.ofLine line = none ↔ isAllBlank line = true := by
  constructor
  · intro h
    by_contra hblank
    obtain ⟨word, rest, hbegins⟩ := exists_begins (Bool.eq_false_iff.mpr hblank)
    rw [ofLine_of_begins hbegins] at h
    cases h
  · intro h
    have htrim : trim line = "" := String.toList_eq_nil_iff.mp (trim_eq_empty.mpr h)
    unfold Order.ofLine
    rw [htrim]
    rfl

/-! ### What follows the first word -/

lemma moduleOf_eq_ok {word rest : String} {m : ModuleId} :
    Order.moduleOf word (trim rest) = .ok m ↔ ∃ w, words rest = [w] ∧ m = named w := by
  simp only [words_eq_singleton]
  unfold Order.moduleOf
  rw [isEmpty_trim]
  cases hblank : isAllBlank rest with
  | true =>
    constructor
    · intro h
      cases h
    · rintro ⟨w, ⟨hw, rfl⟩, -⟩
      rw [isWord_trim, hblank] at hw
      cases hw
  | false =>
    have hloose : ∀ m, ModuleId.ofLooseText (trim rest) = .ok m ↔
        isWord (trim rest) = true ∧ m = named (trim rest) := by
      intro m
      rw [ofLooseText_eq_ok, isBroken_some, trim_trim, ← isBroken_some, isWord_trim, hblank]
      simp
    rw [if_neg Bool.false_ne_true]
    cases hread : ModuleId.ofLooseText (trim rest) with
    | ok read =>
      obtain ⟨hw, hnamed⟩ := (hloose read).mp hread
      dsimp only
      rw [Except.ok.injEq]
      constructor
      · rintro rfl
        exact ⟨_, ⟨hw, rfl⟩, hnamed⟩
      · rintro ⟨w, ⟨-, rfl⟩, rfl⟩
        exact hnamed
    | error fault =>
      constructor
      · intro h
        cases h
      · rintro ⟨w, ⟨hw, rfl⟩, rfl⟩
        rw [(hloose _).mpr ⟨hw, rfl⟩] at hread
        cases hread

/-- A part that is a word stands for itself. -/
lemma word_part {part : Option String} (h : ∀ w ∈ part, isWord w = true) (default : String) :
    isBroken part = false ∧ meant default part = part.getD default := by
  cases part with
  | none => exact ⟨rfl, rfl⟩
  | some w => exact (padded_self w).part (h w rfl) default

lemma ofParts_words {ws : List String} (h : ∀ w ∈ ws, isWord w = true) :
    Request.ofParts ws[0]? ws[1]? ws[2]? = .ok (requested ws) := by
  have hword : ∀ n, ∀ w ∈ ws[n]?, isWord w = true := fun n w hw => h w (List.mem_of_getElem? hw)
  obtain ⟨hm, hmeant⟩ := word_part (hword 0) "D1"
  obtain ⟨ht, htmeant⟩ := word_part (hword 1) "D0"
  obtain ⟨ha, hameant⟩ := word_part (hword 2) "STATUS"
  rw [ofParts_whole hm ht ha, hmeant, htmeant, hameant]
  rfl

lemma requestOf_eq (rest : String) :
    Order.requestOf (trim rest) = .ok (requested (words rest)) := by
  unfold Order.requestOf
  rw [words_trim]
  dsimp only
  rw [ofParts_words (isWord_of_laidOut (laidOut_words rest))]

lemma map_eq_ok {ε α β : Type} {x : Except ε α} {f : α → β} {b : β} :
    x.map f = .ok b ↔ ∃ a, x = .ok a ∧ b = f a := by
  cases x with
  | error e => simp [Except.map]
  | ok a => simp [Except.map, eq_comm]

lemma ofWord_moduleOrder {word : String} {order : ModuleId → Order}
    (h : (lowerAscii word, order) ∈ moduleOrders) (rest : String) :
    Order.ofWord word rest = (Order.moduleOf word rest).map order := by
  unfold Order.ofWord
  generalize lowerAscii word = w at h
  simp only [moduleOrders, List.mem_cons, Prod.mk.injEq, List.not_mem_nil, or_false] at h
  rcases h with ⟨rfl, rfl⟩ | ⟨rfl, rfl⟩ | ⟨rfl, rfl⟩ | ⟨rfl, rfl⟩ <;> rfl

lemma ofWord_send {word : String} (h : lowerAscii word = "send") (rest : String) :
    Order.ofWord word rest = (Order.requestOf rest).map .send := by
  unfold Order.ofWord
  rw [h]
  rfl

lemma ofWord_raw {word : String} (h : lowerAscii word = "raw") (rest : String) :
    Order.ofWord word rest =
      if rest.isEmpty then .error "raw: nothing to send" else .ok (.raw rest) := by
  unfold Order.ofWord
  rw [h]
  rfl

lemma means_moduleOrder {word key rest : String} {make : ModuleId → Order} {order : Order}
    (hkey : (key, make) ∈ moduleOrders)
    (h : (Order.moduleOf word (trim rest)).map make = .ok order) : Means key rest order := by
  obtain ⟨m, hm, rfl⟩ := map_eq_ok.mp h
  obtain ⟨w, hrest, rfl⟩ := moduleOf_eq_ok.mp hm
  exact .moduleOrder hkey hrest

lemma ofWord_eq_ok {word rest : String} {order : Order} :
    Order.ofWord word (trim rest) = .ok order ↔ Means (lowerAscii word) rest order := by
  constructor
  · intro h
    unfold Order.ofWord at h
    split at h <;> rename_i hw
    · exact hw ▸ means_moduleOrder (by simp [moduleOrders]) h
    · exact hw ▸ means_moduleOrder (by simp [moduleOrders]) h
    · exact hw ▸ means_moduleOrder (by simp [moduleOrders]) h
    · exact hw ▸ means_moduleOrder (by simp [moduleOrders]) h
    · rw [requestOf_eq] at h
      cases h
      exact hw ▸ .send rest
    · rw [isEmpty_trim] at h
      split at h
      · cases h
      · rename_i hblank
        cases h
        exact hw ▸ .raw (bare_trim (Bool.eq_false_iff.mpr hblank)) (padded_trim rest)
    · cases h
      exact hw ▸ .doors rest
    · cases h
      exact .help rest (by simp [hw])
    · cases h
      exact .help rest (by simp [hw])
    · cases h
      exact .quit rest (by simp [hw])
    · cases h
      exact .quit rest (by simp [hw])
    · cases h
  · intro h
    generalize hw : lowerAscii word = w at h
    cases h with
    | moduleOrder hkey hrest =>
      rw [ofWord_moduleOrder (hw ▸ hkey)]
      exact map_eq_ok.mpr ⟨_, moduleOf_eq_ok.mpr ⟨_, hrest, rfl⟩, rfl⟩
    | send =>
      rw [ofWord_send hw]
      exact map_eq_ok.mpr ⟨_, requestOf_eq rest, rfl⟩
    | raw hbare hrest =>
      rw [ofWord_raw hw, hbare.padded_iff.mp hrest, ← hbare.trim_eq, isEmpty_trim,
        hbare.not_blank, hbare.trim_eq]
      rfl
    | doors =>
      unfold Order.ofWord
      rw [hw]
      rfl
    | help _ hword =>
      unfold Order.ofWord
      rw [hw]
      simp only [List.mem_cons, List.not_mem_nil, or_false] at hword
      rcases hword with rfl | rfl <;> rfl
    | quit _ hword =>
      unfold Order.ofWord
      rw [hw]
      simp only [List.mem_cons, List.not_mem_nil, or_false] at hword
      rcases hword with rfl | rfl <;> rfl

/-- The lines that are orders. -/
theorem ofLine_eq_ok {line word rest : String} (h : Begins line word rest) {order : Order} :
    Order.ofLine line = some (.ok order) ↔ Means (lowerAscii word) rest order := by
  rw [ofLine_of_begins h, Option.some_inj, ofWord_eq_ok]

/-! ### What an order gives -/

def moduleOf? : Order → Option ModuleId
  | .status m | .lock m | .unlock m | .info m => some m
  | .send _ | .raw _ | .doors | .help | .quit => none

/-- A `send` order gives its own request, an order about a module any request to that module. -/
inductive Yields : Order → Request → Prop
  | toModule {order : Order} {m : ModuleId} {target : Target} {action : String}
      (h : moduleOf? order = some m) (htarget : isWord target.text = true)
      (haction : isWord action = true) : Yields order ⟨m, target, action⟩
  | send (r : Request) : Yields (.send r) r

/-- The datagram of the command holds five words and one newline, at its end. -/
structure FiveWords (c : Command) : Prop where
  words : ∃ text, String.fromUTF8? c.encode = some text ∧
    words text = [c.moduleId.text, "COMMAND", c.id.toText, c.target.text, c.action]
  newline : ∃ octets, c.encode.toList = octets ++ [newline] ∧ newline ∉ octets

lemma Worded.fiveWords {r : Request} (h : Worded r) (id : CorrelationId) :
    FiveWords (r.toCommand id) :=
  ⟨⟨_, fromUTF8?_encode _, h.words_terminated id⟩, ⟨_, toList_encode _, h.newline_notMem id⟩⟩

lemma moduleOf?_moduleOrder {word : String} {order : ModuleId → Order}
    (h : (word, order) ∈ moduleOrders) (m : ModuleId) : moduleOf? (order m) = some m := by
  simp only [moduleOrders, List.mem_cons, Prod.mk.injEq, List.not_mem_nil, or_false] at h
  rcases h with ⟨-, rfl⟩ | ⟨-, rfl⟩ | ⟨-, rfl⟩ | ⟨-, rfl⟩ <;> rfl

lemma named_word {w : String} (h : isWord w = true) :
    isWord (named w).text = true ∧ (named w).text.toList.head? = some 'D' := by
  refine ⟨?_, head_named w⟩
  rw [isWord_named, Bool.not_eq_true', List.any_eq_false]
  exact fun c hc => Bool.eq_false_iff.mp ((isWord_iff.mp h).2 c hc)

lemma Means.worded {word rest : String} {order : Order} (h : Means word rest order) {r : Request}
    (hr : Yields order r) : Worded r := by
  cases h with
  | @moduleOrder _ _ w make hkey hrest =>
    have hm := moduleOf?_moduleOrder hkey (named w)
    generalize make (named w) = order at hr hm
    cases hr with
    | toModule h htarget haction =>
      rw [hm, Option.some_inj] at h
      rw [← h]
      exact ⟨(named_word (words_eq_singleton.mp hrest).1).1, htarget, haction⟩
    | send => cases hm
  | send =>
    cases hr with
    | toModule h => cases h
    | send =>
      exact worded_of_ofParts (ofParts_words (isWord_of_laidOut (laidOut_words rest)))
  | raw | doors | help | quit =>
    cases hr with
    | toModule h => cases h

/-- How a line is read, whatever its characters are. -/
structure SafelyRead (line : String) : Prop where
  /-- A blank line is no order, and is not even refused. -/
  blank : Order.ofLine line = none ↔ isAllBlank line = true
  begins : isAllBlank line = false → ∃ word rest, Begins line word rest
  trimmed : ∀ other, trim other = trim line → Order.ofLine other = Order.ofLine line
  /-- The case of the first word does not matter. -/
  recased : ∀ word word' rest other order, Begins line word rest → Begins other word' rest →
    lowerAscii word' = lowerAscii word → Order.ofLine line = some (.ok order) →
    Order.ofLine other = some (.ok order)
  moduleOrder : ∀ word rest make, Begins line word rest → (lowerAscii word, make) ∈ moduleOrders →
    ((∃ order, Order.ofLine line = some (.ok order)) ↔ ∃ w, words rest = [w]) ∧
    ∀ order, Order.ofLine line = some (.ok order) →
      ∃ w, words rest = [w] ∧ order = make (named w) ∧ isWord (named w).text = true ∧
        (named w).text.toList.head? = some 'D'
  send : ∀ word rest, Begins line word rest → lowerAscii word = "send" →
    Order.ofLine line = some (.ok (.send (requested (words rest))))
  raw : ∀ word rest, Begins line word rest → lowerAscii word = "raw" →
    ((∃ order, Order.ofLine line = some (.ok order)) ↔ isAllBlank rest = false) ∧
    ∀ order, Order.ofLine line = some (.ok order) →
      ∃ text, order = .raw text ∧ Bare text ∧ Padded text rest
  /-- Whatever the line asks to be sent to a module is one line of five words. -/
  commands : ∀ order r id, Order.ofLine line = some (.ok order) → Yields order r →
    FiveWords (r.toCommand id)

lemma moduleOrder_iff {line word rest : String} {make : ModuleId → Order} (h : Begins line word rest)
    (hkey : (lowerAscii word, make) ∈ moduleOrders) {order : Order} :
    Order.ofLine line = some (.ok order) ↔ ∃ w, words rest = [w] ∧ order = make (named w) := by
  rw [ofLine_of_begins h, Option.some_inj, ofWord_moduleOrder hkey, map_eq_ok]
  simp only [moduleOf_eq_ok]
  constructor
  · rintro ⟨m, ⟨w, hrest, rfl⟩, rfl⟩
    exact ⟨w, hrest, rfl⟩
  · rintro ⟨w, hrest, rfl⟩
    exact ⟨_, ⟨w, hrest, rfl⟩, rfl⟩

lemma raw_iff {line word rest : String} (h : Begins line word rest) (hkey : lowerAscii word = "raw")
    {order : Order} : Order.ofLine line = some (.ok order) ↔
      ∃ text, order = .raw text ∧ Bare text ∧ Padded text rest := by
  constructor
  · rw [ofLine_of_begins h, Option.some_inj, ofWord_raw hkey, isEmpty_trim]
    intro horder
    split at horder
    · cases horder
    · rename_i hblank
      cases horder
      exact ⟨_, rfl, bare_trim (Bool.eq_false_iff.mpr hblank), padded_trim rest⟩
  · rintro ⟨text, rfl, hbare, hrest⟩
    rw [ofLine_eq_ok h, hkey]
    exact .raw hbare hrest

/-- A line is an order of few words or it is refused, and nothing that it gives can break the line of a
command. -/
theorem console_lines_safe (line : String) : SafelyRead line where
  blank := ofLine_eq_none
  begins := exists_begins
  trimmed other h := by
    unfold Order.ofLine
    rw [h]
  recased word word' rest other order hbegins hother hword h := by
    rw [ofLine_eq_ok hother, hword]
    exact (ofLine_eq_ok hbegins).mp h
  moduleOrder word rest make hbegins hkey := by
    refine ⟨?_, ?_⟩
    · simp only [moduleOrder_iff hbegins hkey]
      constructor
      · rintro ⟨order, w, hrest, -⟩
        exact ⟨w, hrest⟩
      · rintro ⟨w, hrest⟩
        exact ⟨_, w, hrest, rfl⟩
    · intro order h
      obtain ⟨w, hrest, rfl⟩ := (moduleOrder_iff hbegins hkey).mp h
      exact ⟨w, hrest, rfl, named_word (words_eq_singleton.mp hrest).1⟩
  send word rest hbegins hkey := by
    rw [ofLine_eq_ok hbegins, hkey]
    exact .send rest
  raw word rest hbegins hkey := by
    refine ⟨?_, fun order => (raw_iff hbegins hkey).mp⟩
    simp only [raw_iff hbegins hkey]
    constructor
    · rintro ⟨order, text, -, hbare, hrest⟩
      rw [Bool.eq_false_iff, ne_eq, ← trim_eq_empty, hbare.padded_iff.mp hrest]
      exact hbare.nonempty
    · intro hblank
      exact ⟨_, _, rfl, bare_trim hblank, padded_trim rest⟩
  commands order r id h hr := by
    cases hblank : isAllBlank line with
    | true =>
      rw [ofLine_eq_none.mpr hblank] at h
      cases h
    | false =>
      obtain ⟨word, rest, hbegins⟩ := exists_begins hblank
      exact (((ofLine_eq_ok hbegins).mp h).worded hr).fiveWords id

theorem console_lines_safe_odd :
    Order.ofLine "\u3000LoCk 7 \n" = some (.ok (.lock ⟨"D7"⟩)) ∧
      FiveWords (Request.toCommand ⟨⟨"D7"⟩, ⟨"D0"⟩, "LOCK"⟩ ⟨1⟩) ∧
      Order.ofLine "SEND D2\tD1 OPEN now" = some (.ok (.send ⟨⟨"D2"⟩, ⟨"D1"⟩, "OPEN"⟩)) ∧
      ∃ text, Order.raw "D1  PING" = .raw text ∧ Bare text ∧ Padded text "  D1  PING " := by
  have hlock : Order.ofLine "\u3000LoCk 7 \n" = some (.ok (.lock ⟨"D7"⟩)) := by decide
  have hsend : Begins "SEND D2\tD1 OPEN now" "SEND" " D2\tD1 OPEN now" :=
    ⟨by decide, ⟨"", by decide, by decide⟩, by simp [isBlank]⟩
  have hraw : Begins " RAW  D1  PING " "RAW" "  D1  PING " :=
    ⟨by decide, ⟨" ", by decide, by decide⟩, by simp [isBlank]⟩
  refine ⟨hlock, ?_, ?_, ?_⟩
  · exact (console_lines_safe _).commands _ _ _ hlock (.toModule rfl (by decide) (by decide))
  · exact (console_lines_safe _).send _ _ hsend (by decide)
  · exact ((console_lines_safe _).raw _ _ hraw (by decide)).2 _ (by decide)

end HubBridge.Proofs
