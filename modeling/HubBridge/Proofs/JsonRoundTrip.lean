import HubBridge.Event
import HubBridge.Proofs.JsonObjects

/-!
# What is published can be read back

Every record, event and message is the one value that the text written for it stands for. The
records and shapes are lawful: their names differ, each field can hold its cell, and the cells make
the value again. The rest follows for all of them at once.
-/

namespace HubBridge.Proofs

open Json

/-! ### Lawful records and shapes -/

/-- The fields of a record are told apart by their names, hold its cells, and give it back. -/
class LawfulRecord (α : Type) [Record α] : Prop where
  distinct : ((Record.fields α).map (·.name)).Nodup
  fits (a : α) :
    List.Forall₂ (fun field cell => Fits field.kind cell) (Record.fields α) (Record.cells a)
  made (a : α) : Record.ofCells? (Record.cells a) = some a

/-- Each shape that a value can have is one of those named, and a lawful record with no field by the
name of the tag. -/
class LawfulShapes (α : Type) [Shapes α] : Prop where
  named (a : α) : Shapes.name a ∈ Shapes.names α
  distinct : ∀ shape ∈ Shapes.names α, ((Shapes.fields α shape).map (·.name)).Nodup
  untagged : ∀ shape ∈ Shapes.names α, tagName ∉ (Shapes.fields α shape).map (·.name)
  fits (a : α) : List.Forall₂ (fun field cell => Fits field.kind cell)
    (Shapes.fields α (Shapes.name a)) (Shapes.cells a)
  made (a : α) : Shapes.ofCells? (Shapes.name a) (Shapes.cells a) = some a

/-! ### Fields next to their cells -/

/-- The members that fields and cells make side by side. -/
def paired (fields : List Field) (cells : List Cell) : List (String × Cell) :=
  (fields.map (·.name)).zip cells

section Paired

variable {fields : List Field} {cells : List Cell}
  (hfits : List.Forall₂ (fun field cell => Fits field.kind cell) fields cells)
  (hdistinct : (fields.map (·.name)).Nodup)

include hfits

lemma names_paired : (paired fields cells).map Prod.fst = fields.map (·.name) :=
  List.map_fst_zip (by rw [List.length_map, hfits.length_eq])

lemma mem_paired :
    List.Forall₂ (fun field cell => (field.name, cell) ∈ paired fields cells) fields cells := by
  induction hfits with
  | nil => exact .nil
  | cons _ _ ih => exact .cons List.mem_cons_self (ih.imp fun _ _ h => List.mem_cons_of_mem _ h)

include hdistinct in
lemma allFit_paired : AllFit fields (paired fields cells) := by
  induction hfits with
  | nil => exact fun _ hmember => nomatch hmember
  | @cons field cell fields cells hfit hfits ih =>
    obtain ⟨hnew, hdistinct⟩ := List.nodup_cons.mp hdistinct
    intro member hmember other hother hname
    rcases List.mem_cons.mp hmember with rfl | hmemberRest
    · rcases List.mem_cons.mp hother with rfl | hotherRest
      · exact hfit
      · refine absurd ?_ hnew
        change field.name ∈ _
        rw [← show other.name = field.name from hname]
        exact List.mem_map_of_mem hotherRest
    · rcases List.mem_cons.mp hother with rfl | hotherRest
      · refine absurd ?_ hnew
        change other.name ∈ _
        rw [hname, ← names_paired hfits]
        exact List.mem_map_of_mem hmemberRest
      · exact ih hdistinct member hmemberRest other hotherRest hname

end Paired

/-! ### Any record, any value of several shapes -/

lemma writeRecord_eq {α : Type} [Record α] (a : α) :
    writeRecord a = writeObject (paired (Record.fields α) (Record.cells a)) := rfl

lemma readRecord_written {α : Type} [Record α] [LawfulRecord α] (a : α) (s : List Char) :
    readRecord (writeRecord a ++ s) = .ok (a, s) := by
  have hfits := LawfulRecord.fits a
  have hdistinct := LawfulRecord.distinct (α := α)
  have hcells := readCells_written (allFit_paired hfits hdistinct)
    (by rw [names_paired hfits]; exact hdistinct) (mem_paired hfits) s
  rw [readRecord, writeRecord_eq, hcells]
  simp [bind, Except.bind, LawfulRecord.made, Json.made]

lemma readAround_written {α : Type} [Shapes α] [LawfulShapes α] (a : α) (s : List Char) :
    readAround (writeAround a ++ s) = .ok (a, s) := by
  have hfits := LawfulShapes.fits a
  have hdistinct := LawfulShapes.distinct _ (LawfulShapes.named a)
  have hcells := readCells_written (allFit_paired hfits hdistinct)
    (by rw [names_paired hfits]; exact hdistinct) (mem_paired hfits) ('}' :: s)
  have htext : writeAround a ++ s = '{' :: (writeString (Shapes.name a) ++
      ':' :: (writeObject (paired (Shapes.fields α (Shapes.name a)) (Shapes.cells a)) ++
        '}' :: s)) := by
    simp [writeAround, paired]
  have hkey (s : List Char) : readFirstKey (Shapes.names α) (writeString (Shapes.name a) ++ s) =
      .ok (Shapes.name a, s) := by
    have hread := readKey_written true (Shapes.name a) s
    rw [if_pos rfl, List.nil_append] at hread
    simp [readFirstKey, hread, bind, Except.bind, LawfulShapes.named a]
  rw [htext, readAround, skipSpace_cons rfl]
  simp [bind, Except.bind, hkey, readColon_cons, hcells, LawfulShapes.made, Json.made, closeObject,
    skipSpace_cons (c := '}') rfl]

lemma writeInside_eq {α : Type} [Shapes α] (a : α) :
    writeInside a = writeObject ((tagName, .text (Shapes.name a)) ::
      paired (Shapes.fields α (Shapes.name a)) (Shapes.cells a)) := rfl

lemma readInside_written {α : Type} [Shapes α] [LawfulShapes α] (a : α) (s : List Char) :
    readInside (writeInside a ++ s) = .ok (a, s) := by
  have hfits := LawfulShapes.fits a
  have hdistinct := LawfulShapes.distinct _ (LawfulShapes.named a)
  have hnames := names_paired hfits
  generalize hmembers : paired (Shapes.fields α (Shapes.name a)) (Shapes.cells a) = members at hnames
  have hunique : (members.map Prod.fst).Nodup := by rw [hnames]; exact hdistinct
  have hfound := fieldsOfMembers_asValues _ members [] (hmembers ▸ allFit_paired hfits hdistinct)
    (by simpa using hunique)
  have hcells := collect_known hunique (hmembers ▸ mem_paired hfits)
  have htagged := readTagged_tag (LawfulShapes.named a)
    (by rw [hnames]; exact LawfulShapes.untagged _ (LawfulShapes.named a)) s (depthLimit - 1) _
    ((length_lt_membersText true ((tagName, .text (Shapes.name a)) :: members) s).trans
      (Nat.lt_succ_self _))
  rw [writeInside_eq, hmembers, writeObject_append, readInside, skipSpace_cons rfl]
  simp [bind, Except.bind, htagged, hfound, hcells, LawfulShapes.made, Json.made]

lemma readWhole_written {α : Type} {reader : Json.Reader α} {text : List Char} {a : α}
    (h : reader (text ++ []) = .ok (a, [])) : readWhole reader (.ofList text) = .ok a := by
  rw [List.append_nil] at h
  simp [readWhole, h, skipSpace, bind, Except.bind]

/-! ### The records and shapes of the bridge -/

@[simp]
lemma statusName_mem (s : Status) : s.name ∈ Status.all.map Status.name := by
  cases s <;> decide

@[simp]
lemma statusOfName?_name (s : Status) : Status.ofName? s.name = some s := by
  cases s <;> decide

@[simp]
lemma encodingName_mem (e : Encoding) : e.name ∈ Encoding.all.map Encoding.name := by
  cases e <;> decide

@[simp]
lemma encodingOfName?_name (e : Encoding) : Encoding.ofName? e.name = some e := by
  cases e <;> decide

@[simp]
lemma failureName_mem (k : FailureKind) : k.name ∈ FailureKind.all.map FailureKind.name := by
  cases k <;> decide

@[simp]
lemma failureOfName?_name (k : FailureKind) : FailureKind.ofName? k.name = some k := by
  cases k <;> decide

attribute [simp] textField statusField

instance : LawfulRecord Door where
  distinct := by decide
  fits _ := by simp [Record.fields, Record.cells]
  made _ := rfl

instance : LawfulRecord Positions where
  distinct := by decide
  fits _ := by simp [Record.fields, Record.cells]
  made _ := rfl

instance : LawfulRecord Reading where
  distinct := by decide
  fits _ := by simp [Record.fields, Record.cells, -List.mem_map]
  made _ := by simp [Record.ofCells?, Record.cells]

instance : LawfulRecord Request where
  distinct := by decide
  fits _ := by simp [Record.fields, Record.cells]
  made _ := rfl

instance : LawfulRecord Command where
  distinct := by decide
  fits _ := by simp [Record.fields, Record.cells]
  made _ := rfl

instance : LawfulRecord Reply where
  distinct := by decide
  fits _ := by simp [Record.fields, Record.cells, -List.mem_map]
  made _ := by simp [Record.ofCells?, Record.cells]

instance : LawfulRecord DoorSnapshot where
  distinct := by decide
  fits _ := by simp [Record.fields, Record.cells]
  made _ := rfl

instance : LawfulShapes Event where
  named e := by cases e <;> simp [Shapes.names, Shapes.name, Event.name]
  distinct := by decide
  untagged := by decide
  fits e := by
    cases e <;> simp [Shapes.fields, Shapes.cells, Shapes.name, Event.name, -List.mem_map]
  made e := by cases e <;> simp [Shapes.ofCells?, Shapes.cells, Shapes.name, Event.name]

instance : LawfulShapes Message where
  named m := by cases m <;> simp [Shapes.names, Shapes.name]
  distinct := by decide
  untagged := by decide
  fits m := by cases m <;> simp [Shapes.fields, Shapes.cells, Shapes.name]
  made m := by cases m <;> rfl

/-! ### What observers and consoles are sent -/

lemma readWhole_toLine (e : Event) : readWhole readInside e.toLine = .ok e :=
  readWhole_written (readInside_written e [])

lemma noControls_toLine (e : Event) : NoControls e.toLine.toList := by
  rw [Event.toLine, String.toList_ofList, writeInside_eq]
  exact noControls_writeObject _

/-- No name of an event has a character that would be escaped. -/
lemma writeString_eventName (e : Event) : writeString e.name = '"' :: e.name.toList ++ ['"'] := by
  have hnames : ∀ name ∈ Shapes.names Event, writeString name = '"' :: name.toList ++ ['"'] := by
    decide +kernel
  exact hnames _ (LawfulShapes.named e)

lemma toLine_starts (e : Event) :
    ("\x7b\"type\":\"" ++ e.name ++ "\"").toList <+: e.toLine.toList := by
  have hobject := writeObject_append ((tagName, .text (Shapes.name e)) ::
    paired (Shapes.fields Event (Shapes.name e)) (Shapes.cells e)) []
  rw [List.append_nil] at hobject
  rw [Event.toLine, String.toList_ofList, writeInside_eq, hobject, membersText, writeCell]
  change _ <+: '{' :: (writeString tagName ++ ':' :: (writeString e.name ++ _))
  rw [writeString_eventName]
  refine ⟨membersText false (paired (Shapes.fields Event (Shapes.name e)) (Shapes.cells e)) [], ?_⟩
  simp [writeString, tagName, escapeChar]

/-- The members of a door's line, in their order. -/
def doorMembers (d : Door) (online : Bool) : List (String × Cell) :=
  [("doorOpen", .flag d.isOpen), ("lockLocked", .flag d.isLocked),
    ("moduleId", .text d.moduleId.text), ("online", .flag (some online))]

lemma doorLine_eq (d : Door) (online : Bool) :
    d.toLine online = .ofList (writeObject (doorMembers d online)) := rfl

lemma noControls_doorLine (d : Door) (online : Bool) : NoControls (d.toLine online).toList := by
  rw [doorLine_eq, String.toList_ofList]
  exact noControls_writeObject _

/-- The door is read from its line although its members stand in another order there and one is not
its own. -/
lemma readRecord_doorLine (d : Door) (online : Bool) :
    readWhole readRecord (d.toLine online) = .ok d := by
  have hfits : AllFit (Record.fields Door) (doorMembers d online) := by
    simp [AllFit, doorMembers, Record.fields]
  have hnames : ((doorMembers d online).map Prod.fst).Nodup := by
    simp [doorMembers]
  have hcells : List.Forall₂ (fun field cell => (field.name, cell) ∈ doorMembers d online)
      (Record.fields Door) (Record.cells d) := by
    simp [doorMembers, Record.fields, Record.cells]
  have hread := readCells_written hfits hnames hcells []
  rw [doorLine_eq]
  refine readWhole_written ?_
  rw [readRecord, hread]
  rfl

lemma readValue_doorLine (d : Door) (online : Bool) :
    readWhole (readValue depthLimit) (d.toLine online) =
      .ok (.object [("doorOpen", valueOf (.flag d.isOpen)), ("lockLocked", valueOf (.flag d.isLocked)),
        ("moduleId", .string d.moduleId.text), ("online", .bool online)]) :=
  readWhole_written (readValue_written _ _ (by decide))

/-- Each record is what its own text is read as. -/
def RecordReturns (α : Type) [Record α] : Prop :=
  ∀ a : α, readWhole readRecord (.ofList (writeRecord a)) = .ok a

lemma recordReturns (α : Type) [Record α] [LawfulRecord α] : RecordReturns α :=
  fun a => readWhole_written (readRecord_written a [])

/-- Whatever is published is read back as it was, whichever way its shape is told and whatever
characters its texts hold. An event is one line that begins with its name, and a door's line gives
the door and whether it is online. -/
theorem published_read_back :
    (∀ e : Event, readWhole readInside e.toLine = .ok e ∧ NoControls e.toLine.toList ∧
      ("\x7b\"type\":\"" ++ e.name ++ "\"").toList <+: e.toLine.toList) ∧
    (∀ m : Message, readWhole readAround (.ofList (writeAround m)) = .ok m) ∧
    RecordReturns Door ∧ RecordReturns Positions ∧ RecordReturns Reading ∧
    RecordReturns Request ∧ RecordReturns Command ∧ RecordReturns Reply ∧
    RecordReturns DoorSnapshot ∧
    ∀ (d : Door) (online : Bool), NoControls (d.toLine online).toList ∧
      readWhole readRecord (d.toLine online) = .ok d ∧
      readWhole (readValue depthLimit) (d.toLine online) =
        .ok (.object [("doorOpen", valueOf (.flag d.isOpen)),
          ("lockLocked", valueOf (.flag d.isLocked)), ("moduleId", .string d.moduleId.text),
          ("online", .bool online)]) := by
  exact ⟨fun e => ⟨readWhole_toLine e, noControls_toLine e, toLine_starts e⟩,
    fun m => readWhole_written (readAround_written m []), recordReturns _, recordReturns _,
    recordReturns _, recordReturns _, recordReturns _, recordReturns _, recordReturns _,
    fun d online => ⟨noControls_doorLine d online, readRecord_doorLine d online,
      readValue_doorLine d online⟩⟩

example : (Event.hubRaw "\x01\"é\n").toLine =
    "\x7b\"type\":\"hub-raw\",\"raw\":\"\\u0001\\\"é\\n\"\x7d" := by
  decide +kernel

end HubBridge.Proofs
