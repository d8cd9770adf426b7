import HubBridge.Json.Value
import HubBridge.Json.Writer

/-!
# Records as JSON

A type whose values are a fixed list of named fields is written as an object. It is read back from
an object with its members in any order, or from a list with the values in the order of the fields.
Unknown members are passed over, a missing flag is unset, and every other missing or repeated member
is refused. A type of several such shapes is read by the name of the shape, given in a member of its
own (`readInside`) or around the fields (`readAround`).
-/

namespace HubBridge.Json

inductive Kind
  | text
  | number
  /-- A boolean that may be absent. -/
  | flag
  /-- One of these words. -/
  | word (names : List String)
  deriving DecidableEq, Repr

structure Field where
  name : String
  kind : Kind
  deriving DecidableEq, Repr

/-! ### Reading as the text is met -/

def readText (s : List Char) : Except Refusal (String × List Char) :=
  match skipSpace s with
  | [] => .error .cutShort
  | '"' :: s => readString s
  | s => .error (misfit s)

def readName (names : List String) (s : List Char) : Except Refusal (String × List Char) := do
  let (name, s) ← readText s
  if names.contains name then .ok (name, s) else .error .unfit

/-- The first key of an object, which has to be one of these words. No key at all is no fault of the
value but of the text. -/
def readFirstKey (names : List String) (s : List Char) : Except Refusal (String × List Char) := do
  match ← readKey true s with
  | (none, _) => .error .malformed
  | (some name, s) => if names.contains name then .ok (name, s) else .error .unfit

def readNull (s : List Char) : Except Refusal (List Char) :=
  match skipSpace s with
  | [] => .error .cutShort
  | 'n' :: s => expect "ull".toList s
  | s => .error (misfit s)

/-- Passes over the closing brace of an object of one member. -/
def closeObject (s : List Char) : Except Refusal (List Char) :=
  match skipSpace s with
  | [] => .error .cutShort
  | '}' :: s => .ok s
  | _ => .error .malformed

/-- One of these words, alone or as the only key of an object that gives it a null. -/
def readWord (names : List String) (s : List Char) : Except Refusal (String × List Char) :=
  match skipSpace s with
  | [] => .error .cutShort
  | '"' :: _ => readName names s
  | '{' :: s => do
    let (name, s) ← readFirstKey names s
    let s ← readNull (← readColon s)
    .ok (name, ← closeObject s)
  | _ => .error .malformed

def readNatural (s : List Char) : Except Refusal (UInt64 × List Char) :=
  match skipSpace s with
  | [] => .error .cutShort
  | '-' :: s => do
    let _ ← readNumber true s
    .error .unfit
  | s =>
    if startsWithDigit s then do
      match ← readNumber false s with
      | (.natural n, s) => .ok (n, s)
      | (.other, _) => .error .unfit
    else .error (misfit s)

def readFlag (s : List Char) : Except Refusal (Option Bool × List Char) :=
  match skipSpace s with
  | [] => .error .cutShort
  | 'n' :: s => do .ok (none, ← expect "ull".toList s)
  | 't' :: s => do .ok (some true, ← expect "rue".toList s)
  | 'f' :: s => do .ok (some false, ← expect "alse".toList s)
  | s => .error (misfit s)

def readCell (kind : Kind) (s : List Char) : Except Refusal (Cell × List Char) :=
  match kind with
  | .text => do
    let (text, s) ← readText s
    .ok (.text text, s)
  | .number => do
    let (n, s) ← readNatural s
    .ok (.number n, s)
  | .flag => do
    let (b, s) ← readFlag s
    .ok (.flag b, s)
  | .word names => do
    let (name, s) ← readWord names s
    .ok (.text name, s)

/-- The cells of the fields, from the members found under their names. -/
def collect (fields : List Field) (found : List (String × Cell)) : Except Refusal (List Cell) :=
  fields.mapM fun field =>
    match found.lookup field.name with
    | some cell => .ok cell
    | none => if field.kind = .flag then .ok (.flag none) else .error .unfit

/-- The members of an object that belong to these fields, up to its closing brace. -/
def readFields (fields : List Field) :
    Nat → Bool → List (String × Cell) → Reader (List (String × Cell))
  | 0, _, _, _ => .error .cutShort
  | bound + 1, first, found, s => do
    match ← readKey first s with
    | (none, s) => .ok (found, s)
    | (some name, s) =>
      match fields.find? (·.name == name) with
      | none => do
        let s ← skipValue (← readColon s)
        readFields fields bound false found s
      | some field =>
        if (found.lookup name).isSome then .error .unfit
        else do
          let (cell, s) ← readCell field.kind (← readColon s)
          readFields fields bound false ((name, cell) :: found) s

/-- The items of a list, one for each field, up to its closing bracket. -/
def readRow : List Field → Bool → Reader (List Cell)
  | [], _, s =>
    match skipSpace s with
    | [] => .error .cutShort
    | ']' :: s => .ok ([], s)
    | _ => .error .malformed
  | field :: fields, first, s => do
    match ← readMore first s with
    | (false, _) => .error .unfit
    | (true, s) => do
      let (cell, s) ← readCell field.kind s
      let (cells, s) ← readRow fields false s
      .ok (cell :: cells, s)

def readCells (fields : List Field) (s : List Char) : Except Refusal (List Cell × List Char) :=
  match skipSpace s with
  | [] => .error .cutShort
  | '{' :: s => do
    let (found, s) ← readFields fields (s.length + 1) true [] s
    .ok (← collect fields found, s)
  | '[' :: s => readRow fields true s
  | s => .error (misfit s)

/-! ### Reading from a value -/

/-- What a field of this kind holds, from a value that was read before. -/
def Kind.ofValue? : Kind → Value → Option Cell
  | .text, .string s => some (.text s)
  | .number, .number (.natural n) => some (.number n)
  | .flag, .null => some (.flag none)
  | .flag, .bool b => some (.flag (some b))
  | .word names, .string s => if names.contains s then some (.text s) else none
  | .word names, .object [(s, .null)] => if names.contains s then some (.text s) else none
  | .word names, .object [(s, .object [])] => if names.contains s then some (.text s) else none
  | _, _ => none

/-- The members that belong to these fields, none of them twice. -/
def fieldsOfMembers (fields : List Field) :
    List (String × Cell) → List (String × Value) → Except Refusal (List (String × Cell))
  | found, [] => .ok found
  | found, (name, value) :: members =>
    match fields.find? (·.name == name) with
    | none => fieldsOfMembers fields found members
    | some field =>
      if (found.lookup name).isSome then .error .unfit
      else match field.kind.ofValue? value with
        | none => .error .unfit
        | some cell => fieldsOfMembers fields ((name, cell) :: found) members

def rowOfItems : List Field → List Value → Except Refusal (List Cell)
  | [], [] => .ok []
  | field :: fields, item :: items =>
    match field.kind.ofValue? item with
    | none => .error .unfit
    | some cell => do .ok (cell :: (← rowOfItems fields items))
  | _, _ => .error .unfit

/-! ### Records -/

class Record (α : Type) where
  fields : List Field
  cells : α → List Cell
  ofCells? : List Cell → Option α

/-- A type of several shapes, each of which is a record of its own. -/
class Shapes (α : Type) where
  names : List String
  fields : String → List Field
  name : α → String
  cells : α → List Cell
  ofCells? : String → List Cell → Option α

/-- A value made of cells that were read, if they make one. -/
def made {α : Type} : Option α → Except Refusal α
  | some a => .ok a
  | none => .error .unfit

def readWhole {α : Type} (reader : Reader α) (text : String) : Except Refusal α := do
  let (a, s) ← reader text.toList
  if (skipSpace s).isEmpty then .ok a else .error .malformed

def readRecord {α : Type} [Record α] (s : List Char) : Except Refusal (α × List Char) := do
  let (cells, s) ← readCells (Record.fields α) s
  .ok (← made (Record.ofCells? cells), s)

def writeRecord {α : Type} [Record α] (a : α) : List Char :=
  writeObject (((Record.fields α).map (·.name)).zip (Record.cells a))

/-- The member that names the shape of a value. -/
def tagName : String := "type"

/-- The members of an object up to its closing brace, with the shape that one of them names. -/
def readTagged (names : List String) :
    Nat → Nat → Bool → Option String → Reader (Option String × List (String × Value))
  | 0, _, _, _, _ => .error .cutShort
  | bound + 1, depth, first, tag, s => do
    match ← readKey first s with
    | (none, s) => .ok ((tag, []), s)
    | (some name, s) =>
      if name = tagName then
        if tag.isSome then .error .unfit
        else do
          let (shape, s) ← readName names (← readColon s)
          readTagged names bound depth false (some shape) s
      else do
        let (value, s) ← readValue depth (← readColon s)
        let ((tag, members), s) ← readTagged names bound depth false tag s
        .ok ((tag, (name, value) :: members), s)

/-- Reads a value of one of several shapes whose name is one of the members, or the first item of a
list. All of it is read before its fields are looked at. -/
def readInside {α : Type} [Shapes α] (s : List Char) : Except Refusal (α × List Char) :=
  let names := Shapes.names α
  match skipSpace s with
  | [] => .error .cutShort
  | '{' :: s => do
    match ← readTagged names (s.length + 1) (depthLimit - 1) true none s with
    | ((none, _), _) => .error .unfit
    | ((some shape, members), s) => do
      let found ← fieldsOfMembers (Shapes.fields α shape) [] members
      let cells ← collect (Shapes.fields α shape) found
      .ok (← made (Shapes.ofCells? shape cells), s)
  | '[' :: s => do
    match ← readMore true s with
    | (false, _) => .error .unfit
    | (true, s) => do
      let (shape, s) ← readName names s
      let (items, s) ← readItems (stepBound s) (depthLimit - 1) false s
      let cells ← rowOfItems (Shapes.fields α shape) items
      .ok (← made (Shapes.ofCells? shape cells), s)
  | s => .error (misfit s)

/-- Writes a value of one of several shapes as an object whose first member names the shape. -/
def writeInside {α : Type} [Shapes α] (a : α) : List Char :=
  let shape := Shapes.name a
  writeObject ((tagName, .text shape) ::
    ((Shapes.fields α shape).map (·.name)).zip (Shapes.cells a))

/-- Reads a value of one of several shapes from an object whose only key names the shape. The name
alone is no value, since every shape has fields. -/
def readAround {α : Type} [Shapes α] (s : List Char) : Except Refusal (α × List Char) :=
  match skipSpace s with
  | [] => .error .cutShort
  | '"' :: _ => do
    let _ ← readName (Shapes.names α) s
    .error .unfit
  | '{' :: s => do
    let (shape, s) ← readFirstKey (Shapes.names α) s
    let (cells, s) ← readCells (Shapes.fields α shape) (← readColon s)
    let a ← made (Shapes.ofCells? shape cells)
    .ok (a, ← closeObject s)
  | _ => .error .malformed

/-- Writes a value of one of several shapes as an object whose only key names the shape. -/
def writeAround {α : Type} [Shapes α] (a : α) : List Char :=
  let shape := Shapes.name a
  '{' :: writeString shape ++ ':' ::
    writeObject (((Shapes.fields α shape).map (·.name)).zip (Shapes.cells a)) ++ ['}']

end HubBridge.Json
