import HubBridge.Json.Lexeme

/-!
# Whole JSON values

Reading a value of any shape, and passing over one. Values that are read may nest 127 brackets deep;
those that are passed over may nest as deep as they like.
-/

namespace HubBridge.Json

inductive Value
  | null
  | bool (b : Bool)
  | number (n : Number)
  | string (s : String)
  | list (items : List Value)
  | object (members : List (String × Value))

/-- A value is read with this many brackets to go, the last of which is never opened. -/
def depthLimit : Nat := 128

/-- The next key of an object, or nothing after its closing brace. -/
def readKey (first : Bool) (s : List Char) : Except Refusal (Option String × List Char) :=
  let key (s : List Char) : Except Refusal (Option String × List Char) := do
    let (name, s) ← readString s
    .ok (some name, s)
  match skipSpace s with
  | [] => .error .cutShort
  | '}' :: s => .ok (none, s)
  | '"' :: s => if first then key s else .error .malformed
  | ',' :: s =>
    if first then .error .malformed
    else match skipSpace s with
      | [] => .error .cutShort
      | '"' :: s => key s
      | _ => .error .malformed
  | _ => .error .malformed

def readColon (s : List Char) : Except Refusal (List Char) :=
  match skipSpace s with
  | [] => .error .cutShort
  | ':' :: s => .ok s
  | _ => .error .malformed

/-- Whether a list has another item, which then comes next; its closing bracket is passed over. -/
def readMore (first : Bool) (s : List Char) : Except Refusal (Bool × List Char) :=
  match skipSpace s with
  | [] => .error .cutShort
  | ']' :: s => .ok (false, s)
  | c :: s =>
    if first then .ok (true, c :: s)
    else if c = ',' then
      match skipSpace s with
      | [] => .error .cutShort
      | ']' :: _ => .error .malformed
      | s => .ok (true, s)
    else .error .malformed

mutual

/-- A value. The bound on the steps is not met if it is the text's `stepBound`. -/
def readValueWithin : Nat → Nat → Reader Value
  | 0, _, _ => .error .cutShort
  | bound + 1, depth, s =>
    match skipSpace s with
    | [] => .error .cutShort
    | 'n' :: s => do .ok (.null, ← expect "ull".toList s)
    | 't' :: s => do .ok (.bool true, ← expect "rue".toList s)
    | 'f' :: s => do .ok (.bool false, ← expect "alse".toList s)
    | '-' :: s => do
      let (n, s) ← readNumber true s
      .ok (.number n, s)
    | '"' :: s => do
      let (text, s) ← readString s
      .ok (.string text, s)
    | '[' :: s =>
      if depth ≤ 1 then .error .malformed
      else do
        let (items, s) ← readItems bound (depth - 1) true s
        .ok (.list items, s)
    | '{' :: s =>
      if depth ≤ 1 then .error .malformed
      else do
        let (members, s) ← readMembers bound (depth - 1) true s
        .ok (.object members, s)
    | s =>
      if startsWithDigit s then do
        let (n, s) ← readNumber false s
        .ok (.number n, s)
      else .error .malformed

/-- The items of a list up to its closing bracket. -/
def readItems : Nat → Nat → Bool → Reader (List Value)
  | 0, _, _, _ => .error .cutShort
  | bound + 1, depth, first, s => do
    match ← readMore first s with
    | (false, s) => .ok ([], s)
    | (true, s) => do
      let (item, s) ← readValueWithin bound depth s
      let (items, s) ← readItems bound depth false s
      .ok (item :: items, s)

/-- The members of an object up to its closing brace. -/
def readMembers : Nat → Nat → Bool → Reader (List (String × Value))
  | 0, _, _, _ => .error .cutShort
  | bound + 1, depth, first, s => do
    match ← readKey first s with
    | (none, s) => .ok ([], s)
    | (some name, s) => do
      let (value, s) ← readValueWithin bound depth (← readColon s)
      let (members, s) ← readMembers bound depth false s
      .ok ((name, value) :: members, s)

end

/-- The number of steps that reading a text can take: at most two for each character. -/
def stepBound (s : List Char) : Nat := 2 * s.length + 2

/-- A value with so many brackets to go. -/
def readValue (depth : Nat) (s : List Char) : Except Refusal (Value × List Char) :=
  readValueWithin (stepBound s) depth s

/-- A bracket that is still open. -/
inductive Bracket
  | list
  | object
  deriving DecidableEq, Repr

/-- Passes over a key that nobody wants and its colon. -/
def skipKey (s : List Char) : Except Refusal (List Char) :=
  match skipSpace s with
  | [] => .error .cutShort
  | '"' :: s => do readColon (← skipString s)
  | _ => .error .malformed

/-- After a value inside these brackets: closes those that end here. What is left is the brackets
around the next value, of which there are none when the outermost value is complete. -/
def closeBrackets : List Bracket → List Char → Except Refusal (List Bracket × List Char)
  | [], s => .ok ([], s)
  | bracket :: outer, s =>
    match bracket, skipSpace s with
    | _, [] => .error .cutShort
    | .list, ',' :: s => .ok (.list :: outer, s)
    | .object, ',' :: s => do .ok (.object :: outer, ← skipKey s)
    | .list, ']' :: s => closeBrackets outer s
    | .object, '}' :: s => closeBrackets outer s
    | _, _ => .error .malformed

/-- Passes over the first part of a value: all of it, or an opening bracket that is not closed at
once. -/
def skipOpening (opened : List Bracket) (s : List Char) :
    Except Refusal (Option (List Bracket) × List Char) :=
  match skipSpace s with
  | [] => .error .cutShort
  | 'n' :: s => do .ok (none, ← expect "ull".toList s)
  | 't' :: s => do .ok (none, ← expect "rue".toList s)
  | 'f' :: s => do .ok (none, ← expect "alse".toList s)
  | '-' :: s => do .ok (none, ← skipNumber s)
  | '"' :: s => do .ok (none, ← skipString s)
  | '[' :: s =>
    match skipSpace s with
    | [] => .error .cutShort
    | ']' :: s => .ok (none, s)
    | s => .ok (some (.list :: opened), s)
  | '{' :: s =>
    match skipSpace s with
    | [] => .error .cutShort
    | '}' :: s => .ok (none, s)
    | s => do .ok (some (.object :: opened), ← skipKey s)
  | s => if startsWithDigit s then do .ok (none, ← skipNumber s) else .error .malformed

/-- Passes over a value inside these brackets and on to the end of the outermost one, with a bound
on the steps, each of which takes a character at least. -/
def skipWithin : Nat → List Bracket → List Char → Except Refusal (List Char)
  | 0, _, _ => .error .cutShort
  | bound + 1, opened, s => do
    match ← skipOpening opened s with
    | (some opened, s) => skipWithin bound opened s
    | (none, s) =>
      match ← closeBrackets opened s with
      | ([], s) => .ok s
      | (opened, s) => skipWithin bound opened s

def skipValue (s : List Char) : Except Refusal (List Char) := skipWithin (s.length + 1) [] s

end HubBridge.Json
