/-!
# Writing JSON

Compact JSON text: no white space, members in the order given, and in strings only what has to be
escaped is escaped.
-/

namespace HubBridge.Json

inductive Cell
  | text (s : String)
  | number (n : UInt64)
  | flag (b : Option Bool)
  deriving DecidableEq, Repr

/-- The lower-case hexadecimal digit of a number below 16. -/
def hexDigit (n : Nat) : Char := Nat.digitChar n

def escapeChar (c : Char) : List Char :=
  match c with
  | '"' => ['\\', '"']
  | '\\' => ['\\', '\\']
  | '\x08' => ['\\', 'b']
  | '\x0c' => ['\\', 'f']
  | '\n' => ['\\', 'n']
  | '\r' => ['\\', 'r']
  | '\t' => ['\\', 't']
  | _ =>
    if c.toNat < 0x20 then ['\\', 'u', '0', '0', hexDigit (c.toNat / 16), hexDigit (c.toNat % 16)]
    else [c]

def writeString (s : String) : List Char := '"' :: s.toList.flatMap escapeChar ++ ['"']

def writeCell : Cell → List Char
  | .text s => writeString s
  | .number n => (toString n.toNat).toList
  | .flag none => "null".toList
  | .flag (some true) => "true".toList
  | .flag (some false) => "false".toList

/-- The members of an object, with a comma between each two. -/
def writeMembers : List (String × Cell) → List Char
  | [] => []
  | [(name, cell)] => writeString name ++ ':' :: writeCell cell
  | (name, cell) :: rest => writeString name ++ ':' :: writeCell cell ++ ',' :: writeMembers rest

def writeObject (members : List (String × Cell)) : List Char :=
  '{' :: writeMembers members ++ ['}']

end HubBridge.Json
