/-!
# White space

What counts as blank, and the ways of cutting a text at blanks: `trim`, `words` and `tokens`.
-/

namespace HubBridge.Text

/-- The Unicode property `White_Space`. -/
def isBlank (c : Char) : Bool :=
  let n := c.toNat
  (0x09 ≤ n && n ≤ 0x0D) || n == 0x20 || n == 0x85 || n == 0xA0 || n == 0x1680 ||
    (0x2000 ≤ n && n ≤ 0x200A) || n == 0x2028 || n == 0x2029 || n == 0x202F || n == 0x205F ||
    n == 0x3000

/-- A comma separates status tokens just as a blank does. -/
def isSeparator (c : Char) : Bool := c == ',' || isBlank c

/-- The list without the characters of `p` at its end. -/
def dropEndWhile (p : Char → Bool) (cs : List Char) : List Char :=
  (cs.reverse.dropWhile p).reverse

/-- The list without the characters of `p` at its two ends. -/
def strip (p : Char → Bool) (cs : List Char) : List Char :=
  dropEndWhile p (cs.dropWhile p)

/-- The text between the characters of `sep`, empty pieces included. -/
def splitAt (sep : Char → Bool) : List Char → List (List Char)
  | [] => [[]]
  | c :: cs =>
    if sep c then [] :: splitAt sep cs
    else match splitAt sep cs with
      | piece :: rest => (c :: piece) :: rest
      | [] => [[c]]

/-- The pieces between the characters of `sep` that are not empty. -/
def pieces (sep : Char → Bool) (cs : List Char) : List (List Char) :=
  (splitAt sep cs).filter (fun piece => !piece.isEmpty)

def trim (s : String) : String := .ofList (strip isBlank s.toList)

@[simp]
theorem toList_trim (s : String) : (trim s).toList = strip isBlank s.toList :=
  String.toList_ofList

/-- The pieces of a text between runs of white space. -/
def words (s : String) : List String := (pieces isBlank s.toList).map .ofList

/-- The pieces of a text between commas and white space. -/
def tokens (s : String) : List String := (pieces isSeparator s.toList).map .ofList

def unwords (ws : List String) : String := " ".intercalate ws

def isAllBlank (s : String) : Bool := s.toList.all isBlank

/-- A word can stand as one token of a line: it holds a character and no white space. -/
def isWord (s : String) : Bool := !s.toList.isEmpty && !s.toList.any isBlank

/-- The text up to the first white space, and the text after that one character, if there is any. -/
def firstWord (s : String) : String × String :=
  let cs := s.toList
  (.ofList (cs.takeWhile (!isBlank ·)), .ofList ((cs.dropWhile (!isBlank ·)).drop 1))

/-- What follows `lead` in a text that starts with it. -/
def after? (lead s : String) : Option String :=
  (lead.toList.isPrefixOf? s.toList).map .ofList

/-- Whether `part` occurs in `whole` as a run of neighbouring characters. -/
def occursIn (part : List Char) : List Char → Bool
  | [] => part.isEmpty
  | c :: cs => part.isPrefixOf (c :: cs) || occursIn part cs

def contains (s part : String) : Bool := occursIn part.toList s.toList

end HubBridge.Text
