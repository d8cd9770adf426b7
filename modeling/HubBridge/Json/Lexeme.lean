import HubBridge.Json.Number
import HubBridge.Text.Numeral

/-!
# The parts of a JSON text

Readers for strings, numbers and words. A reader meets the text from the left, and the first fault
it meets is the one it reports.
-/

namespace HubBridge.Json

open Text

/-- Why a text is refused: it ends too early, it is no JSON, or it is JSON of another shape than the
one asked for. -/
inductive Refusal
  | cutShort
  | malformed
  | unfit
  deriving DecidableEq, Repr

/-- A reader takes the text that is left and gives a value and what follows it. -/
abbrev Reader (α : Type) := List Char → Except Refusal (α × List Char)

/-- The white space that JSON allows between its parts. -/
def isSpace (c : Char) : Bool := c == ' ' || c == '\n' || c == '\t' || c == '\r'

/-- The text from its first part on. -/
def skipSpace (s : List Char) : List Char := s.dropWhile isSpace

def expect : List Char → List Char → Except Refusal (List Char)
  | [], s => .ok s
  | _ :: _, [] => .error .cutShort
  | w :: ws, c :: s => if c = w then expect ws s else .error .malformed

/-! ### Strings -/

def hexValue? (c : Char) : Option Nat :=
  if '0' ≤ c && c ≤ '9' then some (c.toNat - 0x30)
  else if 'a' ≤ c && c ≤ 'f' then some (c.toNat - 0x57)
  else if 'A' ≤ c && c ≤ 'F' then some (c.toNat - 0x37)
  else none

/-- Four hexadecimal digits. The text has ended too early if fewer than four octets are left. -/
def readUnit (s : List Char) : Except Refusal (Nat × List Char) :=
  match s.take 4 |>.mapM hexValue? with
  | some [a, b, c, d] => .ok (((a * 16 + b) * 16 + c) * 16 + d, s.drop 4)
  | _ => .error (if (String.ofList (s.take 4)).utf8ByteSize < 4 then .cutShort else .malformed)

def escaped? : Char → Option Char
  | '"' => some '"'
  | '\\' => some '\\'
  | '/' => some '/'
  | 'b' => some '\x08'
  | 'f' => some '\x0c'
  | 'n' => some '\n'
  | 'r' => some '\r'
  | 't' => some '\t'
  | _ => none

/-- The character after `\u`. One beyond U+FFFF takes two escapes, and neither may stand alone. -/
def readUnicode (s : List Char) : Except Refusal (Char × List Char) := do
  let (n, s) ← readUnit s
  if 0xDC00 ≤ n && n ≤ 0xDFFF then .error .malformed
  else if 0xD800 ≤ n && n ≤ 0xDBFF then
    let s ← expect ['\\', 'u'] s
    let (m, s) ← readUnit s
    if 0xDC00 ≤ m && m ≤ 0xDFFF then
      .ok (Char.ofNat ((n - 0xD800) * 0x400 + (m - 0xDC00) + 0x10000), s)
    else .error .malformed
  else .ok (Char.ofNat n, s)

/-- The next character of a string, or its closing quote. -/
def readPiece : Reader (Option Char)
  | [] => .error .cutShort
  | '"' :: s => .ok (none, s)
  | ['\\'] => .error .cutShort
  | '\\' :: 'u' :: s => do
    let (c, s) ← readUnicode s
    .ok (some c, s)
  | '\\' :: c :: s =>
    match escaped? c with
    | some d => .ok (some d, s)
    | none => .error .malformed
  | c :: s => if c.toNat < 0x20 then .error .malformed else .ok (some c, s)

/-- The next piece of a string that nobody wants: its escapes need not make characters. -/
def skipPiece : Reader Bool
  | [] => .error .cutShort
  | '"' :: s => .ok (false, s)
  | ['\\'] => .error .cutShort
  | '\\' :: 'u' :: s => do
    let (_, s) ← readUnit s
    .ok (true, s)
  | '\\' :: c :: s => if (escaped? c).isSome then .ok (true, s) else .error .malformed
  | c :: s => if c.toNat < 0x20 then .error .malformed else .ok (true, s)

/-- The characters up to the closing quote. Each piece takes a character at least, so the bound is
never met by a text no longer than it. -/
def readPieces : Nat → Reader (List Char)
  | 0, _ => .error .cutShort
  | bound + 1, s => do
    match ← readPiece s with
    | (none, s) => .ok ([], s)
    | (some c, s) => do
      let (cs, s) ← readPieces bound s
      .ok (c :: cs, s)

/-- A string, after its opening quote. -/
def readString (s : List Char) : Except Refusal (String × List Char) := do
  let (cs, s) ← readPieces (s.length + 1) s
  .ok (.ofList cs, s)

/-- Passes over the pieces up to the closing quote, with the bound of `readPieces`. -/
def skipPieces : Nat → List Char → Except Refusal (List Char)
  | 0, _ => .error .cutShort
  | bound + 1, s => do
    match ← skipPiece s with
    | (false, s) => .ok s
    | (true, s) => skipPieces bound s

/-- Passes over a string, after its opening quote. -/
def skipString (s : List Char) : Except Refusal (List Char) := skipPieces (s.length + 1) s

/-! ### Numbers -/

/-- A number: a natural number below 2^64, or any other. -/
inductive Number
  | natural (n : UInt64)
  | other
  deriving DecidableEq, Repr

def startsWithDigit : List Char → Bool
  | c :: _ => (digit? c).isSome
  | [] => false

def skipDigits (s : List Char) : List Char := s.dropWhile (fun c => (digit? c).isSome)

/-- Appends leading digits of the text to a significand as long as it stays below 2^64; also gives
how many it took. -/
def takeDigits (significand taken : Nat) : List Char → Nat × Nat × List Char
  | [] => (significand, taken, [])
  | c :: s =>
    match digit? c with
    | some d =>
      if significand * 10 + d < UInt64.size then takeDigits (significand * 10 + d) (taken + 1) s
      else (significand, taken, c :: s)
    | none => (significand, taken, c :: s)

/-- A number that is no natural number, if the double format holds it. -/
def otherNumber (significand : Nat) (exponent : Int) (s : List Char) :
    Except Refusal (Number × List Char) :=
  if fitsDouble significand exponent then .ok (.other, s) else .error .malformed

/-- The exponent of a number, after its letter. -/
def readExponent (significand : Nat) (exponent : Int) (s : List Char) :
    Except Refusal (Number × List Char) :=
  let (negative, s) := match s with
    | '+' :: s => (false, s)
    | '-' :: s => (true, s)
    | s => (false, s)
  if s.isEmpty then .error .cutShort
  else if !startsWithDigit s then .error .malformed
  else
    let digits := s.takeWhile (fun c => (digit? c).isSome)
    let power : Int := digits.foldl (fun n c => n * 10 + (digit? c).getD 0) 0
    otherNumber significand (if negative then exponent - power else exponent + power) (skipDigits s)

/-- The digits of a number after its point. Those that do not fit the significand are passed
over. -/
def readFraction (significand : Nat) (exponent : Int) (s : List Char) :
    Except Refusal (Number × List Char) :=
  if s.isEmpty then .error .cutShort
  else if !startsWithDigit s then .error .malformed
  else
    let (significand, taken, s) := takeDigits significand 0 s
    match skipDigits s with
    | 'e' :: s | 'E' :: s => readExponent significand (exponent - taken) s
    | s => otherNumber significand (exponent - taken) s

/-- A number, after its minus sign if it has one. Digits that do not fit the significand count as
powers of ten. -/
def readNumber (negative : Bool) : Reader Number
  | [] => .error .cutShort
  | c :: s =>
    match digit? c with
    | none => .error .malformed
    | some d =>
      if d = 0 && startsWithDigit s then .error .malformed
      else
        let (significand, _, s) := takeDigits d 0 s
        let exponent := (s.takeWhile fun c => (digit? c).isSome).length
        match skipDigits s with
        | '.' :: s => readFraction significand exponent s
        | 'e' :: s | 'E' :: s => readExponent significand exponent s
        | s =>
          if exponent = 0 then
            .ok (if negative then .other else .natural (UInt64.ofNat significand), s)
          else otherNumber significand exponent s

/-- Passes over digits, of which there has to be one. -/
def skipSomeDigits (s : List Char) : Except Refusal (List Char) :=
  if startsWithDigit s then .ok (skipDigits s) else .error .malformed

def skipExponent : List Char → Except Refusal (List Char)
  | 'e' :: s | 'E' :: s =>
    match s with
    | '+' :: s | '-' :: s => skipSomeDigits s
    | s => skipSomeDigits s
  | s => .ok s

/-- Passes over a number that nobody wants, after its minus sign if it has one. Its size does not
matter, and an early end counts as a missing digit. -/
def skipNumber (s : List Char) : Except Refusal (List Char) := do
  let rest ← skipSomeDigits s
  if s.head? = some '0' && rest.length + 1 ≠ s.length then .error .malformed
  else
    match rest with
    | '.' :: s => do skipExponent (← skipSomeDigits s)
    | s => skipExponent s

/-! ### Misfits -/

/-- What is wrong with a value that is not of the kind asked for: its own first fault, if it has one
in its first part. -/
def misfit (s : List Char) : Refusal :=
  let fault : Except Refusal Unit := match s with
    | 'n' :: s => (expect "ull".toList s).map fun _ => ()
    | 't' :: s => (expect "rue".toList s).map fun _ => ()
    | 'f' :: s => (expect "alse".toList s).map fun _ => ()
    | '-' :: s => (readNumber true s).map fun _ => ()
    | '"' :: s => (readString s).map fun _ => ()
    | '[' :: _ | '{' :: _ => .ok ()
    | s => if startsWithDigit s then (readNumber false s).map fun _ => () else .error .malformed
  match fault with
  | .ok () => .unfit
  | .error refusal => refusal

end HubBridge.Json
