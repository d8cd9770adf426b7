/-!
# Octets that need not be UTF-8

`Octets.text` reads any octets: each maximal part that begins a UTF-8 sequence and cannot be
completed becomes one replacement character.
-/

namespace HubBridge.Text.Octets

/-- Where the reader stands: between characters, or inside one whose next octet has to lie between
`low` and `high` and is followed by `owed` more. -/
inductive State
  | start
  | inside (code : Nat) (low high : Nat) (owed : Nat)
  deriving DecidableEq, Repr

def replacement : Char := Char.ofNat 0xFFFD

/-- The first octet of a character: the state after it and what it completes. -/
def first (b : UInt8) : State × List Char :=
  let n := b.toNat
  if n < 0x80 then (.start, [Char.ofNat n])
  else if 0xC2 ≤ n && n ≤ 0xDF then (.inside (n - 0xC0) 0x80 0xBF 0, [])
  else if n = 0xE0 then (.inside 0 0xA0 0xBF 1, [])
  else if n = 0xED then (.inside 0xD 0x80 0x9F 1, [])
  else if 0xE1 ≤ n && n ≤ 0xEF then (.inside (n - 0xE0) 0x80 0xBF 1, [])
  else if n = 0xF0 then (.inside 0 0x90 0xBF 2, [])
  else if 0xF1 ≤ n && n ≤ 0xF3 then (.inside (n - 0xF0) 0x80 0xBF 2, [])
  else if n = 0xF4 then (.inside 4 0x80 0x8F 2, [])
  else (.start, [replacement])

/-- One octet: the state after it and the characters it completes. An octet that cannot go on
replaces the character it interrupts and then begins one of its own. -/
def step : State → UInt8 → State × List Char
  | .start, b => first b
  | .inside code low high owed, b =>
    if low ≤ b.toNat && b.toNat ≤ high then
      let code := code * 0x40 + (b.toNat - 0x80)
      match owed with
      | 0 => (.start, [Char.ofNat code])
      | owed + 1 => (.inside code 0x80 0xBF owed, [])
    else
      let (state, cs) := first b
      (state, replacement :: cs)

def read : State → List UInt8 → List Char
  | .start, [] => []
  | .inside .., [] => [replacement]
  | state, b :: bs =>
    let (state, cs) := step state b
    cs ++ read state bs

def text (bytes : ByteArray) : String := .ofList (read .start bytes.toList)

end HubBridge.Text.Octets
