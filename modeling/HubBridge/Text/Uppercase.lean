import HubBridge.Text.CaseTable

/-!
# Upper case

Full Unicode upper-casing, character by character; the console's command words are lower-cased in
ASCII alone.
-/

namespace HubBridge.Text

/-- The upper case of one character, which may be several. -/
def upperChar (c : Char) : List Char :=
  let n := c.toNat
  if n < 0x80 then [if 0x61 ≤ n && n ≤ 0x7A then Char.ofNat (n - 0x20) else c]
  else match expansions.lookup n with
    | some image => image.map Char.ofNat
    | none => match shifts.find? (·.covers n) with
      | some s => [Char.ofNat (s.image + (n - s.first))]
      | none => [c]

def upper (s : String) : String := .ofList (s.toList.flatMap upperChar)

/-- The lower case of an ASCII letter; any other character stays. -/
def lowerAsciiChar (c : Char) : Char :=
  let n := c.toNat
  if 0x41 ≤ n && n ≤ 0x5A then Char.ofNat (n + 0x20) else c

def lowerAscii (s : String) : String := .ofList (s.toList.map lowerAsciiChar)

end HubBridge.Text
