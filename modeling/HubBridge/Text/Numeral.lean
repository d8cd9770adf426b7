/-!
# Decimal numerals

Numbers written in ASCII digits, with at most one plus sign in front, below a bound.
-/

namespace HubBridge.Text

/-- Why a text is no numeral below the bound. -/
inductive NumeralFault
  | empty
  | badDigit
  | tooLarge
  deriving DecidableEq, Repr

namespace NumeralFault

def message : NumeralFault → String
  | empty => "cannot parse integer from empty string"
  | badDigit => "invalid digit found in string"
  | tooLarge => "number too large to fit in target type"

end NumeralFault

def digit? (c : Char) : Option Nat :=
  if '0' ≤ c && c ≤ '9' then some (c.toNat - '0'.toNat) else none

/-- Reads the digits after those that made `value`; the first fault from the left decides. -/
def readDigits (bound : Nat) : Nat → List Char → Except NumeralFault Nat
  | value, [] => .ok value
  | value, c :: cs =>
    match digit? c with
    | none => .error .badDigit
    | some d =>
      if value * 10 + d < bound then readDigits bound (value * 10 + d) cs else .error .tooLarge

/-- The number below `bound` that a text writes. A sign alone is a bad digit. -/
def readNumeral (bound : Nat) (s : String) : Except NumeralFault Nat :=
  match s.toList with
  | [] => .error .empty
  | ['+'] => .error .badDigit
  | '+' :: cs => readDigits bound 0 cs
  | cs => readDigits bound 0 cs

end HubBridge.Text
