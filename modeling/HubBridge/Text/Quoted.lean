import HubBridge.Text.Printable

/-!
# Quoted text

How a message shows a text it complains about: in double quotes, with everything invisible escaped.
-/

namespace HubBridge.Text

/-- The lower-case hexadecimal digits of a number, without leading zeros. -/
def hex (n : Nat) : List Char := Nat.toDigits 16 n

def quoteChar (c : Char) : List Char :=
  match c with
  | '"' => ['\\', '"']
  | '\\' => ['\\', '\\']
  | '\n' => ['\\', 'n']
  | '\r' => ['\\', 'r']
  | '\t' => ['\\', 't']
  | '\x00' => ['\\', '0']
  | _ => if isPrintable c then [c] else ['\\', 'u', '{'] ++ hex c.toNat ++ ['}']

/-- The text in double quotes, its quotes, backslashes and unprintable characters escaped. -/
def quote (s : String) : String := .ofList ('"' :: s.toList.flatMap quoteChar ++ ['"'])

end HubBridge.Text
