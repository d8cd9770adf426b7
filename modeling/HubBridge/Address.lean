import HubBridge.Text.Blank
import HubBridge.Text.Numeral

/-!
# Network addresses as text

IPv4 addresses in dotted form are read and written. IPv6 addresses are only told from what is no
address at all. What a name stands for is not known here: a `Resolver` tells.
-/

namespace HubBridge

open Text

structure IPv4 where
  a : UInt8
  b : UInt8
  c : UInt8
  d : UInt8
  deriving DecidableEq, Repr

namespace IPv4

/-- One number of an address: up to three digits, below 256, and no zero in front. -/
def readOctet? (cs : List Char) : Option UInt8 :=
  match cs with
  | [] => none
  | ['0'] => some 0
  | '0' :: _ => none
  | _ =>
    if 3 < cs.length then none
    else match readDigits 256 0 cs with
      | .ok n => some (UInt8.ofNat n)
      | .error _ => none

/-- The address in dotted form that makes up the whole text. -/
def ofChars? (cs : List Char) : Option IPv4 :=
  match splitAt (· == '.') cs with
  | [a, b, c, d] => do some ⟨← readOctet? a, ← readOctet? b, ← readOctet? c, ← readOctet? d⟩
  | _ => none

def toText (ip : IPv4) : String :=
  toString ip.a.toNat ++ "." ++ toString ip.b.toNat ++ "." ++ toString ip.c.toNat ++ "." ++
    toString ip.d.toNat

end IPv4

namespace IPv6

/-- Whether this is one group: up to four hexadecimal digits. -/
def isGroup (cs : List Char) : Bool :=
  !cs.isEmpty && cs.length ≤ 4 &&
    cs.all fun c => ('0' ≤ c && c ≤ '9') || ('a' ≤ c && c ≤ 'f') || ('A' ≤ c && c ≤ 'F')

/-- How many groups these parts are. Only the last may be an IPv4 address, which counts as two. -/
def countGroups? : List (List Char) → Option Nat
  | [] => some 0
  | [part] =>
    if isGroup part then some 1 else if (IPv4.ofChars? part).isSome then some 2 else none
  | part :: rest => if isGroup part then (countGroups? rest).map (· + 1) else none

/-- The groups between colons; nothing at all is no group. -/
def groupsOf? (cs : List Char) : Option Nat :=
  if cs.isEmpty then some 0 else countGroups? (splitAt (· == ':') cs)

/-- The text before and after the first two colons in a row. -/
def splitGap : List Char → Option (List Char × List Char)
  | ':' :: ':' :: rest => some ([], rest)
  | c :: rest => (splitGap rest).map fun (front, back) => (c :: front, back)
  | [] => none

/-- Whether the text is an IPv6 address: eight groups, or fewer with one gap that stands for one
group of zeros at least. Before the gap there is no IPv4 part. -/
def isAddress (cs : List Char) : Bool :=
  match splitGap cs with
  | none => groupsOf? cs == some 8
  | some (front, back) =>
    (front.isEmpty || (splitAt (· == ':') front).all isGroup) &&
      match groupsOf? front, groupsOf? back with
      | some n, some k => n + k ≤ 7
      | _, _ => false

end IPv6

/-- An address of a host. One that is not IPv4 is not needed any further. -/
inductive HostAddress
  | ipv4 (ip : IPv4)
  | ipv6
  deriving DecidableEq, Repr

def HostAddress.ipv4? : HostAddress → Option IPv4
  | ipv4 ip => some ip
  | ipv6 => none

/-- Looks up a host by its name: all addresses that it has, or the cause if it is not found. -/
abbrev Resolver := String → Except String (List HostAddress)

structure Endpoint where
  host : IPv4
  port : UInt16
  deriving DecidableEq, Repr

def Endpoint.toText (e : Endpoint) : String := e.host.toText ++ ":" ++ toString e.port.toNat

end HubBridge
