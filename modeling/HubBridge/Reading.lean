import HubBridge.Status
import HubBridge.Text.Uppercase

/-!
# Reading statuses out of free text

Modules report their state in three encodings: `STATUS_LOCKED` (prefixed), a bare `STATUS` that only
echoes the query, and older pairs such as `CLOSED,UNLOCKED` in any order. `Reading.ofAction` reads a
reply, `Reading.ofEvent` a spontaneous event, and `Positions.ofAction` reads door and lock apart.
-/

namespace HubBridge

open Text

inductive Encoding
  | prefixed
  | bareEcho
  | tokenScan
  | unrecognized
  deriving DecidableEq, Repr

namespace Encoding

def name : Encoding → String
  | prefixed => "prefixed"
  | bareEcho => "bare-echo"
  | tokenScan => "token-scan"
  | unrecognized => "unrecognized"

def all : List Encoding := [prefixed, bareEcho, tokenScan, unrecognized]

def ofName? (s : String) : Option Encoding := all.find? (·.name == s)

end Encoding

def queryAction : String := "STATUS"

def lockAction : String := "LOCK"

def unlockAction : String := "UNLOCK"

def statusLead : String := "STATUS_"

def openToken : String := "OPEN"

def closedToken : String := "CLOSED"

def lockedToken : String := "LOCKED"

def unlockedToken : String := "UNLOCKED"

structure Reading where
  status : Status
  encoding : Encoding
  deriving DecidableEq, Repr

/-- The text without surrounding white space, in upper case: statuses are read in this form. -/
def canonicalText (raw : String) : String := upper (trim raw)

def lockOfToken (token : String) : Option Bool :=
  if token = lockedToken then some true
  else if token = unlockedToken then some false
  else none

def openOfToken (token : String) : Option Bool :=
  if token = openToken then some true
  else if token = closedToken then some false
  else none

/-- The last answer that a list of tokens gives to `read`. -/
def lastOf (read : String → Option Bool) (tokens : List String) : Option Bool :=
  tokens.foldl (fun found token => (read token).or found) none

/-- Whether the text speaks of a door position, alone or inside a longer word. -/
def mentionsDoor (s : String) : Bool := contains s openToken || contains s closedToken

/-- The status of a text in canonical form: the last lock position, or else an open door if that is
the last door position. -/
def scan (s : String) : Status :=
  match lastOf lockOfToken (tokens s), lastOf openOfToken (tokens s) with
  | some true, _ => .locked
  | some false, _ => .unlocked
  | none, some true => .opened
  | none, _ => .unknown

namespace Reading

def ofAction (raw : String) : Reading :=
  let s := canonicalText raw
  match after? statusLead s with
  | some rest =>
    let status :=
      if rest = lockedToken then .locked
      else if rest = unlockedToken then .unlocked
      else if rest = openToken then .opened
      else .unknown
    ⟨status, .prefixed⟩
  | none =>
    if s = queryAction then ⟨.unknown, .bareEcho⟩
    else if mentionsDoor s then ⟨scan s, .tokenScan⟩
    else ⟨.unknown, .unrecognized⟩

/-- Reads the text of an event, in which a lock position stands without a door position as well. -/
def ofEvent (raw : String) : Reading :=
  let status := scan (canonicalText raw)
  ⟨status, if status.isKnown then .tokenScan else .unrecognized⟩

/-- Whether the door's record changes with this reading: a prefixed status always counts, unknown
ones too, and a scanned one only if it told something. -/
def updatesDoor (r : Reading) : Bool :=
  match r.encoding with
  | .prefixed => true
  | .tokenScan => r.status.isKnown
  | .bareEcho | .unrecognized => false

end Reading

/-- The status that a module has promised to reach by echoing a bare `LOCK` or `UNLOCK`. -/
def acknowledged (raw : String) : Option Status :=
  let s := trim raw
  if s = lockAction then some .locked
  else if s = unlockAction then some .unlocked
  else none

/-- Door and lock as one reply gives them, independent of each other. -/
structure Positions where
  isOpen : Option Bool
  isLocked : Option Bool
  deriving DecidableEq, Repr

namespace Positions

def ofTokens (tokens : List String) : Positions :=
  ⟨lastOf openOfToken tokens, lastOf lockOfToken tokens⟩

/-- Reads both positions from the action of a reply; an open door with an engaged lock shows as
that. -/
def ofAction (raw : String) : Positions :=
  let s := canonicalText raw
  match after? statusLead s with
  | some rest => ofTokens [rest]
  | none => ofTokens (if mentionsDoor s then tokens s else [])

end Positions

end HubBridge
