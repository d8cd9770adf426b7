import HubBridge.Fault
import HubBridge.Text.Blank
import HubBridge.Text.Numeral
import HubBridge.Text.Quoted

/-!
# Identifiers

Modules and targets are named by single words, commands by 64-bit correlation ids. An identifier
that arrives inside an event is taken as it stands; the checks here are for those that are built.
-/

namespace HubBridge

open Text

structure ModuleId where
  text : String
  deriving DecidableEq, Repr

namespace ModuleId

def default : ModuleId := ⟨"D1"⟩

/-- Every loosely written id is completed to start with this letter. -/
def initial : Char := 'D'

/-- The module of that name, which has to be one word. -/
def ofText (s : String) : Except Fault ModuleId :=
  if isWord s then .ok ⟨s⟩ else .error (.invalidModuleId (quote s))

/-- The module that a person means by `s`: white space around it is dropped and a missing initial
letter put in front. -/
def ofLooseText (s : String) : Except Fault ModuleId :=
  let s := trim s
  if s.toList.head? = some initial then ofText s else ofText (initial.toString ++ s)

/-- Modules are ordered by their names, character by character. -/
instance : Ord ModuleId := ⟨fun a b => compare a.text b.text⟩

instance : Std.TransOrd ModuleId :=
  inferInstanceAs (Std.TransCmp (compareOn ModuleId.text))

instance : Std.LawfulEqOrd ModuleId where
  eq_of_compare {a b} h := by
    have : a.text = b.text := Std.LawfulEqOrd.eq_of_compare h
    cases a; cases b; simp_all

end ModuleId

/-- A part of a module that commands address. -/
structure Target where
  text : String
  deriving DecidableEq, Repr

namespace Target

def default : Target := ⟨"D0"⟩

/-- The target of that name, which has to be one word. -/
def ofText (s : String) : Except Fault Target :=
  if isWord s then .ok ⟨s⟩ else .error (.invalidFormat ("Invalid target: " ++ quote s))

end Target

/-- The number that ties a reply to its command. -/
structure CorrelationId where
  value : UInt64
  deriving DecidableEq, Repr

namespace CorrelationId

def first : CorrelationId := ⟨1⟩

def next (id : CorrelationId) : CorrelationId := ⟨id.value + 1⟩

def toText (id : CorrelationId) : String := toString id.value.toNat

def ofText (s : String) : Except Fault CorrelationId :=
  match readNumeral UInt64.size s with
  | .ok n => .ok ⟨UInt64.ofNat n⟩
  | .error _ => .error (.invalidCorrelationId s)

instance : Ord CorrelationId := ⟨fun a b => compare a.value b.value⟩

instance : Std.TransOrd CorrelationId :=
  inferInstanceAs (Std.TransCmp (compareOn CorrelationId.value))

instance : Std.LawfulEqOrd CorrelationId where
  eq_of_compare {a b} h := by
    have : a.value = b.value := Std.LawfulEqOrd.eq_of_compare h
    cases a; cases b; simp_all

end CorrelationId

end HubBridge
