import HubBridge.Reading

/-!
# Commands

A `Request` is what a caller asks of the hub; with a correlation id it becomes a `Command`, which is
written as one line and sent as one datagram.
-/

namespace HubBridge

open Text

/-- A command before it has an id. -/
structure Request where
  moduleId : ModuleId
  target : Target
  action : String
  deriving DecidableEq, Repr

namespace Request

/-- The request for an action, which has to be one word; a blank one asks for the status. -/
def ofAction (moduleId : ModuleId) (target : Target) (action : String) : Except Fault Request :=
  let action := trim action
  if action.toList.any isBlank then
    .error (.invalidFormat ("Action must be a single token: " ++ quote action))
  else if action.isEmpty then .ok ⟨moduleId, target, queryAction⟩
  else .ok ⟨moduleId, target, action⟩

/-- A part as it was meant: absent if it is blank, and without surrounding white space if not. -/
def given (part : Option String) : Option String :=
  (part.map trim).filter (!·.isEmpty)

/-- The request with these parts, each replaced by its default where it is absent or blank. The
first bad part from the left decides. -/
def ofParts (moduleId target action : Option String) : Except Fault Request := do
  let moduleId ← match given moduleId with
    | some s => ModuleId.ofText s
    | none => .ok .default
  let target ← match given target with
    | some s => Target.ofText s
    | none => .ok .default
  ofAction moduleId target (action.getD queryAction)

def status (moduleId : ModuleId) : Request := ⟨moduleId, .default, queryAction⟩

end Request

structure Command where
  moduleId : ModuleId
  id : CorrelationId
  target : Target
  action : String
  deriving DecidableEq, Repr

/-- The room that is set aside for a datagram, in octets. -/
def datagramRoom : Nat := 2048

def commandKind : String := "COMMAND"

def Request.toCommand (r : Request) (id : CorrelationId) : Command :=
  ⟨r.moduleId, id, r.target, r.action⟩

namespace Command

def line (c : Command) : String :=
  unwords [c.moduleId.text, commandKind, c.id.toText, c.target.text, c.action]

/-- The datagram of a command: its line and one newline. -/
def encode (c : Command) : ByteArray := (c.line ++ "\n").toUTF8

end Command

/-- The datagram of a line that a caller wrote: its line ends are replaced by one newline. -/
def encodeRaw (s : String) : ByteArray :=
  (String.ofList (dropEndWhile (fun c => c == '\r' || c == '\n') s.toList) ++ "\n").toUTF8

end HubBridge
