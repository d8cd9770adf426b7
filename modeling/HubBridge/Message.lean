import HubBridge.Command
import HubBridge.Text.Octets

/-!
# Messages from the hub

One datagram carries one line. A line that follows the grammar becomes a message of its kind; any
other is kept as it is, so that no datagram is an error.
-/

namespace HubBridge

open Text

/-- A line of the hub. Each message keeps the trimmed line as `raw`. -/
inductive Message
  | feedback (moduleId : ModuleId) (id : CorrelationId) (target : Target) (rawAction raw : String)
  | event (moduleId : ModuleId) (target : Target) (rawEvent raw : String)
  | heartbeat (moduleId : ModuleId) (raw : String)
  | hello (moduleId : ModuleId) (raw : String)
  | raw (raw : String)
  deriving DecidableEq, Repr

def feedbackKind : String := "FEEDBACK"

def eventKind : String := "EVENT"

def heartbeatKind : String := "HEARTBEAT"

def helloKind : String := "HELLO"

namespace Message

def moduleId? : Message → Option ModuleId
  | feedback m .. | event m .. | heartbeat m _ | hello m _ => some m
  | raw _ => none

def text : Message → String
  | feedback _ _ _ _ r | event _ _ _ r | heartbeat _ r | hello _ r | raw r => r

/-- The message of a trimmed line with these words. Where a part is not what its place asks for, the
fault says so. -/
def ofWords (line : String) : List String → Except Fault Message
  | sender :: kind :: rest => do
    let m ← ModuleId.ofText sender
    if kind = feedbackKind then
      match rest with
      | id :: target :: first :: more =>
        return .feedback m (← CorrelationId.ofText id) (← Target.ofText target)
          (unwords (first :: more)) line
      | _ => return .raw line
    else if kind = eventKind then
      match rest with
      | target :: first :: more =>
        return .event m (← Target.ofText target) (unwords (first :: more)) line
      | _ => return .raw line
    else if kind = heartbeatKind then return .heartbeat m line
    else if kind = helloKind then return .hello m line
    else return .raw line
  | _ => .ok (.raw line)

def ofLine (line : String) : Message :=
  let line := trim line
  match ofWords line (words line) with
  | .ok message => message
  | .error _ => .raw line

/-- The message of one datagram. Octets that are not UTF-8 make it a raw line. -/
def ofDatagram (bytes : ByteArray) : Message :=
  match String.fromUTF8? bytes with
  | some line => ofLine line
  | none => .raw (trim (Octets.text bytes))

end Message

end HubBridge
