import HubBridge.Json.Record
import HubBridge.Message

/-!
# What observers are told

Events go to every observer and to whoever asked for a command. A `Reply` is the good end of a
command as its caller sees it.
-/

namespace HubBridge

inductive FailureKind
  | timeout
  | transport
  deriving DecidableEq, Repr

namespace FailureKind

def name : FailureKind → String
  | timeout => "timeout"
  | transport => "transport"

def all : List FailureKind := [timeout, transport]

def ofName? (s : String) : Option FailureKind := all.find? (·.name == s)

end FailureKind

inductive Event
  | doorFeedback (moduleId : ModuleId) (target : Target) (status : Status) (rawAction : String)
  | commandFeedback (moduleId : ModuleId) (id : CorrelationId) (target : Target) (status : Status)
      (rawAction raw : String)
  | hubEvent (moduleId : ModuleId) (target : Target) (event : String) (status : Status)
      (raw : String)
  | hubHeartbeat (moduleId : ModuleId) (raw : String)
  | hubHello (moduleId : ModuleId) (raw : String)
  | hubRaw (raw : String)
  | commandError (moduleId : ModuleId) (id : CorrelationId) (kind : FailureKind) (error : String)
  deriving DecidableEq, Repr

namespace Event

/-- The name under which observers listen for an event. -/
def name : Event → String
  | doorFeedback .. => "door-feedback"
  | commandFeedback .. => "command-feedback"
  | hubEvent .. => "hub-event"
  | hubHeartbeat .. => "hub-heartbeat"
  | hubHello .. => "hub-hello"
  | hubRaw .. => "hub-raw"
  | commandError .. => "command-error"

end Event

structure Reply where
  moduleId : ModuleId
  id : CorrelationId
  target : Target
  status : Status
  rawAction : String
  deriving DecidableEq, Repr

/-- One module as a reply to a status query shows it, with the reply's own text. -/
structure DoorSnapshot where
  moduleId : ModuleId
  target : Target
  status : String
  positions : Positions
  deriving DecidableEq, Repr

/-- Both positions are read from the text of the reply. -/
def DoorSnapshot.ofReply (r : Reply) : DoorSnapshot :=
  ⟨r.moduleId, r.target, r.rawAction, .ofAction r.rawAction⟩

namespace Json

def textField (name : String) : Field := ⟨name, .text⟩

def statusField (name : String) : Field := ⟨name, .word (Status.all.map Status.name)⟩

instance : Record Door where
  fields := [textField "moduleId", ⟨"doorOpen", .flag⟩, ⟨"lockLocked", .flag⟩]
  cells d := [.text d.moduleId.text, .flag d.isOpen, .flag d.isLocked]
  ofCells?
    | [.text m, .flag isOpen, .flag isLocked] => some ⟨⟨m⟩, isOpen, isLocked⟩
    | _ => none

instance : Record Positions where
  fields := [⟨"doorOpen", .flag⟩, ⟨"lockLocked", .flag⟩]
  cells p := [.flag p.isOpen, .flag p.isLocked]
  ofCells?
    | [.flag isOpen, .flag isLocked] => some ⟨isOpen, isLocked⟩
    | _ => none

instance : Record Reading where
  fields := [statusField "status", ⟨"format", .word (Encoding.all.map Encoding.name)⟩]
  cells r := [.text r.status.name, .text r.encoding.name]
  ofCells?
    | [.text status, .text encoding] => do
      some ⟨← Status.ofName? status, ← Encoding.ofName? encoding⟩
    | _ => none

instance : Record Request where
  fields := [textField "module", textField "target", textField "action"]
  cells r := [.text r.moduleId.text, .text r.target.text, .text r.action]
  ofCells?
    | [.text m, .text target, .text action] => some ⟨⟨m⟩, ⟨target⟩, action⟩
    | _ => none

instance : Record Command where
  fields :=
    [textField "module", ⟨"correlation_id", .number⟩, textField "target", textField "action"]
  cells c := [.text c.moduleId.text, .number c.id.value, .text c.target.text, .text c.action]
  ofCells?
    | [.text m, .number id, .text target, .text action] => some ⟨⟨m⟩, ⟨id⟩, ⟨target⟩, action⟩
    | _ => none

instance : Record Reply where
  fields :=
    [textField "module", ⟨"correlationId", .number⟩, textField "target", statusField "status",
      textField "rawAction"]
  cells r :=
    [.text r.moduleId.text, .number r.id.value, .text r.target.text, .text r.status.name,
      .text r.rawAction]
  ofCells?
    | [.text m, .number id, .text target, .text status, .text rawAction] => do
      some ⟨⟨m⟩, ⟨id⟩, ⟨target⟩, ← Status.ofName? status, rawAction⟩
    | _ => none

instance : Record DoorSnapshot where
  fields :=
    [textField "moduleId", textField "target", textField "status", ⟨"doorOpen", .flag⟩,
      ⟨"lockLocked", .flag⟩]
  cells i :=
    [.text i.moduleId.text, .text i.target.text, .text i.status, .flag i.positions.isOpen,
      .flag i.positions.isLocked]
  ofCells?
    | [.text m, .text target, .text status, .flag isOpen, .flag isLocked] =>
      some ⟨⟨m⟩, ⟨target⟩, status, ⟨isOpen, isLocked⟩⟩
    | _ => none

instance : Shapes Event where
  names :=
    ["door-feedback", "command-feedback", "hub-event", "hub-heartbeat", "hub-hello", "hub-raw",
      "command-error"]
  fields
    | "door-feedback" =>
      [textField "module", textField "target", statusField "status", textField "rawAction"]
    | "command-feedback" =>
      [textField "module", ⟨"correlationId", .number⟩, textField "target", statusField "status",
        textField "rawAction", textField "raw"]
    | "hub-event" =>
      [textField "module", textField "target", textField "event", statusField "status",
        textField "raw"]
    | "hub-heartbeat" | "hub-hello" => [textField "module", textField "raw"]
    | "hub-raw" => [textField "raw"]
    | "command-error" =>
      [textField "module", ⟨"correlationId", .number⟩,
        ⟨"kind", .word (FailureKind.all.map FailureKind.name)⟩, textField "error"]
    | _ => []
  name := Event.name
  cells
    | .doorFeedback m target status rawAction =>
      [.text m.text, .text target.text, .text status.name, .text rawAction]
    | .commandFeedback m id target status rawAction raw =>
      [.text m.text, .number id.value, .text target.text, .text status.name, .text rawAction,
        .text raw]
    | .hubEvent m target event status raw =>
      [.text m.text, .text target.text, .text event, .text status.name, .text raw]
    | .hubHeartbeat m raw | .hubHello m raw => [.text m.text, .text raw]
    | .hubRaw raw => [.text raw]
    | .commandError m id kind error =>
      [.text m.text, .number id.value, .text kind.name, .text error]
  ofCells?
    | "door-feedback", [.text m, .text target, .text status, .text rawAction] => do
      some (.doorFeedback ⟨m⟩ ⟨target⟩ (← Status.ofName? status) rawAction)
    | "command-feedback",
        [.text m, .number id, .text target, .text status, .text rawAction, .text raw] => do
      some (.commandFeedback ⟨m⟩ ⟨id⟩ ⟨target⟩ (← Status.ofName? status) rawAction raw)
    | "hub-event", [.text m, .text target, .text event, .text status, .text raw] => do
      some (.hubEvent ⟨m⟩ ⟨target⟩ event (← Status.ofName? status) raw)
    | "hub-heartbeat", [.text m, .text raw] => some (.hubHeartbeat ⟨m⟩ raw)
    | "hub-hello", [.text m, .text raw] => some (.hubHello ⟨m⟩ raw)
    | "hub-raw", [.text raw] => some (.hubRaw raw)
    | "command-error", [.text m, .number id, .text kind, .text error] => do
      some (.commandError ⟨m⟩ ⟨id⟩ (← FailureKind.ofName? kind) error)
    | _, _ => none

instance : Shapes Message where
  names := ["Feedback", "Event", "Heartbeat", "Hello", "Raw"]
  fields
    | "Feedback" =>
      [textField "module", ⟨"correlation_id", .number⟩, textField "target",
        textField "raw_action", textField "raw"]
    | "Event" => [textField "module", textField "target", textField "raw_event", textField "raw"]
    | "Heartbeat" | "Hello" => [textField "module", textField "raw"]
    | "Raw" => [textField "raw"]
    | _ => []
  name
    | .feedback .. => "Feedback"
    | .event .. => "Event"
    | .heartbeat .. => "Heartbeat"
    | .hello .. => "Hello"
    | .raw _ => "Raw"
  cells
    | .feedback m id target rawAction raw =>
      [.text m.text, .number id.value, .text target.text, .text rawAction, .text raw]
    | .event m target rawEvent raw =>
      [.text m.text, .text target.text, .text rawEvent, .text raw]
    | .heartbeat m raw | .hello m raw => [.text m.text, .text raw]
    | .raw raw => [.text raw]
  ofCells?
    | "Feedback", [.text m, .number id, .text target, .text rawAction, .text raw] =>
      some (.feedback ⟨m⟩ ⟨id⟩ ⟨target⟩ rawAction raw)
    | "Event", [.text m, .text target, .text rawEvent, .text raw] =>
      some (.event ⟨m⟩ ⟨target⟩ rawEvent raw)
    | "Heartbeat", [.text m, .text raw] => some (.heartbeat ⟨m⟩ raw)
    | "Hello", [.text m, .text raw] => some (.hello ⟨m⟩ raw)
    | "Raw", [.text raw] => some (.raw raw)
    | _, _ => none

def readStatus (s : List Char) : Except Refusal (Status × List Char) := do
  let (name, s) ← readWord (Status.all.map Status.name) s
  .ok (← made (Status.ofName? name), s)

end Json

/-- An event as one line of JSON, its name first. -/
def Event.toLine (e : Event) : String := .ofList (Json.writeInside e)

def DoorSnapshot.toLine (i : DoorSnapshot) : String := .ofList (Json.writeRecord i)

/-- A door's record as one line of JSON, with whether its module was heard of lately; the members
stand in alphabetical order. -/
def Door.toLine (d : Door) (online : Bool) : String :=
  .ofList (Json.writeObject
    [("doorOpen", .flag d.isOpen), ("lockLocked", .flag d.isLocked),
      ("moduleId", .text d.moduleId.text), ("online", .flag (some online))])

end HubBridge
