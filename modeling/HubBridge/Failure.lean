import HubBridge.Identifier

/-!
# Failures of the bridge

How a command or the start of a session can fail, and the words for it. A failure is told to the
caller it concerns and to nobody else.
-/

namespace HubBridge

/-- Why the bridge could not do what it was asked for. -/
inductive Failure
  /-- The datagram could not be sent. -/
  | transport (cause : String)
  /-- The same, as it is told through a requester. -/
  | sendFailed (moduleId : ModuleId) (id : CorrelationId) (cause : String)
  /-- No reply came in time. -/
  | timeout (moduleId : ModuleId) (id : CorrelationId)
  /-- The id is taken by another command. -/
  | duplicateId (id : CorrelationId)
  /-- The session ended before the reply. -/
  | closed
  | protocol (fault : Fault)
  | settings (detail : String)
  deriving DecidableEq, Repr

namespace Failure

/-- A fault of the input or output is one of the transport. -/
def ofFault : Fault → Failure
  | .io cause => transport cause
  | fault => protocol fault

def message : Failure → String
  | transport cause => "Transport error: " ++ cause
  | sendFailed m id cause =>
    "Send failed for command " ++ id.toText ++ " to " ++ m.text ++ ": " ++ cause
  | timeout m id => "No FEEDBACK from hub for command " ++ id.toText ++ " to " ++ m.text
  | duplicateId id => "Correlation id " ++ id.toText ++ " is already pending"
  | closed => "Session closed"
  | protocol fault => "Protocol error: " ++ fault.message
  | settings detail => "Configuration error: " ++ detail

def isTimeout : Failure → Bool
  | timeout .. => true
  | _ => false

end Failure

end HubBridge
