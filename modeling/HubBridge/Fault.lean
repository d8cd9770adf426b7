/-!
# Faults of messages

What can be wrong with a message from or to the hub, or with one of its parts, and the words for it.
-/

namespace HubBridge

inductive Fault
  | invalidFormat (detail : String)
  | invalidCorrelationId (text : String)
  | invalidModuleId (shown : String)
  | io (cause : String)
  deriving DecidableEq, Repr

namespace Fault

def message : Fault → String
  | invalidFormat detail => "Invalid message format: " ++ detail
  | invalidCorrelationId text => "Invalid correlation id: " ++ text
  | invalidModuleId shown => "Invalid module id: " ++ shown
  | io cause => "IO error: " ++ cause

end Fault

end HubBridge
