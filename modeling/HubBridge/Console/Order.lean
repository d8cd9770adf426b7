import HubBridge.Command
import HubBridge.Text.Uppercase

/-!
# Orders given at the console

One line is one order: its first word in either case, and what the order is about after it.
-/

namespace HubBridge.Console

open Text

inductive Order
  | status (moduleId : ModuleId)
  | lock (moduleId : ModuleId)
  | unlock (moduleId : ModuleId)
  | info (moduleId : ModuleId)
  | send (request : Request)
  | raw (text : String)
  | doors
  | help
  | quit
  deriving DecidableEq, Repr

def helpLines : List String :=
  ["commands:",
    "  status <module>                 query lock status",
    "  lock <module>                   lock and wait for the lock to engage",
    "  unlock <module>                 unlock and wait for the release",
    "  info <module>                   door info snapshot",
    "  send [module] [target] [action] correlated command (defaults D1 D0 STATUS)",
    "  raw <text>                      send a line to the hub as is",
    "  doors                           known door records",
    "  help",
    "  quit"]

def help : String := "\n".intercalate helpLines

namespace Order

/-- The module that an order is about, loosely written. The complaint begins with the order's own
word. -/
def moduleOf (word rest : String) : Except String ModuleId :=
  if rest.isEmpty then .error (word ++ ": module id required")
  else match ModuleId.ofLooseText rest with
    | .ok m => .ok m
    | .error fault => .error (word ++ ": " ++ fault.message)

/-- The request of a `send` order, from its first three words. -/
def requestOf (rest : String) : Except String Request :=
  let parts := words rest
  match Request.ofParts parts[0]? parts[1]? parts[2]? with
  | .ok request => .ok request
  | .error fault => .error ("send: " ++ fault.message)

/-- The order that a word and the text after it give. -/
def ofWord (word rest : String) : Except String Order :=
  match lowerAscii word with
  | "status" => (moduleOf word rest).map status
  | "lock" => (moduleOf word rest).map lock
  | "unlock" => (moduleOf word rest).map unlock
  | "info" => (moduleOf word rest).map info
  | "send" => (requestOf rest).map send
  | "raw" => if rest.isEmpty then .error "raw: nothing to send" else .ok (raw rest)
  | "doors" => .ok doors
  | "help" | "?" => .ok help
  | "quit" | "exit" => .ok quit
  | other => .error ("unknown command " ++ quote other ++ ", try help")

/-- The order of one line, or a complaint about it. A blank line gives none. -/
def ofLine (line : String) : Option (Except String Order) :=
  let (word, rest) := firstWord (trim line)
  if word.isEmpty then none else some (ofWord word (trim rest))

end Order

end HubBridge.Console
