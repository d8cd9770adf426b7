import HubBridge.Address
import HubBridge.Failure
import HubBridge.Poll

/-!
# Settings

Where the hub is and how long things may take. The hub's host and port come from two variables; all
else is fixed.
-/

namespace HubBridge

open Text

/-- How long a session waits, in milliseconds. -/
structure Timing where
  replyTimeout : Nat
  poll : PollSettings
  deriving DecidableEq, Repr

/-- Five seconds for a reply. -/
def Timing.default : Timing := ⟨5000, .default⟩

structure Settings where
  hub : Endpoint
  bind : Endpoint
  timing : Timing
  deriving DecidableEq, Repr

namespace Settings

def defaultHost : IPv4 := ⟨192, 168, 8, 108⟩

def defaultPort : UInt16 := 12345

/-- The settings for a hub: any free port on any interface, and the usual timing. -/
def forHub (hub : Endpoint) : Settings := ⟨hub, ⟨⟨0, 0, 0, 0⟩, 0⟩, .default⟩

def default : Settings := forHub ⟨defaultHost, defaultPort⟩

def hostVariable : String := "HUB_HOST"

def portVariable : String := "HUB_PORT"

/-- A variable that is blank counts as absent. -/
def given (value : Option String) : Option String := value.filter (!isAllBlank ·)

/-- What is wrong with a variable, which is shown with its value. -/
def refuse (name value detail : String) : Failure :=
  .settings (name ++ "=" ++ quote value ++ ": " ++ detail)

def readPort (value : Option String) : Except Failure UInt16 :=
  match given value with
  | none => .ok defaultPort
  | some s =>
    match readNumeral UInt16.size (trim s) with
    | .ok n => .ok (UInt16.ofNat n)
    | .error fault => .error (refuse portVariable s fault.message)

/-- The addresses of a host. A text that is an address is not looked up. -/
def addressesOf (resolve : Resolver) (host : String) : Except String (List HostAddress) :=
  let cs := host.toList
  match IPv4.ofChars? cs with
  | some ip => .ok [.ipv4 ip]
  | none => if IPv6.isAddress cs then .ok [.ipv6] else resolve host

/-- The host that a variable gives. The hub is reached by IPv4 alone, by the first of the host's
addresses that is one. -/
def readHost (resolve : Resolver) (value : Option String) : Except Failure IPv4 :=
  match given value with
  | none => .ok defaultHost
  | some s =>
    match addressesOf resolve (trim s) with
    | .error cause => .error (refuse hostVariable s cause)
    | .ok addresses =>
      match addresses.findSome? HostAddress.ipv4? with
      | some ip => .ok ip
      | none => .error (refuse hostVariable s "no IPv4 address")

/-- The settings that the variables give. Of two that are wrong, the port is the one reported. -/
def ofVariables (resolve : Resolver) (lookup : String → Option String) :
    Except Failure Settings := do
  let port ← readPort (lookup portVariable)
  let host ← readHost resolve (lookup hostVariable)
  .ok (forHub ⟨host, port⟩)

end Settings

end HubBridge
