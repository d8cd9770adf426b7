import HubBridge.Console.Arguments
import HubBridge.Console.Bridge
import Std.Async.DNS
import Std.Async.Timer
import Std.Async.UDP
import Std.Sync.Mutex

/-!
# The program

One loop takes the lines of standard input, another the datagrams and the passing of time. They take
turns with the bridge, and print what it gives back.
-/

namespace HubBridge.Console

open Std.Async

inductive Occurrence
  | line (text : String)
  | datagram (bytes : ByteArray)
  /-- A while without a datagram. -/
  | quiet
  /-- The end of standard input. -/
  | closed

/-- The addresses that the system knows of a host. -/
def lookUp (host : String) : IO (Except String (List HostAddress)) := do
  try
    let found ← (DNS.getAddrInfo host "").block
    pure (.ok (found.toList.map fun
      | .v4 ip => .ipv4 ⟨ip.octets[0], ip.octets[1], ip.octets[2], ip.octets[3]⟩
      | .v6 _ => .ipv6))
  catch _ => pure (.error "failed to lookup address information: Name or service not known")

def addressOf (e : Endpoint) : Std.Net.SocketAddress :=
  .v4 ⟨.ofParts e.host.a e.host.b e.host.c e.host.d, e.port⟩

/-- The system's words for what went wrong and its number, which the socket gives negated. -/
def causeOf (e : IO.Error) : String :=
  match e with
  | .otherError code details | .unsupportedOperation code details | .resourceBusy code details
  | .resourceVanished code details | .protocolError code details | .timeExpired code details
  | .invalidArgument _ code details | .permissionDenied _ code details
  | .resourceExhausted _ code details | .noSuchThing _ code details =>
    details.capitalize ++ " (os error " ++ toString (0 - code).toNat ++ ")"
  | e => toString e

def linkTo (socket : UDP.Socket) (hub : Endpoint) : Link IO := fun bytes => do
  try
    (socket.send bytes (some (addressOf hub))).block
    pure none
  catch e => pure (some (causeOf e))

def printLines (lines : List String) : IO Unit := do
  lines.forM IO.println
  unless lines.isEmpty do (← IO.getStdout).flush

/-- What one occurrence does to the bridge; nothing comes back if it was the last. -/
def Bridge.take (send : Link IO) (b : Bridge) (now : Nat) :
    Occurrence → IO (Option (Bridge × List String))
  | .line text => b.line send now text
  | .datagram bytes => do pure (some (← b.step send (.datagram now bytes)))
  | .quiet => pure (some (b, []))
  | .closed => pure none

/-- A bridge and the time that it last heard of. -/
structure Running where
  bridge : Bridge
  time : Nat

/-- Tells the bridge of the time that has passed and then of an occurrence. -/
def Running.meet (send : Link IO) (r : Running) (occurrence : Occurrence) :
    IO (Option Running) := do
  let now ← IO.monoMsNow
  let (bridge, lines) ← r.bridge.step send (.advance (now - r.time))
  printLines lines
  match ← bridge.take send now occurrence with
  | none => pure none
  | some (bridge, lines) =>
    printLines lines
    pure (some ⟨bridge, now⟩)

/-- Lets an occurrence have its turn. The answer is whether the bridge goes on. -/
def meet (send : Link IO) (shared : Std.Mutex (Option Running)) (occurrence : Occurrence) :
    IO Bool :=
  shared.atomically do
    match ← get with
    | none => pure false
    | some r =>
      let after ← r.meet send occurrence
      set after
      pure after.isSome

/-- The next line of an input. One that cannot be read ends it. -/
def nextLine (input : IO.FS.Stream) : IO Occurrence := do
  let text ← try input.getLine catch _ => pure ""
  pure (if text.isEmpty then .closed else .line text)

/-- The next datagram that reaches a socket, whoever sent it, or ten milliseconds without one. -/
def nextDatagram (socket : UDP.Socket) : IO Occurrence :=
  let arrival : Async Occurrence := do
    Selectable.one #[
      .case (socket.recvSelector 65536) fun (bytes, _) => pure (.datagram bytes),
      .case (← Selector.sleep 10) fun () => pure .quiet]
  try arrival.block catch _ => pure .quiet

partial def tellAll (next : IO Occurrence) (meet : Occurrence → IO Bool) : IO Unit := do
  if ← meet (← next) then tellAll next meet

/-- Opens the socket and runs the bridge until its input ends. -/
def runBridge (settings : Settings) : IO Unit := do
  let socket ← UDP.Socket.mk
  socket.bind (addressOf settings.bind)
  let shared ← Std.Mutex.new (some (⟨.start settings.timing, ← IO.monoMsNow⟩ : Running))
  let meet := meet (linkTo socket settings.hub) shared
  printLines helpLines
  let watch ← IO.asTask (tellAll (nextDatagram socket) meet) .dedicated
  tellAll (nextLine (← IO.getStdin)) meet
  discard (IO.wait watch)

end HubBridge.Console

open HubBridge HubBridge.Console

/-- The exit code is 0 at the end of the input, 1 if the bridge could not start and 2 for bad
arguments. -/
def main (arguments : List String) : IO UInt32 := do
  match Invocation.ofArguments arguments with
  | .help =>
    printLines usageLines
    return 0
  | .version =>
    printLines ["doorlink " ++ version]
    return 0
  | .refused =>
    IO.eprintln "error: bad arguments\n\nFor more information, try '--help'."
    return 2
  | .run arguments =>
    let given :=
      [(Settings.hostVariable, ← IO.getEnv Settings.hostVariable),
        (Settings.portVariable, ← IO.getEnv Settings.portVariable)]
    let environment (name : String) : Option String := (given.lookup name).join
    -- the host that is given is the only one that may have to be looked up
    let found ← match Settings.given (arguments.lookup environment Settings.hostVariable) with
      | none => pure (.ok [])
      | some host => lookUp (Text.trim host)
    match arguments.settings (fun _ => found) environment with
    | .error failure =>
      IO.eprint (complaint failure)
      return 1
    | .ok settings =>
      runBridge settings
      return 0
