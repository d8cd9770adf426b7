import HubBridge.Settings

/-!
# The command line

Three options, each with a value, given as the next argument or after an equals sign and never
twice. What they leave open is taken from the environment.
-/

namespace HubBridge.Console

open Text

structure Arguments where
  hubHost : Option String
  hubPort : Option UInt16
  logLevel : Option String
  deriving DecidableEq, Repr

inductive Invocation
  | run (arguments : Arguments)
  | help
  | version
  | refused
  deriving DecidableEq, Repr

def version : String := "0.1.0"

def usageLines : List String :=
  ["Bridge between a UDP door-lock hub and the console",
    "",
    "Usage: doorlink [OPTIONS]",
    "",
    "Options:",
    "      --hub-host <HUB_HOST>    Hub host (overrides HUB_HOST)",
    "      --hub-port <HUB_PORT>    Hub UDP port (overrides HUB_PORT)",
    "      --log-level <LOG_LEVEL>  Log level (trace, debug, info, warn, error) [default: info]",
    "  -h, --help                   Print help",
    "  -V, --version                Print version"]

namespace Arguments

def empty : Arguments := ⟨none, none, none⟩

/-- A port as an option gives it; a zero may have a minus sign. -/
def readPort? (value : String) : Option UInt16 :=
  match after? "-" value with
  | some zeros => if !zeros.isEmpty && zeros.toList.all (· == '0') then some 0 else none
  | none =>
    match readNumeral UInt16.size value with
    | .ok n => some (UInt16.ofNat n)
    | .error _ => none

/-- The options with one more; nothing if there is no such option, if it was given before, or if its
value is bad. -/
def insert? (a : Arguments) (name value : String) : Option Arguments :=
  match name with
  | "hub-host" => if a.hubHost.isSome then none else some { a with hubHost := some value }
  | "hub-port" =>
    if a.hubPort.isSome then none
    else (readPort? value).map fun port => { a with hubPort := some port }
  | "log-level" => if a.logLevel.isSome then none else some { a with logLevel := some value }
  | _ => none

/-- An argument of more than a dash that starts with a dash is no value. -/
def isValue (argument : String) : Bool := argument = "-" || (after? "-" argument).isNone

/-- The name of an option and the value after its equals sign. -/
def cut (option : String) : String × Option String :=
  let cs := option.toList
  (.ofList (cs.takeWhile (· ≠ '=')),
    if cs.contains '=' then some (.ofList ((cs.dropWhile (· ≠ '=')).drop 1)) else none)

/-- Reads the arguments after those that gave `a`. Single letters can be run together, and the first
that asks for the help text or the version decides. -/
def read (a : Arguments) : List String → Invocation
  | [] | ["--"] => .run a
  | "--help" :: _ => .help
  | "--version" :: _ => .version
  | argument :: rest =>
    if (after? "-h" argument).isSome then .help
    else if (after? "-V" argument).isSome then .version
    else
      match (after? "--" argument).map cut with
      | none => .refused
      | some (name, some value) =>
        match a.insert? name value with
        | some a => a.read rest
        | none => .refused
      | some (name, none) =>
        match rest with
        | [] => .refused
        | value :: rest =>
          if isValue value then
            match a.insert? name value with
            | some a => a.read rest
            | none => .refused
          else .refused

/-- A variable of the settings: the option that overrides it, or else the environment's. -/
def lookup (a : Arguments) (environment : String → Option String) (name : String) :
    Option String :=
  if name = Settings.hostVariable then a.hubHost.or (environment name)
  else if name = Settings.portVariable then
    (a.hubPort.map (toString ·.toNat)).or (environment name)
  else none

/-- The settings of the session to begin. -/
def settings (a : Arguments) (resolve : Resolver) (environment : String → Option String) :
    Except Failure Settings :=
  Settings.ofVariables resolve (a.lookup environment)

end Arguments

def Invocation.ofArguments (arguments : List String) : Invocation := Arguments.empty.read arguments

/-- What is written as an error when the settings are wrong. -/
def complaint (failure : Failure) : String :=
  "Error: invalid hub configuration\n\nCaused by:\n    " ++ failure.message ++ "\n"

end HubBridge.Console
