import PiiScan.Digits

/-!
This module contains the command line: the options and subcommands, the variables of the environment
that stand for options that are not given, and what they ask for.
-/

namespace PiiScan

inductive Flag where
  | config
  | verbose
  | jsonLogs
  | host
  | port
  | workers
  | text
  | classification
  | default
  | version
  | help
  deriving DecidableEq

namespace Flag

def long : Flag → String
  | .config => "config"
  | .verbose => "verbose"
  | .jsonLogs => "json-logs"
  | .host => "host"
  | .port => "port"
  | .workers => "workers"
  | .text => "text"
  | .classification => "classification"
  | .default => "default"
  | .version => "version"
  | .help => "help"

def short? : Flag → Option Char
  | .config => some 'c'
  | .verbose => some 'v'
  | .text => some 't'
  | .classification => some 'l'
  | .version => some 'V'
  | .help => some 'h'
  | _ => none

def takesValue : Flag → Bool
  | .verbose | .jsonLogs | .default | .version | .help => false
  | _ => true

def environmentName? : Flag → Option String
  | .config => some "AEGIS_FILTER_CONFIG"
  | .host => some "GRPC_HOST"
  | .port => some "GRPC_PORT"
  | .workers => some "GRPC_WORKERS"
  | _ => none

/--
A whole number after an optional sign; `negative` says whether the sign may be a minus.
-/
def integer? (negative : Bool) (text : List Char) : Option Int :=
  let number (digits : List Char) : Option Nat :=
    if digits.isEmpty then none else (digits.mapM Digits.decimal?).map (Digits.value 10)
  match text with
  | '+' :: digits => (number digits).map Int.ofNat
  | '-' :: digits => if negative then (number digits).map fun n => -(n : Int) else none
  | digits => (number digits).map Int.ofNat

def port? (value : String) : Option UInt16 :=
  match integer? true value.toList with
  | some n => if 0 ≤ n ∧ n < 1 <<< 16 then some (UInt16.ofNat n.toNat) else none
  | none => none

def workers? (value : String) : Option Nat :=
  match integer? false value.toList with
  | some n => if 1 ≤ n ∧ n < 1 <<< 64 then some n.toNat else none
  | none => none

def accepts (flag : Flag) (value : String) : Bool :=
  match flag with
  | .config => value != ""
  | .port => (port? value).isSome
  | .workers => (workers? value).isSome
  | _ => true

end Flag

inductive Stop where
  | usage
  | version
  | help
  deriving DecidableEq

abbrev Given := List (Flag × String)

namespace Given

/--
Add an option, which must not have been given before and must be able to have its value. To be asked
about the program ends the reading.
-/
def add (given : Given) (flag : Flag) (value : String) : Except Stop Given :=
  match flag with
  | .version => .error .version
  | .help => .error .help
  | _ =>
    if (given.lookup flag).isSome || !flag.accepts value then .error .usage
    else .ok ((flag, value) :: given)

def addLong (given : Given) (flags : List Flag) (argument : List Char) :
    Except Stop (Given × Option Flag) :=
  let name := String.ofList (argument.takeWhile (· != '='))
  match flags.find? (fun flag => flag.long == name), argument.dropWhile (· != '=') with
  | none, _ => .error .usage
  | some flag, [] =>
    if flag.takesValue then .ok (given, some flag)
    else (given.add flag "").map fun given => (given, none)
  | some flag, _ :: value =>
    if flag.takesValue then (given.add flag (String.ofList value)).map fun given => (given, none)
    else .error .usage

/--
The options in an argument that starts with one hyphen. The rest of the argument is the value of the
first option that takes one.
-/
def addShort (given : Given) (flags : List Flag) : List Char → Except Stop (Given × Option Flag)
  | [] => .ok (given, none)
  | letter :: rest =>
    match flags.find? fun flag => flag.short? == some letter with
    | none => .error .usage
    | some flag =>
      if flag.takesValue then
        match rest with
        | [] => .ok (given, some flag)
        | '=' :: value => (given.add flag (String.ofList value)).map fun given => (given, none)
        | value => (given.add flag (String.ofList value)).map fun given => (given, none)
      else
        match given.add flag "" with
        | .ok given => given.addShort flags rest
        | .error stop => .error stop

end Given

/--
Whether an argument can be the value of the option before it: it does not look like an option.
-/
def isValue (argument : List Char) : Bool :=
  match argument with
  | '-' :: _ :: _ => false
  | _ => true

inductive ArgumentOutcome where
  | next (given : Given) (awaiting : Option Flag)
  | subcommand
  | close
  | stop (reason : Stop)

/--
Read an argument; `awaiting` is an option whose value comes next.
-/
def readArgument (flags : List Flag) (subcommands : List String) (given : Given)
    (awaiting : Option Flag) (argument : String) : ArgumentOutcome :=
  match awaiting, argument.toList with
  | some flag, value =>
    if isValue value then
      match given.add flag argument with
      | .ok given => .next given none
      | .error reason => .stop reason
    else .stop .usage
  | none, ['-', '-'] => .close
  | none, '-' :: '-' :: name =>
    match given.addLong flags name with
    | .ok (given, awaiting) => .next given awaiting
    | .error reason => .stop reason
  | none, '-' :: letter :: letters =>
    match given.addShort flags (letter :: letters) with
    | .ok (given, awaiting) => .next given awaiting
    | .error reason => .stop reason
  | none, _ => if subcommands.contains argument then .subcommand else .stop .usage

def readLevel (flags : List Flag) (subcommands : List String) (given : Given)
    (awaiting : Option Flag) : List String → Except Stop (Given × Option (String × List String))
  | [] => if awaiting.isSome then .error .usage else .ok (given, none)
  | argument :: rest =>
    match readArgument flags subcommands given awaiting argument with
    | .next given awaiting => readLevel flags subcommands given awaiting rest
    | .subcommand => .ok (given, some (argument, rest))
    | .close => if rest.isEmpty then .ok (given, none) else .error .usage
    | .stop reason => .error reason

abbrev Environment := List (String × String)

def Environment.value? (environment : Environment) (flag : Flag) : Option String :=
  flag.environmentName?.bind fun name => environment.lookup name

def checkEnvironment (environment : Environment) (flags : List Flag) (given : Given) :
    Except Stop Unit :=
  if flags.all fun flag =>
      (given.lookup flag).isSome ||
        (environment.value? flag).all fun value => flag.accepts value then .ok ()
  else .error .usage

inductive Command where
  | serve
  | scan (text classification : String)
  | showConfig (default : Bool)
  deriving DecidableEq

structure Invocation where
  command : Command
  configFile : Option String
  host : Option String
  port : Option UInt16
  workers : Option Nat
  deriving DecidableEq

namespace Invocation

def globalFlags : List Flag := [.host, .port, .workers]

def topFlags : List Flag := [.config, .verbose, .jsonLogs, .version, .help] ++ globalFlags

def subcommands : List (String × List Flag) := [
  ("serve", [.help]),
  ("scan", [.text, .classification, .help]),
  ("config", [.default, .help])]

def defaultClassification : String := "INTERNAL"

def commandOf (name : String) (given : Given) : Except Stop Command :=
  if name = "scan" then
    match given.lookup .text with
    | some text => .ok (.scan text ((given.lookup .classification).getD defaultClassification))
    | none => .error .usage
  else if name = "config" then .ok (.showConfig (given.lookup .default).isSome)
  else .ok .serve

/--
The value of an option: as given on the inner level, else on the outer one, else by the environment.
-/
def valueOf (environment : Environment) (outer inner : Given) (flag : Flag) : Option String :=
  ((inner.lookup flag).or (outer.lookup flag)).or (environment.value? flag)

def ofGiven (environment : Environment) (outer inner : Given) (command : Command) : Invocation :=
  let value := valueOf environment outer inner
  { command
    configFile := value .config
    host := value .host
    port := (value .port).bind Flag.port?
    workers := (value .workers).bind Flag.workers? }

/--
Reads the arguments. Without a subcommand the server is started.
-/
def ofArguments (arguments : List String) (environment : Environment) : Except Stop Invocation := do
  let (outer, subcommand) ←
    readLevel topFlags ("help" :: subcommands.map Prod.fst) [] none arguments
  match subcommand with
  | none =>
    checkEnvironment environment topFlags outer
    return ofGiven environment outer [] .serve
  | some (name, rest) =>
    match subcommands.lookup name with
    | none => .error .help
    | some own =>
      let flags := own ++ globalFlags
      let (inner, _) ← readLevel flags [] [] none rest
      checkEnvironment environment flags inner
      let command ← commandOf name inner
      checkEnvironment environment topFlags outer
      return ofGiven environment outer inner command

end Invocation
end PiiScan
