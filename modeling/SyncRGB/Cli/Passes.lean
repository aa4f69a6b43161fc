import SyncRGB.Cli.ApplyOptions

/-! The two passes over the command line: `cli_pre_detection` before the devices are detected, and `ProcessOptions`
after. Each reads a word as an option or passes over it as the value of the option in front. -/
namespace SyncRGB
open ByteCodec

/-- What `std::stoi` returns or throws. -/
inductive Stoi where
  | number (n : Int)
  | invalidArgument
  | outOfRange

/-- A text without the sign in front. -/
def dropSign : Bytes → Bytes
  | 43 :: rest => rest
  | 45 :: rest => rest
  | text => text

/-- `std::stoi` in base 10. -/
def stoi (s : Bytes) : Stoi :=
  let text := s.dropWhile isSpace
  let digits := (dropSign text).takeWhile fun b => 48 ≤ b && b ≤ 57
  let magnitude : Int := digits.foldl (fun n b => 10 * n + (b.toNat - 48)) 0
  let n := if text.head? = some 45 then -magnitude else magnitude
  if digits.isEmpty then .invalidArgument
  else if -2147483648 ≤ n ∧ n ≤ 2147483647 then .number n
  else .outOfRange

namespace Cli

/-- The options of `cli_pre_detection`. -/
inductive PreOption where
  | localconfig
  | config
  | nodetect
  | noautoconnect
  | client
  | server
  | serverPort
  | serverHost
  | websocket
  | websocketPort
  | websocketHost
  | loglevel
  | autostartCheck
  | autostartDisable
  | autostartEnable
  | gui
  | i2cTools
  | startminimized
  | help
  | version
  | verbose
  | veryVerbose
  | printSource
  deriving DecidableEq

/-- The words of the options, in the order in which `cli_pre_detection` compares. -/
def preOptions : List (String × PreOption) :=
  [("--localconfig", .localconfig), ("--config", .config), ("--nodetect", .nodetect),
    ("--noautoconnect", .noautoconnect), ("--client", .client), ("--server", .server), ("--server-port", .serverPort),
    ("--server-host", .serverHost), ("--websocket", .websocket), ("--websocket-port", .websocketPort),
    ("--websocket-host", .websocketHost), ("--loglevel", .loglevel), ("--autostart-check", .autostartCheck),
    ("--autostart-disable", .autostartDisable), ("--autostart-enable", .autostartEnable), ("--gui", .gui),
    ("--i2c-tools", .i2cTools), ("--yolo", .i2cTools), ("--startminimized", .startminimized), ("--help", .help),
    ("-h", .help), ("--version", .version), ("-V", .version), ("--verbose", .verbose), ("-v", .verbose),
    ("--very-verbose", .veryVerbose), ("-vv", .veryVerbose), ("--print-source", .printSource)]

/-- The first option of a table whose word is this one. -/
def lookupWord {Opt : Type} (table : List (String × Opt)) (word : Bytes) : Option Opt :=
  (table.find? fun entry => ascii entry.1 = word).map Prod.snd

def preOption (word : Bytes) : Option PreOption := lookupWord preOptions word

/-- The options for which `cli_pre_detection` increments the index once more. -/
def PreOption.takesValue : PreOption → Bool
  | .config | .client | .serverPort | .serverHost | .websocketPort | .websocketHost | .loglevel | .autostartEnable =>
      true
  | _ => false

def retFlagStartGui : UInt32 := 2
def retFlagI2cTools : UInt32 := 4
def retFlagStartMinimized : UInt32 := 8
def retFlagNoDetect : UInt32 := 16
def retFlagCliPostDetection : UInt32 := 32
def retFlagStartServer : UInt32 := 64
def retFlagNoAutoConnect : UInt32 := 128
def retFlagStartWebsocketServer : UInt32 := 256

/-- How the program was built and what it finds. -/
structure CliEnvironment where
  headless : Bool
  isDirectory : Bytes → Bool

/-- What an option changes outside of the pass. -/
inductive PreEffect where
  | setConfigurationDirectory (path : Bytes)
  | networkClient (ip : Bytes) (port : UInt16)
  | setLoglevel (level : Int)
  | setVerbosity (level : Int)
  | setPrintSource
  | isAutoStartEnabled
  | disableAutoStart
  | enableAutoStart (args : Bytes)

structure PreDetection where
  cfgArgs : UInt32
  retFlags : UInt32
  serverHost : Bytes
  serverPort : UInt16
  serverStart : Bool
  websocketHost : Bytes
  websocketPort : UInt16
  websocketStart : Bool
  effects : List PreEffect

def PreDetection.initial : PreDetection where
  cfgArgs := 0
  retFlags := 0
  serverHost := ascii "0.0.0.0"
  serverPort := 6742
  serverStart := false
  websocketHost := ascii "0.0.0.0"
  websocketPort := 6743
  websocketStart := false
  effects := []

namespace PreDetection

def counted (count : UInt32) (s : PreDetection) : PreDetection := { s with cfgArgs := s.cfgArgs + count }

def flagged (flags : UInt32) (s : PreDetection) : PreDetection := { s with retFlags := s.retFlags ||| flags }

def effect (e : PreEffect) (s : PreDetection) : PreDetection := { s with effects := s.effects ++ [e] }

def setWebsocketPort (port : Int) (s : PreDetection) : PreDetection :=
  { s with websocketPort := UInt16.ofInt port, websocketStart := true }

def setWebsocketHost (host : Bytes) (s : PreDetection) : PreDetection :=
  { s with websocketHost := host, websocketStart := true }

end PreDetection

/-- A port of the argument between 1024 and 65535. -/
def parsePort (argument : Bytes) : Option Int :=
  match stoi argument with
  | .number port => if 1024 ≤ port ∧ port ≤ 65535 then some port else none
  | .invalidArgument => none
  | .outOfRange => none

/-- The names of the levels, from the first level on. -/
def loglevelNames : List String := ["fatal", "error", "warning", "info", "verbose", "debug", "trace"]

def parseLoglevel (argument : Bytes) : Option Int :=
  match stoi argument with
  | .number level => if 0 ≤ level ∧ level ≤ 6 then some level else none
  | .invalidArgument => (loglevelNames.findIdx? fun name => strcasecmp argument (ascii name)).map Int.ofNat
  | .outOfRange => none

/-- The address of `--client`; nothing when `std::stoi` throws. -/
def parseClient (argument : Bytes) : Option (Bytes × UInt16) :=
  match argument.idxOf? 58 with
  | none => some (argument, 6742)
  | some pos =>
      match stoi (argument.drop (pos + 1)) with
      | .number port => some (argument.take pos, UInt16.ofInt port)
      | .invalidArgument => none
      | .outOfRange => none

/-- The branch of an option in `cli_pre_detection`; `none` when help is printed, the program exits or `std::stoi`
throws without a handler. -/
def PreOption.execute (env : CliEnvironment) (s : PreDetection) (argument : Bytes) : PreOption → Option PreDetection
  | .localconfig => some ((s.effect (.setConfigurationDirectory (ascii "./"))).counted 1)
  | .config =>
      if env.isDirectory argument then some ((s.effect (.setConfigurationDirectory argument)).counted 2) else none
  | .nodetect => some ((s.flagged retFlagNoDetect).counted 1)
  | .noautoconnect => some ((s.flagged retFlagNoAutoConnect).counted 1)
  | .client => (parseClient argument).map fun address => (s.effect (.networkClient address.1 address.2)).counted 1
  | .server => some (if env.headless then { s with websocketStart := true } else { s with serverStart := true })
  | .serverPort =>
      (parsePort argument).map fun port =>
        (if env.headless then s.setWebsocketPort port
          else { s with serverPort := UInt16.ofInt port, serverStart := true }).counted 1
  | .serverHost =>
      if argument = [] then none
      else some ((if env.headless then s.setWebsocketHost argument
        else { s with serverHost := argument, serverStart := true }).counted 1)
  | .websocket => some { s with websocketStart := true }
  | .websocketPort => (parsePort argument).map fun port => (s.setWebsocketPort port).counted 1
  | .websocketHost => if argument = [] then none else some ((s.setWebsocketHost argument).counted 1)
  | .loglevel => (parseLoglevel argument).map fun level => (s.effect (.setLoglevel level)).counted 2
  | .autostartCheck => some (s.effect .isAutoStartEnabled)
  | .autostartDisable => some (s.effect .disableAutoStart)
  | .autostartEnable =>
      if argument = [] then none else some ((s.effect (.enableAutoStart argument)).counted 1)
  | .gui => if env.headless then none else some (s.flagged retFlagStartGui)
  | .i2cTools => if env.headless then none else some (s.flagged (retFlagStartGui ||| retFlagI2cTools))
  | .startminimized => if env.headless then none else some (s.flagged (retFlagStartGui ||| retFlagStartMinimized))
  | .help => none
  | .version => none
  | .verbose => some ((s.effect (.setVerbosity 4)).counted 1)
  | .veryVerbose => some ((s.effect (.setVerbosity 6)).counted 1)
  | .printSource => some ((s.effect .setPrintSource).counted 1)

/-- What `cli_pre_detection` makes of a word. -/
inductive PreWord where
  | option (o : PreOption)
  | unrecognized
  | value (o : PreOption)

def PreWord.isOption : PreWord → Bool
  | .option _ => true
  | .unrecognized => true
  | .value _ => false

/-- The loop of `cli_pre_detection`, with the option whose value the next word is. -/
def preLoop (env : CliEnvironment) :
    Option PreOption → PreDetection → List Bytes → Option (List PreWord × PreDetection)
  | _, s, [] => some ([], s)
  | some o, s, _ :: rest => do
      let (words, s) ← preLoop env none s rest
      return (.value o :: words, s)
  | none, s, option :: rest =>
      match preOption option with
      | none => do
          let (words, s) ← preLoop env none (s.flagged retFlagCliPostDetection) rest
          return (.unrecognized :: words, s)
      | some o => do
          let s ← o.execute env s (rest.headD [])
          let (words, s) ← preLoop env (if o.takesValue then some o else none) s rest
          return (.option o :: words, s)

/-- `cli_pre_detection`, for the words behind the name of the program, with what it makes of each and the flags that it
returns. -/
def cliPreDetection (env : CliEnvironment) (args : List Bytes) : Option (List PreWord × PreDetection) := do
  let (words, s) ← preLoop env none .initial args
  let s := if s.serverStart then s.flagged retFlagStartServer else s
  let s := if s.websocketStart then s.flagged retFlagStartWebsocketServer else s
  let s :=
    if UInt32.ofNat (args.length + 1) - s.cfgArgs ≤ 1 then
      s.flagged (if env.headless then retFlagStartWebsocketServer else retFlagStartGui)
    else s
  return (words, s)

/-- The options of `ProcessOptions`. -/
inductive PostOption where
  | listDevices
  | device
  | zone
  | color
  | mode
  | brightness
  | speed
  | size
  | profile
  | saveProfile
  deriving DecidableEq

def postOptions : List (String × PostOption) :=
  [("--list-devices", .listDevices), ("-l", .listDevices), ("--device", .device), ("-d", .device), ("--zone", .zone),
    ("-z", .zone), ("--color", .color), ("-c", .color), ("--mode", .mode), ("-m", .mode),
    ("--brightness", .brightness), ("-b", .brightness), ("--speed", .speed), ("-s", .speed), ("--size", .size),
    ("-sz", .size), ("--profile", .profile), ("-p", .profile), ("--save-profile", .saveProfile), ("-sp", .saveProfile)]

def postOption (word : Bytes) : Option PostOption := lookupWord postOptions word

/-- The options that `ProcessOptions` passes over, and whether with a value. -/
def ignoredOptions : List (String × Bool) :=
  ["--localconfig", "--nodetect", "--noautoconnect", "--server", "--websocket", "--gui", "--i2c-tools", "--yolo",
    "--startminimized", "--print-source", "--verbose", "-v", "--very-verbose", "-vv", "--help", "-h", "--version", "-V",
    "--autostart-check", "--autostart-disable"].map (·, false) ++
  ["--server-port", "--server-host", "--websocket-port", "--websocket-host", "--loglevel", "--config", "--client",
    "--autostart-enable"].map (·, true)

def ignoredOption (word : Bytes) : Option Bool := lookupWord ignoredOptions word

/-- What the options do to the state that `ProcessOptions` builds. They may fail, and so may the check at the end. -/
structure PostHandlers (σ : Type) where
  handle : PostOption → Bytes → σ → Option σ
  complete : σ → Bool

/-- What `ProcessOptions` makes of a word. -/
inductive PostWord where
  | option (o : PostOption)
  | ignored
  | value (o : PostOption)
  | ignoredValue

def PostWord.isOption : PostWord → Bool
  | .option _ => true
  | .ignored => true
  | .value _ => false
  | .ignoredValue => false

/-- What the next word is for `ProcessOptions`. -/
inductive Next where
  | option
  | value (o : PostOption)
  | ignoredValue

/-- The loop of `ProcessOptions`; `none` when it prints help, or the devices and exits. -/
def postLoop {σ : Type} (handlers : PostHandlers σ) : Next → σ → List Bytes → Option (List PostWord × σ)
  | _, s, [] => if handlers.complete s then some ([], s) else none
  | .value o, s, _ :: rest => do
      let (words, s) ← postLoop handlers .option s rest
      return (.value o :: words, s)
  | .ignoredValue, s, _ :: rest => do
      let (words, s) ← postLoop handlers .option s rest
      return (.ignoredValue :: words, s)
  | .option, s, option :: rest =>
      match postOption option with
      | some .listDevices => none
      | some o => do
          let s ← handlers.handle o (rest.headD []) s
          let (words, s) ← postLoop handlers (.value o) s rest
          return (.option o :: words, s)
      | none =>
          match ignoredOption option with
          | some withValue => do
              let (words, s) ← postLoop handlers (if withValue then .ignoredValue else .option) s rest
              return (.ignored :: words, s)
          | none => none

/-- `ProcessOptions`, with what it makes of each word. -/
def processOptions {σ : Type} (handlers : PostHandlers σ) (s : σ) (args : List Bytes) : Option (List PostWord × σ) :=
  postLoop handlers .option s args

end Cli
end SyncRGB
