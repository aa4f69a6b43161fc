import SyncRGB.JsonRpc.Json

/-! The messages of the log and where they are emitted: the log file, the screen, the list for the console and the
dialogs. -/
namespace SyncRGB
open ByteCodec

namespace LogLevel

def fatal : UInt32 := 0
def error : UInt32 := 1
def warning : UInt32 := 2
def info : UInt32 := 3
def verbose : UInt32 := 4
def debug : UInt32 := 5
def trace : UInt32 := 6
def dialog : UInt32 := 7

end LogLevel

/-- Where in the source and when a message is logged. -/
structure LogOrigin where
  filename : Bytes
  line : Int32
  countedSecond : Int64
  deriving DecidableEq

structure LogMessage extends LogOrigin where
  buffer : Bytes
  level : UInt32
  deriving DecidableEq

/-- A line is a message and whether its source is printed behind it. -/
abbrev LogLine := LogMessage × Bool

/-- A file that the rotation removes, or fails to remove for a reason. -/
structure LogRemoval where
  path : Bytes
  failure : Option Bytes
  origin : LogOrigin

/-- What `rotate_logs` logs for a file. -/
def LogRemoval.message (removal : LogRemoval) : LogMessage :=
  match removal.failure with
  | none =>
      { removal.origin with
        buffer := ascii "[LogManager] Removed log file [" ++ removal.path ++ ascii "] during rotation"
        level := LogLevel.verbose }
  | some error =>
      { removal.origin with
        buffer := ascii "[LogManager] Failed to remove log file [" ++ removal.path ++ ascii "] during rotation: " ++
          error
        level := LogLevel.warning }

/-- What is removed before a log file opens, and whether it does open. -/
structure LogOpening where
  removals : List LogRemoval
  opens : Bool

structure LogManager where
  /-- `log_stream` is open. -/
  isOpen : Bool
  /-- All that was written on `log_stream`. -/
  file : List LogLine
  screen : List LogLine
  dialogs : List LogMessage
  tempMessages : List LogMessage
  suppressedMessages : List LogMessage
  allMessages : List LogMessage
  suppressMode : Bool
  printSource : Bool
  logConsoleEnabled : Bool
  loglevel : UInt32
  verbosity : UInt32

/-- `LogManager::LogManager`. -/
def LogManager.new : LogManager where
  isOpen := false
  file := []
  screen := []
  dialogs := []
  tempMessages := []
  suppressedMessages := []
  allMessages := []
  suppressMode := false
  printSource := false
  logConsoleEnabled := false
  loglevel := LogLevel.info
  verbosity := LogLevel.warning

namespace LogManager

/-- A message that is emitted where this is the highest level. -/
def emits (level : UInt32) (mes : LogMessage) : Bool := mes.level ≤ level || mes.level = LogLevel.dialog

/-- The lines of the messages that are emitted. -/
def lines (level : UInt32) (printSource : Bool) (messages : List LogMessage) : List LogLine :=
  (messages.filter (emits level)).map fun mes => (mes, printSource)

/-- `_flush`. -/
def flush (s : LogManager) : LogManager :=
  if s.isOpen then { s with file := s.file ++ lines s.loglevel s.printSource s.tempMessages, tempMessages := [] } else s

/-- The output on the screen. -/
def print (mes : LogMessage) (s : LogManager) : LogManager :=
  if emits s.verbosity mes then { s with screen := s.screen ++ [(mes, s.printSource)] } else s

/-- The queue of the log file, and the list for the console. -/
def enqueue (mes : LogMessage) (s : LogManager) : LogManager :=
  { s with
    tempMessages := s.tempMessages ++ [mes]
    allMessages := if s.logConsoleEnabled then s.allMessages ++ [mes] else s.allMessages }

/-- `StartSuppressing`. -/
def startSuppressing (s : LogManager) : LogManager := { s with suppressMode := true, suppressedMessages := [] }

/-- `StopSuppressing`. -/
def stopSuppressing (flush : Bool) (s : LogManager) : LogManager :=
  let s := { s with suppressMode := false }
  let s := if flush then (s.suppressedMessages.foldl (fun s mes => (s.print mes).enqueue mes) s).flush else s
  { s with suppressedMessages := [] }

/-- The messages that are kept back while suppressing. -/
def suppresses (mes : LogMessage) : Bool := LogLevel.error < mes.level && mes.level ≠ LogLevel.dialog

/-- A critical message turns everything on. -/
def raise (mes : LogMessage) (s : LogManager) : LogManager :=
  if mes.level = LogLevel.fatal then
    { s with printSource := true, loglevel := LogLevel.debug, verbosity := LogLevel.debug }
  else s

/-- What `_append` does with a message that it has made. -/
def deliver (mes : LogMessage) (s : LogManager) : LogManager :=
  let s := if mes.level = LogLevel.dialog then { s with dialogs := s.dialogs ++ [mes] } else s
  if s.suppressMode && suppresses mes then { s with suppressedMessages := s.suppressedMessages ++ [mes] }
  else ((s.print mes).enqueue mes).flush

/-- The stream is closed, the rotation logs what it removes, and the next file opens or does not. -/
def reopen (opening : LogOpening) (s : LogManager) : LogManager :=
  { opening.removals.foldl (fun s removal => s.deliver removal.message) { s with isOpen := false } with
    isOpen := opening.opens }

/-- `_append`, for a message that may be the first one of a day. -/
def append (newDay : Option LogOpening) (mes : LogMessage) (s : LogManager) : LogManager :=
  let s := s.raise mes
  let s := match newDay with
    | some opening => if s.isOpen then s.reopen opening else s
    | none => s
  s.deliver mes

/-- The calls from outside. Those that may open a log file are told how that goes, and those that log what they do are
told where and when. -/
inductive LogCall where
  | configure (opening : Option LogOpening) (loglevel : Option UInt32) (logConsole : Option Bool)
  | setServiceLogDirectory (opening : LogOpening)
  | reconfigureDailyLog (opening : LogOpening)
  | append (newDay : Option LogOpening) (mes : LogMessage)
  | flush
  | startSuppressing
  | stopSuppressing (flush : Bool)
  | setLoglevel (newDay : Option LogOpening) (mes : LogMessage) (level : UInt32)
  | setVerbosity (newDay : Option LogOpening) (mes : LogMessage) (level : UInt32)
  | setPrintSource (newDay : Option LogOpening) (mes : LogMessage) (v : Bool)
  | clearMessages

/-- The highest level that can be set. -/
def clampLevel (level : UInt32) : UInt32 := if LogLevel.trace < level then LogLevel.trace else level

def call (s : LogManager) : LogCall → LogManager
  | .configure opening loglevel logConsole =>
      let s := match opening with
        | some opening => if s.isOpen then s else s.reopen opening
        | none => s
      let s := { s with
        loglevel := loglevel.getD s.loglevel, logConsoleEnabled := logConsole.getD s.logConsoleEnabled }
      s.flush
  | .setServiceLogDirectory opening => (s.reopen opening).flush
  | .reconfigureDailyLog opening => (s.reopen opening).flush
  | .append newDay mes => s.append newDay mes
  | .flush => s.flush
  | .startSuppressing => s.startSuppressing
  | .stopSuppressing flush => s.stopSuppressing flush
  | .setLoglevel newDay mes level => { s.append newDay mes with loglevel := clampLevel level }
  | .setVerbosity newDay mes level => { s.append newDay mes with verbosity := clampLevel level }
  | .setPrintSource newDay mes v => { s.append newDay mes with printSource := v }
  | .clearMessages => { s with allMessages := [] }

end LogManager
end SyncRGB
