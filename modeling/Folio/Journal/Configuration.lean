-- SUMMARY: Giving a logger a level, a console handler and perhaps a log file.
import Folio.Journal.Logger

/-!
# Configuration

Configuring a logger resolves the level, sets it, and replaces the handlers by a
console handler, followed by a file handler when a log file is asked for and can
be opened; all have the level and the layout of this call. A level that turns out
to be no level is refused where it is set, which is the first thing done with the
logger. Opening the file, or failing to, is itself recorded on the logger that was
configured, with the handlers that it has by then.
-/

namespace Folio.Journal

/-- Whether a path can be opened for appending. -/
inductive Access where
  | writable
  | missingDirectory
  | isDirectory
  /-- Refused for any other reason, in the words of the system. -/
  | refused (reason : String)
  deriving DecidableEq

structure LogFile where
  path : String
  access : Access := .writable

/-- Why a file cannot be opened. -/
def LogFile.refusal? (file : LogFile) : Option String :=
  match file.access with
  | .writable => none
  | .missingDirectory =>
    some s!"[Errno 2] No such file or directory: {Text.quoted file.path}"
  | .isDirectory => some s!"[Errno 21] Is a directory: {Text.quoted file.path}"
  | .refused reason => some reason

structure Configuration where
  level : Value
  /-- The log file; an empty path asks for none. -/
  file : Option LogFile := none
  traced : Bool := false
  logger : LoggerName := defaultLogger

namespace Configuration

def layout (configuration : Configuration) : Layout :=
  if configuration.traced then .traced else .plain

/-- The log file that is asked for. -/
def file? (configuration : Configuration) : Option LogFile :=
  configuration.file.filter fun file => file.path != ""

end Configuration

/-! ## Steps -/

/-- Gives a logger a level; what is no level is refused before anything changes. -/
def setLevel (name : LoggerName) : Level → Action Severity
  | .severity severity => do
    modify fun journal => journal.adjust name fun logger => { logger with severity }
    return severity
  | .template text => throw (.unknownLevel text)
  | .styles => throw (.levelRefused Level.stylesLiteral)

def clearHandlers (name : LoggerName) : Action Unit :=
  modify fun journal => journal.adjust name fun logger => { logger with handlers := [] }

def addHandler (name : LoggerName) (handler : Handler) : Action Unit :=
  modify fun journal => journal.adjust name fun logger =>
    { logger with handlers := logger.handlers ++ [handler] }

/-- Configures a logger, and gives it back by its name. -/
def configure (time : String) (configuration : Configuration) : Action LoggerName := do
  let name := configuration.logger
  let severity ← setLevel name (Level.resolve configuration.level)
  clearHandlers name
  let handler (sink : Sink) : Handler := { sink, severity, layout := configuration.layout }
  addHandler name (handler .console)
  match configuration.file? with
  | none => return name
  | some file =>
    match file.refusal? with
    | some reason =>
      log time
        { logger := name, level := .warning
          message := s!"Could not create log file {file.path}: {reason}" }
      return name
    | none =>
      addHandler name (handler (.file file.path))
      log time { logger := name, level := .info, message := s!"Logging to file: {file.path}" }
      return name

end Folio.Journal
