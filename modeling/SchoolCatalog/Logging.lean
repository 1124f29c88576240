import SchoolCatalog.Paths
import SchoolCatalog.Text.Case
import SchoolCatalog.Text.Quoted

/-!
# Logging

The levels and entries of the catalog's log, and how the log is set up: the first set-up counts,
later ones change nothing.
-/

namespace SchoolCatalog

inductive LogLevel where
  | debug
  | info
  | warning
  | error
  deriving DecidableEq

def LogLevel.name : LogLevel → String
  | debug => "DEBUG"
  | info => "INFO"
  | warning => "WARNING"
  | error => "ERROR"

structure LogEntry where
  level : LogLevel
  text : String
  deriving DecidableEq

/-- A place that entries are written to. -/
inductive LogHandler where
  | console
  | file (name : String)
  deriving DecidableEq

/-- The root of the log. -/
structure LogSetup where
  level : Nat := 30
  handlers : List LogHandler := []
  deriving DecidableEq

/-- Why the log is not set up: its level is no number, or its file cannot be opened. -/
inductive LogFault where
  | unknownLevel (name : String)
  | wrongKind
  | embeddedNul
  | isFolder
  | noFolder
  | longName
  deriving DecidableEq

/-- What is said of a fault, where something is. -/
def LogFault.message? : LogFault → Option String
  | unknownLevel name => some ("Unknown level: " ++ Text.quoted name)
  | embeddedNul => some "embedded null byte"
  | _ => none

namespace LogSetup

def entryFormat : String := "%(asctime)s [%(levelname)s] %(name)s: %(message)s"

def timeFormat : String := "%Y-%m-%d %H:%M:%S"

/-- How an entry is written where the log is not set up. -/
def basicFormat : String := "%(levelname)s:%(name)s:%(message)s"

/-- The number of a level by its name in any case; a word that names no level stands for INFO. Two
words name settings of the log that are no level. -/
def levelNumber (word : String) : Except LogFault Nat :=
  match Text.upper word with
  | "DEBUG" => .ok 10
  | "INFO" => .ok 20
  | "WARN" => .ok 30
  | "WARNING" => .ok 30
  | "ERROR" => .ok 40
  | "CRITICAL" => .ok 50
  | "FATAL" => .ok 50
  | "NOTSET" => .ok 0
  | "BASIC_FORMAT" => .error (.unknownLevel basicFormat)
  | "_STYLES" => .error .wrongKind
  | _ => .ok 20

/-- The name of the file that a path leads to; it need not be there, but its folder has to. -/
def openFile (path : String) : Except LogFault String :=
  let absolute := Paths.isAbsolute path
  let steps := if absolute then Paths.stepsFromRoot path else Paths.steps path
  if Paths.holdsNul path then .error .embeddedNul
  else if Paths.isFolder absolute steps then .error .isFolder
  else
    let isLong (name : String) : Bool := Paths.longestName < name.utf8ByteSize
    if Paths.isFolder absolute steps.dropLast then
      let name := steps.getLast?.getD ""
      if isLong name then .error .longName else .ok name
    else if (steps.dropWhile (· == "..")).head?.any isLong then .error .longName
    else .error .noFolder

/-- Sets the log up, unless it has a handler. -/
def configure (setup : LogSetup) (level : String) (logfile : Option String) :
    Except LogFault LogSetup := do
  if !setup.handlers.isEmpty then return setup
  let number ← levelNumber level
  let file ← match logfile with
    | some path => if path.isEmpty then pure [] else (openFile path).map fun name => [.file name]
    | none => pure []
  return { level := number, handlers := .console :: file }

end LogSetup
end SchoolCatalog
