import NetSurvey.Datum.Basic
import NetSurvey.File

/-!
# The logger

A logger has a level and handlers. Configuring it sets the level each time, and attaches handlers
only while it has none: a console and, if a file is named, the file. The handlers are all made
before the first of them is attached, so if the file cannot be opened, none is attached at all.
-/

namespace NetSurvey

open Text

/-! ### Levels -/

/-- The levels that have names. -/
def levelNames : List (Text × Int) :=
  [("CRITICAL", 50), ("FATAL", 50), ("ERROR", 40), ("WARN", 30), ("WARNING", 30), ("INFO", 20),
    ("DEBUG", 10), ("NOTSET", 0)]

/-! ### Handlers -/

/-- Where entries of the log are written. -/
inductive Sink where
  | console
  | file (path : Text)
deriving DecidableEq, Repr

/-- A handler writes entries, laid out in its format if it was given one. -/
structure Handler where
  sink : Sink
  format : Option String := none
deriving DecidableEq, Repr

/-- How entries are laid out by the handlers of a configured logger. -/
def entryFormat : String :=
  "%(asctime)s - %(name)s - %(levelname)s - %(message)s"

/-- Why a logger cannot be configured. -/
inductive ConfigureError where
  /-- There is no level of this name. -/
  | unknownLevel
  /-- Something else than a number or a name stands for a level. -/
  | noLevel
  /-- Something else than a text stands for a path. -/
  | noPath
  | file (cause : OpenError)
deriving DecidableEq, Repr

/-- A level, and the handlers in the order in which they were attached. The level is a number, or a
truth value that counts as one. -/
structure Logger where
  level : Datum := .int 0
  handlers : List Handler := []

namespace Logger

/-- The name of the logger. -/
def name : String := "reconlab"

/-- The level that is taken where none is given. -/
def defaultLevel : Datum := .int 20

/-- The level that a datum stands for. -/
def levelOf : Datum → Except ConfigureError Datum
  | .number (.int n) => .ok (.int n)
  | .bool b => .ok (.bool b)
  | .text name =>
    match levelNames.lookup name with
    | some n => .ok (.int n)
    | none => .error .unknownLevel
  | _ => .error .noLevel

/-- The path that a datum stands for, if it is there. -/
def pathOf : Datum → Except ConfigureError (Option Text)
  | .text path => .ok (if path.isEmpty then none else some path)
  | d => if d.isPresent then .error .noPath else .ok none

/-- The handlers for a path, still without a format. The opening of a file may fail, and `files` is
changed by it. -/
def openHandlers {φ : Type} (openFile : φ → Text → Except OpenError φ) (files : φ) (path : Datum) :
    Except ConfigureError (φ × List Handler) := do
  match ← pathOf path with
  | none => return (files, [{ sink := .console }])
  | some path =>
    match openFile files path with
    | .ok files => return (files, [{ sink := .console }, { sink := .file path }])
    | .error e => throw (.file e)

/-- Gives a handler the format of entries, and attaches it behind the others. -/
def attach (l : Logger) (h : Handler) : Logger :=
  { l with handlers := l.handlers ++ [{ h with format := some entryFormat }] }

/-- Configures a logger. -/
def configure {φ : Type} (openFile : φ → Text → Except OpenError φ) (files : φ) (l : Logger)
    (level path : Datum) : Except ConfigureError φ × Logger :=
  match levelOf level with
  | .error e => (.error e, l)
  | .ok level =>
    let l := { l with level }
    if l.handlers.isEmpty then
      match openHandlers openFile files path with
      | .ok (files, handlers) => (.ok files, handlers.foldl attach l)
      | .error e => (.error e, l)
    else (.ok files, l)

end Logger

end NetSurvey
