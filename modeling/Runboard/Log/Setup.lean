import Runboard.Log.Record
import Runboard.Text.Split

/-!
# `Runboard.Log.Setup`: where records go

Loggers have dotted names. The effective level of a logger is that of the nearest of its lineage with a
level of its own other than `NOTSET`; the root logger is the ancestor of all. A record that reaches the
effective level of its logger is handed to every handler of the root. `configure_logging` sets the level
of the root, replaces its handlers by one `StreamHandler` on standard output, and sets three loggers of
libraries to `WARNING`; a level that cannot be set stops everything before it begins.

## Contents

* `Handler`, `LogSetup`: the state;
* `levelNamed`, `LogSetup.configure`: configuring;
* `LogSetup.configured`, `LogSetup.configure_eq`: what it leaves;
* `LogSetup.effectiveLevel`, `LogSetup.enabled`: which records pass;
* `LogSetup.emit`: the lines that a record writes.
-/

namespace Runboard

/-! ## State -/

/-- What is done with a record. -/
inductive Handler where
  /-- Nothing: a `NullHandler`. -/
  | silent
  /-- It is written to standard output by a formatter: a `StreamHandler`. -/
  | output (formatter : Formatter)
  deriving DecidableEq, Repr

/-- The level of the root logger, its handlers, and the loggers that have a level of their own. What they
are before `configure_logging` is called is the choice of the surroundings: the libraries that were
loaded may have set levels, and so may whoever runs the service. -/
structure LogSetup where
  rootLevel : Level
  handlers : List Handler
  levels : List (String × Level)
  deriving DecidableEq, Repr

/-! ## Configuring -/

/-- The loggers of libraries that `configure_logging` sets to `WARNING`. -/
def quietLoggers : List String := ["uvicorn.access", "sqlalchemy.engine", "aiosqlite"]

/-- The small letters outside ASCII whose capitals are ASCII letters. -/
def capitalsOf : List (Char × String) :=
  [ ('\u00DF', "SS"), ('\u0131', "I"), ('\u017F', "S"), ('\uFB00', "FF"), ('\uFB01', "FI"),
    ('\uFB02', "FL"), ('\uFB03', "FFI"), ('\uFB04', "FFL"), ('\uFB05', "ST"), ('\uFB06', "ST") ]

/-- A text in capitals, as far as the name of a level can hold it. -/
def capitals (s : String) : String :=
  String.ofList (s.toList.flatMap fun c =>
    match capitalsOf.find? (·.1 == c) with
    | some (_, capitals) => capitals.toList
    | none => [c.toUpper])

/-- The levels that have names. -/
def namedLevels : List (String × Level) :=
  [ ("CRITICAL", 50), ("FATAL", 50), ("ERROR", 40), ("WARNING", 30), ("WARN", 30), ("INFO", 20),
    ("DEBUG", 10), ("NOTSET", 0) ]

/-- Why logging cannot be configured. -/
inductive ConfigureFault where
  /-- A text stands where a level should. -/
  | text (found : String)
  /-- A table of the styles of gaps stands where a level should. -/
  | styles
  deriving DecidableEq, Repr

/-- The text of the table of styles: each with its class and the gaps of an ordinary line. -/
def stylesText : String :=
  "\x7b'%': (<class 'logging.PercentStyle'>, '%(levelname)s:%(name)s:%(message)s'), " ++
  "'\x7b': (<class 'logging.StrFormatStyle'>, " ++
  "'\x7blevelname\x7d:\x7bname\x7d:\x7bmessage\x7d'), " ++
  "'$': (<class 'logging.StringTemplateStyle'>, " ++
  "'$\x7blevelname\x7d:$\x7bname\x7d:$\x7bmessage\x7d')\x7d"

/-- How a refused configuration is reported. -/
def ConfigureFault.message : ConfigureFault → String
  | .text found => "Unknown level: " ++ Text.quote found
  | .styles => "Level not an integer or a valid string: " ++ stylesText

/-- The level of a name in either case; an unknown name is that of ordinary events, and two names
stand for something that is no level. -/
def levelNamed (name : String) : Except ConfigureFault Level :=
  let name := capitals name
  if name = "BASIC_FORMAT" then .error (.text "%(levelname)s:%(name)s:%(message)s")
  else if name = "_STYLES" then .error .styles
  else .ok ((Fields.get? namedLevels name).getD Level.info)

/-- The form of the lines in an environment. -/
def formatterFor (environment : String) : Formatter :=
  if environment = "production" then { style := .structured }
  else { style := .human, pattern := some "%Y-%m-%d %H:%M:%S" }

namespace LogSetup

/-- Gives a logger a level. -/
def setLevel (s : LogSetup) (logger : String) (l : Level) : LogSetup :=
  { s with levels := Fields.put s.levels logger l }

/-- Configures for an environment and a level by name. -/
def configure (s : LogSetup) (environment level : String) : Except ConfigureFault LogSetup :=
  match levelNamed level with
  | .error f => .error f
  | .ok l =>
    let s := { s with rootLevel := l, handlers := [] }
    let s := { s with handlers := s.handlers ++ [.output (formatterFor environment)] }
    .ok (quietLoggers.foldl (fun s logger => s.setLevel logger Level.warning) s)

/-- The levels of loggers, of which some are quieted. -/
def quieted (levels : List (String × Level)) : List (String × Level) :=
  quietLoggers.foldl (fun levels logger => Fields.put levels logger Level.warning) levels

theorem get?_quieted (levels : List (String × Level)) (logger : String) :
    Fields.get? (quieted levels) logger =
      if logger ∈ quietLoggers then some Level.warning else Fields.get? levels logger :=
  Fields.get?_foldl_put quietLoggers levels logger Level.warning

/-- What was quieted stays as it is. -/
theorem quieted_quieted (levels : List (String × Level)) :
    quieted (quieted levels) = quieted levels := by
  apply Fields.foldl_put_of_get?
  intro logger quiet
  rw [get?_quieted, if_pos quiet]

/-- The state after configuring for an environment and a level. -/
def configured (s : LogSetup) (environment : String) (l : Level) : LogSetup :=
  { rootLevel := l, handlers := [.output (formatterFor environment)], levels := quieted s.levels }

/-- Of what was configured before nothing is left. -/
theorem configured_configured (s : LogSetup) (environment other : String) (l k : Level) :
    (s.configured environment l).configured other k = s.configured other k := by
  simp only [configured, quieted_quieted]

/-- Whether a state can be configured depends on the name of the level alone. -/
theorem configure_eq (s : LogSetup) (environment level : String) :
    s.configure environment level = (levelNamed level).map (s.configured environment) := by
  unfold configure
  cases levelNamed level with
  | error fault => rfl
  | ok l => rfl

/-! ## Passing -/

/-- What stands before the last dot of a name, where the name and the answer are written
backwards. -/
def beforeDot (name : List Char) : List Char := (name.dropWhile (· != '.')).drop 1

/-- The names of the ancestors of a logger below the root, the nearest first; there are at most
`fuel`. An ancestor is what stands before a dot, and no two such dots stand side by side. Which loggers
exist is not modelled: where a name ends in a dot and a logger of that very name was asked for before,
its own ancestor would be one, too. Names are written backwards. -/
def ancestors : (fuel : Nat) → List Char → List String
  | 0, _ => []
  | fuel + 1, name =>
    let parent := beforeDot name
    if parent.isEmpty then []
    else String.ofList parent.reverse :: ancestors fuel (parent.drop 1)

/-- A logger below the root with its ancestors, the nearest first; those with a level of their own
decide the effective level. -/
def lineage (logger : String) : List String :=
  if logger = "root" then [] else logger :: ancestors logger.length logger.toList.reverse

/-- The effective level of a logger: that of the nearest of its lineage that has one other than
`NOTSET`, else that of the root. -/
def effectiveLevel (s : LogSetup) (logger : String) : Level :=
  let own := (lineage logger).filterMap fun name =>
    match Fields.get? s.levels name with
    | some l => if l = 0 then none else some l
    | none => none
  own.headD s.rootLevel

/-- Whether a logger is enabled for a level. -/
def enabled (s : LogSetup) (logger : String) (l : Level) : Bool :=
  decide (0 < l) && decide (s.effectiveLevel logger ≤ l)

/-- The texts that the handlers write for a record; a record that cannot be formatted is not written. -/
def written (s : LogSetup) (context : LogContext) (r : LogRecord) : List String :=
  s.handlers.filterMap fun
    | .silent => none
    | .output f => (f.format context r).toOption

/-- The texts that a record writes. -/
def emit (s : LogSetup) (context : LogContext) (r : LogRecord) : List String :=
  if s.enabled r.logger r.level then s.written context r else []

end LogSetup

/-- The lines of some texts, each of which ends its line. -/
def outputLines (texts : List String) : List String :=
  texts.flatMap fun s => (Text.splitAll '\n' s.toList).map String.ofList

end Runboard
