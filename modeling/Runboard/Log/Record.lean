import Runboard.Error
import Runboard.Json.Printer
import Runboard.Log.Context
import Runboard.Log.Event
import Runboard.Log.Template
import Runboard.Time.Pattern

/-!
# `Runboard.Log.Record`: records and their two forms

A record has a logger, a level, a text with gaps and values for them, a time, and perhaps an
exception. It is written in one of two forms: as one JSON object on one line, or as a line for
people with the exception below it.

## Contents

* `Raised`, `RaisedFault`: an exception as a record shows it, and what cannot be one;
* `Instant.stamp`: the time of a record, as it is written;
* `LogRecord`, `LogRecord.message`;
* `Formatter`, `FormatFault`, `Formatter.format`: the two forms.
-/

namespace Runboard

/-! ## Exceptions -/

/-- An exception: its class and what it was made with. -/
structure Raised where
  kind : String
  argument : Option Json
  deriving Repr

/-- An exception of the given class was to be made with nothing. -/
structure RaisedFault where
  kind : String
  deriving DecidableEq, Repr

/-- How a fault is reported: by the class that needs something, and what it needs. -/
def RaisedFault.message (f : RaisedFault) : String :=
  let (kind, needed) :=
    if f.kind = "OrgNotFoundError" ∨ f.kind = "StatisticsNotFoundError" then (f.kind, "org_id")
    else ("ExecStatsError", "message")
  kind ++ ".__init__() missing 1 required positional argument: '" ++ needed ++ "'"

namespace Raised

/-- The classes of the service's failures. -/
def failureKinds : List String :=
  [ "ExecStatsError", "AuthenticationError", "OrgAccessError", "OrgNotFoundError",
    "StatisticsNotFoundError" ]

/-- What stands against an exception: a failure of the service needs something to tell. -/
def fault? (r : Raised) : Option RaisedFault :=
  if r.argument.isNone && failureKinds.contains r.kind then some ⟨r.kind⟩ else none

/-- The name of a class with the module it belongs to. -/
def qualifiedKind (kind : String) : String :=
  if failureKinds.contains kind then "exec_stats.errors." ++ kind
  else if kind = "InvalidWindowError" then "exec_stats.stats.windows." ++ kind
  else kind

/-- What an exception says: the display of what it was made with, unless its class has a text of
its own. -/
def detail (r : Raised) : String :=
  match r.argument with
  | none => ""
  | some v =>
    if r.kind = "OrgNotFoundError" then (Failure.orgNotFound v).message
    else if r.kind = "StatisticsNotFoundError" then (Failure.statisticsNotFound v).message
    else if r.kind = "KeyError" then v.literal
    else v.display

/-- An exception in a record: its class, and what it says if it says something. -/
def text (r : Raised) : String :=
  if r.detail = "" then qualifiedKind r.kind else qualifiedKind r.kind ++ ": " ++ r.detail

end Raised

/-! ## Times -/

/-- The text of a record's time: by a pattern that is not empty, or to the thousandth of a
second. -/
def Instant.stamp (t : Instant) (pattern : Option String) : Except TimeFault String :=
  match pattern.filter (· != "") with
  | some pattern => Pattern.apply pattern t
  | none => (Pattern.apply "%Y-%m-%d %H:%M:%S" t).map (· ++ "," ++ padded 3 (t.micros / 1000))

/-! ## Records -/

/-- A record of the journal. -/
structure LogRecord where
  logger : String
  level : Level
  template : String
  values : List Json := []
  time : Instant
  raised : Option Raised := none

/-- The text of a record. -/
def LogRecord.message (r : LogRecord) : Except TemplateFault String :=
  Template.fill r.template r.values

/-- The record of an event. -/
def Event.record (e : Event) (time : Instant) : LogRecord :=
  { logger := e.logger, level := e.level, template := e.text, time := time }

/-- Why a record cannot be written. -/
inductive FormatFault where
  | time (fault : TimeFault)
  | template (fault : TemplateFault)

/-! ## The two forms -/

/-- The form of a record. -/
inductive Style where
  | structured
  | human
  deriving DecidableEq, Repr

/-- A form with the pattern of its times, if it has one. -/
structure Formatter where
  style : Style
  pattern : Option String := none
  deriving DecidableEq, Repr

namespace Formatter

/-- The short names of the parts of a context. -/
def shortName (name : String) : String :=
  if name = "org_id" then "org" else if name = "user_id" then "user" else "req"

/-- A text filled up with blanks at the end. -/
def filled (width : Nat) (s : String) : String :=
  s ++ String.ofList (List.replicate (width - s.length) ' ')

/-- A record as the fields of an object. -/
def structuredFields (stamp level logger message : String) (context : List (String × Json))
    (raised : Option Raised) : List (String × Json) :=
  [ ("timestamp", .str stamp), ("level", .str level), ("logger", .str logger),
    ("message", .str message) ] ++ context ++
    match raised with
    | some r => [("exception", .str r.text)]
    | none => []

/-- A record as a line for people. -/
def humanText (stamp level logger message : String) (context : List (String × Json))
    (raised : Option Raised) : String :=
  let parts := context.map fun (name, v) => shortName name ++ "=" ++ v.display
  "[" ++ stamp ++ "] " ++ filled 8 level ++ " " ++ logger ++ ": " ++ message ++
    (if parts.isEmpty then "" else " [" ++ ", ".intercalate parts ++ "]") ++
    match raised with
    | some r => "\n" ++ r.text
    | none => ""

/-- The text of a record in a context. Its time is written before its gaps are filled. -/
def format (f : Formatter) (context : LogContext) (r : LogRecord) :
    Except FormatFault String :=
  match r.time.stamp f.pattern with
  | .error e => .error (.time e)
  | .ok stamp =>
    match r.message with
    | .error e => .error (.template e)
    | .ok message =>
      let level := Level.name r.level
      .ok (match f.style with
        | .structured =>
          Json.render .spaced
            (.obj (structuredFields stamp level r.logger message context.fields r.raised))
        | .human => humanText stamp level r.logger message context.fields r.raised)

end Formatter

end Runboard
