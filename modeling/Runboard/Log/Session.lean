import Runboard.Log.Setup

/-!
# `Runboard.Log.Session`: sessions of the journal

A session sets and clears the context, formats records, configures logging, and logs. A record whose
`%` gaps cannot be filled is reported by the handler and not raised: it is as if nothing had been logged.

## Contents

* `Journal`: context, setup and clock;
* `LogStep`, `LogAnswer`, `Journal.step`, `Journal.run`.
-/

namespace Runboard

/-- The state of a session. -/
structure Journal where
  context : LogContext := .empty
  setup : LogSetup
  now : Instant

/-- A step of a session. -/
inductive LogStep where
  | set (change : LogContext)
  | clear
  | format (formatter : Formatter) (record : LogRecord)
  | configure (environment level : String)
  | state
  /-- Logs a text with values and perhaps an exception, at the time of the clock. -/
  | log (logger : String) (level : Level) (template : String) (values : List Json)
      (raised : Option Raised)

/-- What a step answers. -/
inductive LogAnswer where
  | context (fields : List (String × Json))
  | raised (fault : RaisedFault)
  | text (result : Except FormatFault String)
  | setup (result : Except ConfigureFault LogSetup)
  | lines (lines : List String)

/-- The name of the logger that a name stands for: the empty name is that of the root. -/
def loggerNamed (name : String) : String := if name = "" then "root" else name

namespace Journal

/-- Logs a record: the lines that it writes. -/
def log (j : Journal) (r : LogRecord) : List String := outputLines (j.setup.emit j.context r)

/-- Answers for an exception that can be made, else says why it cannot. -/
def withRaised (raised : Option Raised) (answer : LogAnswer) : LogAnswer :=
  match raised.bind Raised.fault? with
  | some f => .raised f
  | none => answer

/-- Makes a step. -/
def step (j : Journal) : LogStep → LogAnswer × Journal
  | .set change =>
    let context := j.context.set change
    (.context context.fields, { j with context := context })
  | .clear => (.context LogContext.empty.fields, { j with context := .empty })
  | .format formatter record =>
    (withRaised record.raised (.text (formatter.format j.context record)), j)
  | .configure environment level =>
    match j.setup.configure environment level with
    | .error f => (.setup (.error f), j)
    | .ok setup => (.setup (.ok setup), { j with setup := setup })
  | .state => (.setup (.ok j.setup), j)
  | .log logger level template values raised =>
    (withRaised raised (.lines (j.log {
      logger := loggerNamed logger
      level := level
      template := template
      values := values
      time := j.now
      raised := raised })), j)

/-- Makes the steps of a session in turn. -/
def run (j : Journal) : List LogStep → List LogAnswer × Journal
  | [] => ([], j)
  | s :: rest =>
    let (a, j) := j.step s
    let (as, j) := run j rest
    (a :: as, j)

end Journal

end Runboard
