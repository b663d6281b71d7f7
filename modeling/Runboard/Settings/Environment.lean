import Runboard.Json.Literal
import Runboard.Text.Case
import Runboard.Text.Utf8

/-!
# `Runboard.Settings.Environment`: variables of a process

The environment holds texts under names. Not every value can be set under every name: a variable is
a text, neither it nor its name holds a zero character, and a name is not empty and holds no equals
sign. Changes are made one after another, and the first that cannot be made ends them.

## Contents

* `Environment`, `VariableFault`, `Environment.change`, `Environment.changeAll`: setting and removing
  variables;
* `VariableRules`, `VariableRules.get?`: how variables are taken for settings.
-/

namespace Runboard

open Runboard.Text

/-! ## Changes -/

/-- The variables of a process, in the order in which they were set. -/
abbrev Environment := List (String × String)

/-- Why a variable cannot be set. -/
inductive VariableFault where
  /-- The value is no text; `kind` names what it is. -/
  | notText (kind : String)
  | unencodable (fault : EncodeFault)
  | zeroCharacter
  | nameForm
  | noName
  deriving DecidableEq, Repr

/-- How a fault is reported. -/
def VariableFault.message : VariableFault → String
  | .notText kind => "str expected, not " ++ kind
  | .unencodable fault => fault.message
  | .zeroCharacter => "embedded null byte"
  | .nameForm => "illegal environment variable name"
  | .noName => "[Errno 22] Invalid argument"

/-- The halves of a text that a variable cannot hold. A half that stands for a byte can be held. -/
def variableHalves? (s : String) : Option EncodeFault :=
  faultFrom? (fun unit => 0xdc80 ≤ unit && unit ≤ 0xdcff) 0 s.toList

/-- What stands against a text under a name. -/
def VariableFault.of? (name value : String) : Option VariableFault :=
  match variableHalves? name, variableHalves? value with
  | some f, _ => some (.unencodable f)
  | none, some f => some (.unencodable f)
  | none, none =>
    if name.toList.contains '\x00' || value.toList.contains '\x00' then some .zeroCharacter
    else if name.toList.contains '=' then some .nameForm
    else if name = "" then some .noName
    else none

namespace Environment

/-- Sets a variable to a value, or removes it where there is none. -/
def change (e : Environment) (name : String) : Option Json → Except VariableFault Environment
  | none =>
    match variableHalves? name with
    | some f => .error (.unencodable f)
    | none => .ok (e.filter (·.1 != name))
  | some (.str value) =>
    match VariableFault.of? name value with
    | some f => .error f
    | none => .ok (Fields.put e name value)
  | some v =>
    match variableHalves? name with
    | some f => .error (.unencodable f)
    | none => .error (.notText v.kind)

/-- Makes changes in turn, up to the first that cannot be made. -/
def changeAll (e : Environment) :
    List (String × Option Json) → Option VariableFault × Environment
  | [] => (none, e)
  | (name, v) :: rest =>
    match e.change name v with
    | .error f => (some f, e)
    | .ok e => e.changeAll rest

end Environment

/-! ## Variables as settings -/

/-- How variables are taken for settings. -/
structure VariableRules where
  /-- Whether names must agree in case too. -/
  caseSensitive : Bool := false
  /-- What stands before the name of a setting. -/
  lead : String := ""
  /-- Whether empty variables count as absent. -/
  ignoreEmpty : Bool := false
  /-- The text that stands for no value. -/
  absentText : Option String := none

/-- The variable of a setting; of several, the one that was set last. -/
def VariableRules.get? (r : VariableRules) (e : Environment) (name : String) : Option Json :=
  let fold (s : String) : String := if r.caseSensitive then s else lower s
  let wanted := fold (r.lead ++ name)
  let found := e.filter fun v => fold v.1 == wanted && !(r.ignoreEmpty && v.2 == "")
  found.getLast?.map fun v => if r.absentText = some v.2 then .null else .str v.2

end Runboard
