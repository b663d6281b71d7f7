import Runboard.Json.Basic
import Runboard.Number.Numeral
import Runboard.Settings.Checked
import Runboard.Text.Half

/-!
# `Runboard.Settings.Value`: values of settings

A setting is given as a text, where it comes from the environment, or as a value of any kind. Each
kind of setting has a reading of its own: integers take texts, whole doubles and truth values;
truth values take a few words, zero and one; texts take texts alone.

## Contents

* `Problem`, `Problem.message`: why a value is refused;
* `readInteger`, `readFlag`, `readText`, `readOptionalText`: the readings.
-/

namespace Runboard

open Runboard.Text

/-- Why a value is refused. -/
inductive Problem where
  | integerText
  | integerTooLong
  | integerFraction
  | notFinite
  | notInteger
  | flagText
  | notFlag
  | notText
  | halfText
  | notPositive
  deriving DecidableEq, Repr

/-- How a problem is reported. -/
def Problem.message : Problem → String
  | .integerText => "Input should be a valid integer, unable to parse string as an integer"
  | .integerTooLong => "Unable to parse input string as an integer, exceeded maximum size"
  | .integerFraction => "Input should be a valid integer, got a number with a fractional part"
  | .notFinite => "Input should be a finite number"
  | .notInteger => "Input should be a valid integer"
  | .flagText => "Input should be a valid boolean, unable to interpret input"
  | .notFlag => "Input should be a valid boolean"
  | .notText => "Input should be a valid string"
  | .halfText =>
    "Input should be a valid string, unable to parse raw data as a unicode string"
  | .notPositive => "Value error, must be a positive integer"

/-! ## Readings -/

/-- A whole number inside the range of 64 bits, whose least one is left out. -/
def isWord (n : Int) : Bool := -0x8000000000000000 < n && n < 0x8000000000000000

/-- What a text is read as, if it holds no half of a character. -/
def readWholeText {α : Type} (s : String) (read : String → Checked Problem α) : Checked Problem α :=
  if holdsHalf s then .fault .halfText else read s

/-- The integer of a plain numeral. -/
def readNumeral (s : String) : Checked Problem Int :=
  match Numeral.plain s with
  | .value n => .ok n
  | .tooLong => .fault .integerTooLong
  | .malformed => .fault .integerText

/-- An integer, from a plain numeral, a whole double in the range of 64 bits, or a truth value. -/
def readInteger : Json → Checked Problem Int
  | .int n => .ok n
  | .bool b => .ok (if b then 1 else 0)
  | .str s => readWholeText s readNumeral
  | .float (.finite negative m e) =>
    match (Binary64.finite negative m e).integer? with
    | some n => if isWord n then .ok n else .fault .integerTooLong
    | none => .fault .integerFraction
  | .float _ => .fault .notFinite
  | _ => .fault .notInteger

/-- The words for yes. -/
def yesWords : List String := ["1", "true", "t", "yes", "y", "on"]

/-- The words for no. -/
def noWords : List String := ["0", "false", "f", "no", "n", "off"]

/-- The truth value of a word in either case. -/
def readWord (s : String) : Checked Problem Bool :=
  if yesWords.contains s.toLower then .ok true
  else if noWords.contains s.toLower then .ok false
  else .fault .flagText

/-- A truth value, from a word, from zero and from one. A number that is no integer of 64 bits is of
the wrong kind. -/
def readFlag : Json → Checked Problem Bool
  | .bool b => .ok b
  | .int n =>
    if n = 0 then .ok false
    else if n = 1 then .ok true
    else if isWord n ∨ n = -0x8000000000000000 then .fault .flagText
    else .fault .notFlag
  | .float x =>
    match x.integer? with
    | some n =>
      if n = 0 then .ok false
      else if n = 1 then .ok true
      else if isWord n then .fault .flagText
      else .fault .notFlag
    | none => .fault .notFlag
  | .str s => readWholeText s readWord
  | _ => .fault .notFlag

/-- A text. -/
def readText : Json → Checked Problem String
  | .str s => readWholeText s .ok
  | _ => .fault .notText

/-- A text or nothing. -/
def readOptionalText : Json → Checked Problem (Option String)
  | .null => .ok none
  | .str s => readWholeText s fun s => .ok (some s)
  | _ => .fault .notText

/-- A positive integer. -/
def readPositive (v : Json) : Checked Problem Int :=
  (readInteger v).ensure (fun n => decide (0 < n)) .notPositive

end Runboard
