import Runboard.Json.Literal
import Runboard.Number.Numeral

/-!
# `Runboard.Store.Uuid`: the identifiers of rows

An identifier is a number of 128 bits. It is written as 32 lower-case digits of base sixteen in five
groups. Reading is generous: the words `urn:` and `uuid:` and all hyphens are left out wherever they
stand, braces around the text are dropped, and the 32 characters that remain are read as a numeral
of base sixteen.

## Contents

* `Uuid`, `Uuid.text`: identifiers and their canonical text;
* `removeWord`: a text without the occurrences of a word;
* `Uuid.Fault`, `Uuid.bare`, `Uuid.read`, `Uuid.ofText?`, `Uuid.ofJson?`: reading;
* `Uuid.GivenFault`, `Uuid.ofGiven`: values that must be texts of identifiers.
-/

namespace Runboard

open Runboard.Text

/-- An identifier. -/
structure Uuid where
  value : Nat
  deriving DecidableEq, Repr, Inhabited

/-- The canonical text of an identifier. -/
def Uuid.text (u : Uuid) : String :=
  let ds := hexDigits 32 u.value
  String.ofList (ds.take 8 ++ '-' :: (ds.drop 8).take 4 ++ '-' :: (ds.drop 12).take 4 ++
    '-' :: (ds.drop 16).take 4 ++ '-' :: ds.drop 20)

/-- A text without the occurrences of a word, found from left to right, where `skip` characters of
an occurrence are still to be left out. -/
def removeFrom (word : List Char) : (skip : Nat) → List Char → List Char
  | _, [] => []
  | skip + 1, _ :: cs => removeFrom word skip cs
  | 0, c :: cs =>
    if word.isPrefixOf (c :: cs) then removeFrom word (word.length - 1) cs
    else c :: removeFrom word 0 cs

/-- A text without the occurrences of a word. -/
def removeWord (word : String) (cs : List Char) : List Char :=
  removeFrom word.toList 0 cs

namespace Uuid

/-- A brace of either kind. -/
def isBrace (c : Char) : Bool := c == '\x7b' || c == '\x7d'

/-- What remains of a text without words, braces and hyphens. -/
def bare (cs : List Char) : List Char :=
  (trimChars isBrace (removeWord "uuid:" (removeWord "urn:" cs))).filter (· != '-')

/-- Why a text names no identifier. -/
inductive Fault where
  | length
  | digits (bare : String)
  deriving DecidableEq, Repr

/-- How a fault is reported. A long text is cut. -/
def Fault.message : Fault → String
  | .length => "badly formed hexadecimal UUID string"
  | .digits bare =>
    "invalid literal for int() with base 16: " ++ String.ofList ((quote bare).toList.take 200)

/-- The identifier that a text names. -/
def read (s : String) : Except Fault Uuid :=
  let cs := bare s.toList
  if cs.length = 32 then
    match Numeral.hexadecimal? cs with
    | some n =>
      if n < 0x100000000000000000000000000000000 then .ok ⟨n⟩
      else .error (.digits (String.ofList cs))
    | none => .error (.digits (String.ofList cs))
  else .error .length

/-- The identifier that a text names, if it names one. -/
def ofText? (s : String) : Option Uuid := (read s).toOption

/-- The identifier that a value names by its display. -/
def ofJson? (v : Json) : Option Uuid := ofText? v.display

/-- Why a value is not the text of an identifier. -/
inductive GivenFault where
  | malformed (fault : Fault)
  | missing
  /-- The value is no text; `kind` names what it is. -/
  | noText (kind : String)
  deriving DecidableEq, Repr

/-- How a fault is reported. -/
def GivenFault.message : GivenFault → String
  | .malformed fault => fault.message
  | .missing => "one of the hex, bytes, bytes_le, fields, or int arguments must be given"
  | .noText kind => "'" ++ kind ++ "' object has no attribute 'replace'"

/-- The identifier of a value, which must be its text. -/
def ofGiven : Json → Except GivenFault Uuid
  | .str s => (read s).mapError .malformed
  | .null => .error .missing
  | v => .error (.noText v.kind)

end Uuid

end Runboard
