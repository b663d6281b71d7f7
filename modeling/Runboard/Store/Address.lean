import Runboard.Text.Percent
import Runboard.Text.Split
import Runboard.Text.Word

/-!
# `Runboard.Store.Address`: addresses of databases

An address names a dialect, perhaps with a driver, and then, each part optional, a user with a
password, a host, a port, a database, and after a question mark options with their values. Whatever
follows these parts is not looked at.

## Contents

* `readOptions`: options with their values;
* `Address`, `Address.parse?`: addresses and their reading;
* `Address.backend`: the dialect without the driver.
-/

namespace Runboard

open Runboard.Text

/-! ## Options -/

/-- The values of an option; an option that is given repeatedly has several. -/
inductive OptionValue where
  | one (s : String)
  | several (list : List String)
  deriving DecidableEq, Repr

/-- An option with one more value. -/
def OptionValue.add : OptionValue → String → OptionValue
  | .one s, t => .several [s, t]
  | .several list, t => .several (list ++ [t])

/-- A name or value of an option: a plus sign stands for a blank. -/
def optionText (cs : List Char) : String :=
  String.ofList (percentDecode (cs.map fun c => if c = '+' then ' ' else c))

/-- The options of a text: equations with ampersands between them. An equation without a value, and
a part that is no equation, count for nothing. -/
def readOptions (cs : List Char) : List (String × OptionValue) :=
  (splitAll '&' cs).foldl (fun options part =>
    match splitFirst '=' part with
    | none => options
    | some (name, value) =>
      if value.isEmpty then options
      else
        let name := optionText name
        let value := optionText value
        Fields.put options name
          (match Fields.get? options name with
            | some v => v.add value
            | none => .one value)) []

/-! ## Addresses -/

/-- An address of a database, taken apart. -/
structure Address where
  driver : String
  user : Option String := none
  password : Option String := none
  host : Option String := none
  port : Option String := none
  database : Option String := none
  options : List (String × OptionValue) := []
  deriving DecidableEq, Repr

namespace Address

/-- A character of the name of a dialect or driver. -/
def isNameChar (c : Char) : Bool := isWordChar c || c == '+'

/-- What remains of a text after two slashes and a colon at its start. -/
def afterMark? : List Char → Option (List Char)
  | ':' :: '/' :: '/' :: rest => some rest
  | _ => none

/-- The user and password of an address, with what follows. A user ends at a colon or slash; without
a password it ends at the last sign before that. -/
def splitUser (cs : List Char) : Option (List Char) × Option (List Char) × List Char :=
  let user := cs.takeWhile fun c => c != ':' && c != '/'
  let rest := cs.dropWhile fun c => c != ':' && c != '/'
  let short :=
    match splitLast '@' user with
    | some (name, host) => (some name, none, host ++ rest)
    | none => (none, none, cs)
  match rest with
  | ':' :: rest =>
    match splitFirst '@' rest with
    | some (password, after) => (some user, some password, after)
    | none => short
  | _ => short

/-- The host of an address, with what follows. A host may stand in brackets. -/
def splitHost (cs : List Char) : Option (List Char) × List Char :=
  let plain :=
    let host := cs.takeWhile fun c => c != '/' && c != ':' && c != '?'
    if host.isEmpty then (none, cs)
    else (some host, cs.dropWhile fun c => c != '/' && c != ':' && c != '?')
  match cs with
  | '[' :: rest =>
    let inside := rest.takeWhile fun c => c != '/' && c != '?'
    match splitLast ']' inside with
    | some (host, after) =>
      if host.isEmpty then plain
      else (some host, after ++ rest.dropWhile fun c => c != '/' && c != '?')
    | none => plain
  | _ => plain

/-- The port of an address, with what follows. -/
def splitPort : List Char → Option (List Char) × List Char
  | ':' :: rest =>
    (some (rest.takeWhile fun c => c != '/' && c != '?'),
      rest.dropWhile fun c => c != '/' && c != '?')
  | cs => (none, cs)

/-- The database of an address, with what follows. -/
def splitDatabase : List Char → Option (List Char) × List Char
  | '/' :: rest => (some (rest.takeWhile (· != '?')), rest.dropWhile (· != '?'))
  | cs => (none, cs)

/-- The options of an address, which stand on one line. -/
def optionsOf : List Char → List (String × OptionValue)
  | '?' :: rest => readOptions (rest.takeWhile (· != '\n'))
  | _ => []

/-- An address taken apart, if the text is one. -/
def parse? (s : String) : Option Address :=
  let cs := s.toList
  let name := cs.takeWhile isNameChar
  match afterMark? (cs.dropWhile isNameChar) with
  | none => none
  | some rest =>
    if name.isEmpty then none
    else
      let (user, password, rest) := splitUser rest
      let (host, rest) := splitHost rest
      let (port, rest) := splitPort rest
      let (database, rest) := splitDatabase rest
      let decoded (part : Option (List Char)) : Option String :=
        part.map fun cs => String.ofList (percentDecode cs)
      some {
        driver := String.ofList name
        user := decoded user
        password := decoded password
        host := host.map String.ofList
        port := port.map String.ofList
        database := decoded database
        options := optionsOf rest }

/-- The dialect without the driver. -/
def backend (a : Address) : String :=
  String.ofList (a.driver.toList.takeWhile (· != '+'))

end Address

end Runboard
