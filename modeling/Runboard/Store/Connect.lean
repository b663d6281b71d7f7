import Runboard.Number.Real
import Runboard.Store.Address
import Runboard.Store.FileAddress
import Runboard.Text.Case

/-!
# `Runboard.Store.Connect`: options of a connection

The options of an address are handed to the driver. A file database takes a few of them, each of a type
of its own; a server may be given several hosts and ports, which must go together. Some values suit
their options, but not the driver, which refuses every connection then.

## Contents

* `OptionFault`, `OptionFault.message`: what may be wrong with an option;
* `readFlagOption`, `checkDecimalOption`, `readIntegerOption`: options by type;
* `ConnectFault`, `ConnectFault.message`: why a driver refuses a connection;
* `Connection`: what is known of the connections of an engine;
* `FileOptions`, `fileName`, `fileConnection`: the connections to a file database;
* `HostList`, `serverConnection`: the connections to a server.
-/

namespace Runboard

open Runboard.Text

/-! ## Options by type -/

/-- What may be wrong with an option. -/
inductive OptionFault where
  | flag (text : String)
  | decimal (text : String)
  | integer (fault : Numeral.Fault)
  | severalDecimals
  | severalIntegers
  /-- The name of a database is to be an address of its own, but there is none. -/
  | noName
  /-- Every host of a server is given with more than one port. -/
  | manyPorts
  /-- The hosts and ports of a server do not go together. -/
  | hosts
  deriving DecidableEq, Repr

/-- How a fault is reported; the last has a report that is not told. -/
def OptionFault.message : OptionFault → String
  | .flag text => "String is not true/false: " ++ quote text
  | .decimal text => "could not convert string to float: " ++ quote text
  | .integer fault => fault.message
  | .severalDecimals => "float() argument must be a string or a real number, not 'tuple'"
  | .severalIntegers =>
    "int() argument must be a string, a bytes-like object or a real number, not 'tuple'"
  | .noName => "unsupported operand type(s) for +=: 'NoneType' and 'str'"
  | .manyPorts => "too many values to unpack (expected 2)"
  | .hosts => ""

/-- The options of an address. -/
abbrev ConnectOptions := List (String × OptionValue)

/-- The words for yes and for no. -/
def flagWords : List (String × Bool) :=
  [ ("true", true), ("yes", true), ("on", true), ("y", true), ("t", true), ("1", true),
    ("false", false), ("no", false), ("off", false), ("n", false), ("f", false), ("0", false) ]

/-- A truth value; a repeated option counts as yes. -/
def readFlagOption (options : ConnectOptions) (name : String) : Except OptionFault Bool :=
  match Fields.get? options name with
  | none => .ok false
  | some (.several _) => .ok true
  | some (.one s) =>
    let word := lower (trim s)
    match Fields.get? flagWords word with
    | some b => .ok b
    | none => .error (.flag word)

/-- Checks that an option is a number. -/
def checkDecimalOption (options : ConnectOptions) (name : String) : Except OptionFault Unit :=
  match Fields.get? options name with
  | none => .ok ()
  | some (.several _) => .error .severalDecimals
  | some (.one s) => if (Numeral.real? s).isSome then .ok () else .error (.decimal s)

/-- An option that is an integer, if it is given. -/
def readIntegerOption (options : ConnectOptions) (name : String) :
    Except OptionFault (Option Int) :=
  match Fields.get? options name with
  | none => .ok none
  | some (.several _) => .error .severalIntegers
  | some (.one s) =>
    match Numeral.lenient s with
    | .ok n => .ok (some n)
    | .error fault => .error (.integer fault)

/-! ## Connections -/

/-- Why a driver refuses a connection. -/
inductive ConnectFault where
  /-- The name of the database holds a zero character. -/
  | zeroCharacter
  /-- An integer does not fit 32 bits. -/
  | tooLarge
  /-- The level of isolation is given repeatedly, which names none. -/
  | isolation
  deriving DecidableEq, Repr

/-- How a fault is reported. -/
def ConnectFault.message : ConnectFault → String
  | .zeroCharacter => "embedded null byte"
  | .tooLarge => "Python int too large to convert to C int"
  | .isolation => "isolation_level string must be '', 'DEFERRED', 'IMMEDIATE', or 'EXCLUSIVE'"

/-- What is known of the connections of an engine: where they lead to, and why each of them is
refused, if they are. -/
structure Connection where
  storage : Storage
  fault? : Option ConnectFault := none
  /-- Whether the driver turns the texts of days into days by itself, where texts are expected. -/
  convertsDays : Bool := false
  deriving DecidableEq, Repr

/-! ## File databases -/

/-- The options that a file database knows. -/
def fileOptionNames : List String :=
  [ "uri", "timeout", "isolation_level", "detect_types", "check_same_thread", "cached_statements" ]

/-- The options of a file database. -/
structure FileOptions where
  /-- Whether the name of the database is an address of its own. -/
  isAddress : Bool
  detectTypes : Option Int
  cachedStatements : Option Int
  deriving DecidableEq, Repr

/-- The options of a file database, read in a fixed order. -/
def FileOptions.read (options : ConnectOptions) : Except OptionFault FileOptions := do
  let isAddress ← readFlagOption options "uri"
  checkDecimalOption options "timeout"
  let detectTypes ← readIntegerOption options "detect_types"
  let _ ← readFlagOption options "check_same_thread"
  let cachedStatements ← readIntegerOption options "cached_statements"
  return { isAddress, detectTypes, cachedStatements }

/-- The value of an option as it stands in the name of a database. -/
def OptionValue.inName : OptionValue → String
  | .one s => s
  | .several list => "(" ++ ", ".intercalate (list.map quote) ++ ")"

/-- The name of a file database. To a name that is an address, all options that the driver does not
know are appended, in the order of their names. -/
def fileName (database : Option String) (isAddress : Bool) (options : ConnectOptions) :
    Except OptionFault (Option String) :=
  let others := options.filter fun o => !fileOptionNames.contains o.1
  if !isAddress then .ok (some (database.getD ""))
  else if others.isEmpty then .ok database
  else
    match database with
    | none => .error .noName
    | some name =>
      let sorted := others.mergeSort fun a b => decide (a.1 ≤ b.1)
      .ok (some (name ++ "?" ++ "&".intercalate (sorted.map fun o => o.1 ++ "=" ++ o.2.inName)))

/-- Where a file database lives. -/
def fileStorage (name : Option String) (isAddress : Bool) : Storage :=
  match name with
  | none => .elsewhere
  | some name => if isAddress then storageOf name else ({} : FileOpening).storage name false

/-- Whether an integer, if it is given, fits 32 bits. -/
def fitsHalfWord (n : Option Int) : Bool := n.all fun n => -0x80000000 ≤ n && n < 0x80000000

/-- Whether an option is given repeatedly. -/
def isRepeated (options : ConnectOptions) (name : String) : Bool :=
  match Fields.get? options name with
  | some (.several _) => true
  | _ => false

/-- Why connections to a file database are refused, looked at in a fixed order. A level of isolation
that is given once is not looked at. -/
def fileFault? (name : Option String) (read : FileOptions) (options : ConnectOptions) :
    Option ConnectFault :=
  if name.any fun s => s.toList.contains '\x00' then some .zeroCharacter
  else if !fitsHalfWord read.detectTypes then some .tooLarge
  else if isRepeated options "isolation_level" then some .isolation
  else if !fitsHalfWord read.cachedStatements then some .tooLarge
  else none

/-- The connections to a file database. -/
def fileConnection (database : Option String) (options : ConnectOptions) :
    Except OptionFault Connection := do
  let read ← FileOptions.read options
  let name ← fileName database read.isAddress options
  return {
    storage := fileStorage name read.isAddress
    fault? := fileFault? name read options
    convertsDays := read.detectTypes.any fun n => n % 2 = 1 }

/-! ## Servers -/

/-- The hosts and ports that the options of a server name. -/
structure HostList where
  hosts : Option (List String) := none
  ports : Option (List String) := none
  /-- Whether the hosts carry their ports. -/
  together : Bool := false
  deriving DecidableEq, Repr

namespace HostList

/-- A host with its port, which is empty if there is none. -/
def splitHostPort (s : String) : String × String :=
  match splitFirst ':' s.toList with
  | some (host, rest) =>
    (String.ofList host, String.ofList (((splitAll ':' rest).head?).getD []))
  | none => (s, "")

/-- Whether a host is given with more than one port. -/
def hasManyPorts (s : String) : Bool := 2 < (splitAll ':' s.toList).length

/-- A character of the name of a host. -/
def isHostChar (c : Char) : Bool := c.isAlphanum || c == '-' || c == '.'

/-- Whether a text is the name of a host, a colon, and digits. -/
def isHostPort (s : String) : Bool :=
  match splitFirst ':' s.toList with
  | some (host, port) =>
    let port := if port.getLast? = some '\n' then port.dropLast else port
    host.all isHostChar && port.all fun c => (decimalValue? c).isSome
  | none => false

/-- The parts of a list with commas. -/
def parts (s : String) : List String := (splitAll ',' s.toList).map String.ofList

/-- Hosts that carry their ports. -/
def ofPairs (tokens : List String) : HostList :=
  let pairs := tokens.map splitHostPort
  { hosts := some (pairs.map (·.1)), ports := some (pairs.map (·.2)), together := true }

/-- The hosts that the options name. A repeated option carries ports, and so does a single host with a
colon, unless there is an option for ports. Of a host with more than one port the first counts, if
some other host has no more than one. -/
def ofHosts (options : ConnectOptions) : Except OptionFault HostList :=
  match Fields.get? options "host" with
  | none => .ok {}
  | some (.several tokens) =>
    if tokens.all hasManyPorts then .error .manyPorts else .ok (ofPairs tokens)
  | some (.one s) =>
    if isHostPort s && (Fields.get? options "port").isNone then .ok (ofPairs [s])
    else .ok { hosts := some (parts s) }

/-- The ports that the options name, put to the hosts. -/
def withPorts (l : HostList) (options : ConnectOptions) : Except OptionFault HostList :=
  match Fields.get? options "port" with
  | none => .ok l
  | some v =>
    if l.together then .error .hosts
    else
      match v with
      | .several list => .ok { l with ports := some list }
      | .one s => .ok { l with ports := some (parts s) }

/-- The ports as numbers; an empty one is left open. -/
def portNumbers? (ports : List String) : Option (List (Option Int)) :=
  ports.mapM fun s => if s = "" then some none else (Numeral.lenient s).toOption.map some

/-- Whether the hosts and ports go together: as many of the one as of the other, and of several hosts
each with its port. -/
def agrees (l : HostList) : Bool :=
  match portNumbers? (l.ports.getD []) with
  | none => false
  | some ports =>
    match l.hosts with
    | none => ports.length ≤ 1
    | some hosts =>
      let equallyMany := l.ports.isNone || hosts.length == ports.length
      hosts.length ≤ 1 && ports.length ≤ 1 ||
        (equallyMany && hosts.all (· != "") && !ports.isEmpty &&
          ports.all fun p => p.isSome && p != some 0)

end HostList

/-- The connections to a server. -/
def serverConnection (options : ConnectOptions) : Except OptionFault Connection := do
  let l ← (← HostList.ofHosts options).withPorts options
  unless l.agrees do .error .hosts
  let _ ← readIntegerOption options "prepared_statement_cache_size"
  return { storage := .elsewhere }

end Runboard
