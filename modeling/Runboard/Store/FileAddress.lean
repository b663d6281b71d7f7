import Runboard.Json.Parser
import Runboard.Text.Split

/-!
# `Runboard.Store.FileAddress`: names of files that are addresses

The name of an `SQLite` database may be a URI (`uri=true`), as `sqlite3_open_v2` reads it. It begins with
`file:`. Two slashes may follow with the name of a host, which can only be this one; then come a path,
after a question mark options with ampersands between them, and after a hash sign what is not looked at.
A percent sign with two digits stands for a character by its byte; the byte zero drops what is left of its
part.

The options say how the database is opened. A mode may only take rights away, but memory is always
allowed. A mode, a cache or a system of files that is not known refuses the database. A database that
a system of files keeps in memory can be declared never to change.

## Contents

* `Storage`: where a database lives;
* `FileAddress`, `FileAddress.parse?`: addresses and their reading, with `decodePart`;
* `FileAccess`, `FileOpening`, `FileOpening.follow?`: how a database is opened;
* `FileAddress.storage`: where the database of an address lives.
-/

namespace Runboard

open Runboard.Text

/-- Where a database lives. -/
inductive Storage where
  /-- In memory; tables can be made there unless it is only read. -/
  | memory (readOnly : Bool)
  /-- In a file or on a server. What such a database holds is not modelled, and none is reached: every
  connection to it fails as one to a file in no directory, or to a server that does not answer. -/
  | elsewhere
  deriving DecidableEq, Repr

/-! ## Addresses -/

/-- The name of a file database, taken apart. -/
structure FileAddress where
  path : String
  options : List (String × String) := []
  deriving DecidableEq, Repr

namespace FileAddress

/-- A part of an address, which ends before a byte zero. -/
def decodePart : List Char → List Char
  | '%' :: a :: b :: rest =>
    match Json.hexDigit? a, Json.hexDigit? b with
    | some x, some y =>
      if x * 16 + y = 0 then [] else Char.ofNat (x * 16 + y) :: decodePart rest
    | _, _ => '%' :: decodePart (a :: b :: rest)
  | c :: rest => c :: decodePart rest
  | [] => []

/-- An option with its value, which is empty if there is none. -/
def readOption (part : List Char) : String × String :=
  let (name, value) := (splitFirst '=' part).getD (part, [])
  (String.ofList (decodePart name), String.ofList (decodePart value))

/-- What follows the host of an address, if that is this one. -/
def afterHost? : List Char → Option (List Char)
  | '/' :: '/' :: rest =>
    let host := rest.takeWhile (· != '/')
    if host.isEmpty || host == "localhost".toList then some (rest.dropWhile (· != '/')) else none
  | cs => some cs

/-- What stands before every address. -/
def lead : List Char := "file:".toList

/-- Whether a name is an address. -/
def isAddress (name : String) : Bool := lead.isPrefixOf name.toList

/-- An address taken apart. Options without a name do not count. -/
def parse? (name : String) : Option FileAddress :=
  (afterHost? (name.toList.drop lead.length)).map fun cs =>
    let cs := cs.takeWhile (· != '#')
    let (path, options) := (splitFirst '?' cs).getD (cs, [])
    { path := String.ofList (decodePart path)
      options := ((splitAll '&' options).map readOption).filter (·.1 != "") }

end FileAddress

/-! ## Opening -/

/-- What may be done with a database. -/
inductive FileAccess where
  | read
  | write
  | create
  | memory
  deriving DecidableEq, Repr

namespace FileAccess

/-- The rights by name. -/
def names : List (String × FileAccess) :=
  [("ro", .read), ("rw", .write), ("rwc", .create), ("memory", .memory)]

/-- How far rights reach. -/
def rank : FileAccess → Nat
  | .read => 1
  | .write => 2
  | .create => 3
  | .memory => 4

/-- Whether rights may be asked for where others were granted. -/
def mayBecome (granted asked : FileAccess) : Bool :=
  asked == .memory || asked.rank ≤ granted.rank

end FileAccess

/-- How a database is opened. -/
structure FileOpening where
  access : FileAccess := .create
  system : String := "unix"
  deriving DecidableEq, Repr

namespace FileOpening

/-- The ways in which connections share what they have read. -/
def caches : List String := ["shared", "private"]

/-- The systems of files, the last of which keeps all in memory. -/
def systems : List String := ["unix", "unix-none", "unix-dotfile", "unix-excl", "memdb"]

/-- An opening under one more option, unless the option refuses it. -/
def follow? (o : FileOpening) : String × String → Option FileOpening
  | ("vfs", system) => some { o with system := system }
  | ("cache", cache) => if caches.contains cache then some o else none
  | ("mode", mode) =>
    match Fields.get? FileAccess.names mode with
    | some asked => if o.access.mayBecome asked then some { o with access := asked } else none
    | none => none
  | _ => some o

/-- Where a database of a name lives; `fixed` says that it never changes. -/
def storage (o : FileOpening) (name : String) (fixed : Bool) : Storage :=
  if !systems.contains o.system then .elsewhere
  else if name = "" ∨ name = ":memory:" ∨ o.access = .memory then .memory (o.access == .read)
  else if o.system = "memdb" then .memory (o.access == .read || fixed)
  else .elsewhere

end FileOpening

/-- Whether the value of an option means yes: a word, in either case, or a number whose lowest byte
is not zero. -/
def isYes (value : String) : Bool :=
  let digits := value.toList.takeWhile Char.isDigit
  if digits.isEmpty then ["on", "yes", "true"].contains value.toLower
  else Binary64.digitsValue digits < 0x80000000 && Binary64.digitsValue digits % 256 != 0

/-- Where the database of an address lives. -/
def FileAddress.storage (a : FileAddress) : Storage :=
  match a.options.foldlM FileOpening.follow? {} with
  | some o => o.storage a.path ((Fields.get? a.options "immutable").any isYes)
  | none => .elsewhere

/-- Where the database of a name lives. -/
def storageOf (name : String) : Storage :=
  if FileAddress.isAddress name then
    match FileAddress.parse? name with
    | some a => a.storage
    | none => .elsewhere
  else ({} : FileOpening).storage name false

end Runboard
