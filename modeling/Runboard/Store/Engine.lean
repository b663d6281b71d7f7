import Runboard.Store.Connect
import Runboard.Store.Driver

/-!
# `Runboard.Store.Engine`: engines of databases

An engine is made from an address. The dialect and its driver must be known and at hand, an address of
a file database has no user, host or port, the options must suit the driver, and the driver must serve
asynchronously. An engine for a file database keeps one connection for all; any other checks its
connections before use.

## Contents

* `EngineFault`, `EngineFault.isDatabaseError`: why no engine can be made;
* `Engine`, `Engine.make`.
-/

namespace Runboard

open Runboard.Text

/-- Why no engine can be made. -/
inductive EngineFault where
  | notAddress
  | badPort (fault : Numeral.Fault)
  /-- The address asks for a plugin. -/
  | unknownPlugin
  | driver (fault : DriverFault)
  | driverMissing (library : String)
  | strayParts
  | option (fault : OptionFault)
  | notAsynchronous
  deriving DecidableEq, Repr

namespace EngineFault

/-- Whether a fault is one of the database layer. -/
def isDatabaseError : EngineFault → Bool
  | .notAddress => true
  | .badPort _ => false
  | .unknownPlugin => true
  | .driver .unknown => true
  | .driver _ => false
  | .driverMissing _ => false
  | .strayParts => true
  | .option .hosts => true
  | .option _ => false
  | .notAsynchronous => true

/-- How a fault is reported that is not one of the database layer; reports of that layer are not
told. -/
def message : EngineFault → String
  | .badPort fault => fault.message
  | .driver fault => fault.message
  | .driverMissing library => "No module named '" ++ library ++ "'"
  | .option fault => fault.message
  | _ => ""

end EngineFault

/-- An engine, with the way it treats connections. -/
structure Engine where
  driver : String
  backend : String
  database : Option String
  staticPool : Bool
  prePing : Bool
  /-- What its connections are like; only a database in memory can be reached. -/
  connection : Connection
  deriving DecidableEq, Repr

namespace Engine

/-- Whether a part of an address is there and not empty. -/
def isPresent : Option String → Bool
  | some s => s != ""
  | none => false

/-- The port of an address as a number. -/
def portNumber (a : Address) : Except Numeral.Fault (Option Int) :=
  match a.port with
  | some s => (Numeral.lenient s).map some
  | none => .ok none

/-- Whether an address of a file database has a part that such a database cannot have. The port zero
counts as none. -/
def hasStrayParts (a : Address) (port : Option Int) : Bool :=
  isPresent a.user || isPresent a.password || isPresent a.host || (port.isSome && port != some 0)

/-- Whether an address is that of a file database. -/
def isFileAddress (url : String) : Bool := "sqlite".toList.isPrefixOf url.toList

/-- What an address says of the connections. -/
def connectionOf (a : Address) (port : Option Int) : Except EngineFault Connection :=
  if a.backend = Dialect.sqlite.name then
    if hasStrayParts a port then .error .strayParts
    else (fileConnection a.database a.options).mapError .option
  else (serverConnection a.options).mapError .option

/-- The engine of an address with a driver that is at hand. -/
def ofDriver (url : String) (a : Address) (port : Option Int) (support : DriverSupport) :
    Except EngineFault Engine :=
  match connectionOf a port with
  | .error fault => .error fault
  | .ok connection =>
    if support = .synchronous then .error .notAsynchronous
    else
      .ok {
        driver := a.driver
        backend := a.backend
        database := a.database
        staticPool := isFileAddress url
        prePing := !isFileAddress url
        connection := connection }

/-- The engine of an address. -/
def make (url : String) : Except EngineFault Engine :=
  match Address.parse? url with
  | none => .error .notAddress
  | some a =>
    match portNumber a with
    | .error fault => .error (.badPort fault)
    | .ok port =>
      if (Fields.get? a.options "plugin").isSome then .error .unknownPlugin
      else
        match driverSupport a.driver with
        | .error fault => .error (.driver fault)
        | .ok (.missing library) => .error (.driverMissing library)
        | .ok support => ofDriver url a port support

end Engine

end Runboard
