import Runboard.Json.Basic
import Runboard.Text.Split

/-!
# `Runboard.Store.Driver`: dialects and their drivers

A URL names a dialect and perhaps, after a plus sign, a driver. `create_async_engine` looks the two up:
`getattr(sqlalchemy.dialects.<dialect>, driver).dialect`. Some drivers serve, some need a library that is
not installed, and any other attribute of the package of the dialect, such as `JSON` in `sqlite+json://`
or `__name__`, ends in an `AttributeError` that names its kind. So the attributes are listed: whether a
`DATABASE_URL` is refused as an unknown dialect or by another exception decides about the envelope of the
answer.

## Contents

* `DialectPart`, `DialectPart.complaint`: other parts of a dialect, and why none of them is a driver;
* `DriverSupport`: what is known of a driver;
* `Dialect`, `Dialect.all`: the dialects;
* `Dialect.support?`: what a name beside a dialect stands for;
* `DriverFault`, `driverSupport`: what the name of an address stands for.
-/

namespace Runboard

open Runboard.Text

/-- A part of a dialect that is no driver. -/
inductive DialectPart where
  | type (name : String)
  | module (dialect name : String)
  /-- A value of a kind. -/
  | value (kind : String)
  /-- A type of some named values, which is asked for them only. -/
  | choices
  deriving DecidableEq, Repr

/-- How it is reported that a part is no driver. -/
def DialectPart.complaint : DialectPart → String
  | .type name => "type object '" ++ name ++ "' has no attribute 'dialect'"
  | .module dialect name =>
    "module 'sqlalchemy.dialects." ++ dialect ++ "." ++ name ++ "' has no attribute 'dialect'"
  | .value kind => "'" ++ kind ++ "' object has no attribute 'dialect'"
  | .choices => "dialect"

/-- What is known of a driver. -/
inductive DriverSupport where
  /-- It serves asynchronously. -/
  | asynchronous
  /-- It serves, but not asynchronously. -/
  | synchronous
  /-- It needs a library that is not at hand. -/
  | missing (library : String)
  /-- It is no driver at all. -/
  | unfit (part : DialectPart)
  deriving DecidableEq, Repr

/-- A dialect with its drivers and its other parts. -/
structure Dialect where
  name : String
  /-- The driver that serves when none is named. -/
  preferred : String
  drivers : List (String × DriverSupport)
  parts : List (String × DialectPart)

namespace Dialect

/-- What a name beside a dialect stands for. -/
def support? (d : Dialect) (name : String) : Option DriverSupport :=
  match Fields.get? d.drivers (if name = "base" then d.preferred else name) with
  | some support => some support
  | none => (Fields.get? d.parts name).map .unfit

/-! ## Parts by name -/

/-- Types under their own names. -/
def types (names : List String) : List (String × DialectPart) := names.map fun n => (n, .type n)

/-- Modules of a dialect under their own names. -/
def modules (dialect : String) (names : List String) : List (String × DialectPart) :=
  names.map fun n => (n, .module dialect n)

/-- Values of one kind. -/
def values (kind : String) (names : List String) : List (String × DialectPart) :=
  names.map fun n => (n, .value kind)

/-- The parts that every dialect has. -/
def sharedParts : List (String × DialectPart) :=
  values "str" ["__name__", "__package__", "__file__", "__cached__"] ++
    values "NoneType" ["__doc__"] ++ values "list" ["__path__"] ++ values "tuple" ["__all__"] ++
    values "dict" ["__dict__", "__builtins__", "__annotations__"] ++
    values "SourceFileLoader" ["__loader__"] ++ values "ModuleSpec" ["__spec__"] ++
    values "method-wrapper"
      [ "__init__", "__repr__", "__str__", "__hash__", "__eq__", "__ne__", "__lt__", "__le__",
        "__gt__", "__ge__", "__getattribute__", "__setattr__", "__delattr__" ] ++
    values "builtin_function_or_method"
      [ "__new__", "__dir__", "__format__", "__sizeof__", "__reduce__", "__reduce_ex__",
        "__getstate__", "__init_subclass__", "__subclasshook__" ] ++
    [("__class__", .type "module")]

/-- The dialect of file databases. -/
def sqlite : Dialect where
  name := "sqlite"
  preferred := "pysqlite"
  drivers :=
    [ ("aiosqlite", .asynchronous), ("pysqlite", .synchronous),
      ("pysqlcipher", .missing "pysqlcipher3") ]
  parts :=
    sharedParts ++ [("dialect", .type "SQLiteDialect_pysqlite")] ++
      modules "sqlite" ["dml", "json"] ++ values "function" ["insert"] ++
      types
        [ "BLOB", "BOOLEAN", "CHAR", "DATE", "DATETIME", "DECIMAL", "FLOAT", "INTEGER", "Insert",
          "JSON", "JSONB", "NUMERIC", "REAL", "SMALLINT", "TEXT", "TIME", "TIMESTAMP", "VARCHAR" ]

/-- The dialect of a server that is reached asynchronously. -/
def postgresql : Dialect where
  name := "postgresql"
  preferred := "psycopg"
  drivers :=
    [ ("asyncpg", .asynchronous), ("psycopg", .missing "psycopg"),
      ("psycopg_async", .missing "psycopg"), ("psycopg2", .missing "psycopg2"),
      ("psycopg2cffi", .missing "psycopg2cffi"), ("pg8000", .missing "pg8000") ]
  parts :=
    sharedParts ++
      [ ("dialect", .type "PGDialect_psycopg"), ("ModuleType", .type "module"),
        ("arraylib", .module "postgresql" "array") ] ++
      modules "postgresql"
        [ "_psycopg_common", "bitstring", "dml", "ext", "json", "named_types", "operators",
          "pg_catalog", "ranges", "types" ] ++
      values "function" ["All", "Any", "array_agg", "distinct_on", "insert"] ++
      types
        [ "ARRAY", "AbstractMultiRange", "AbstractSingleRange", "BIGINT", "BIT", "BOOLEAN", "BYTEA",
          "BitString", "CHAR", "CIDR", "CITEXT", "CreateDomainType", "CreateEnumType", "DATE",
          "DATEMULTIRANGE", "DATERANGE", "DOMAIN", "DOUBLE_PRECISION", "DropDomainType",
          "DropEnumType", "ENUM", "ExcludeConstraint", "FLOAT", "HSTORE", "INET", "INT4MULTIRANGE",
          "INT4RANGE", "INT8MULTIRANGE", "INT8RANGE", "INTEGER", "INTERVAL", "Insert", "JSON",
          "JSONB", "JSONPATH", "MACADDR", "MACADDR8", "MONEY", "MultiRange", "NUMERIC",
          "NUMMULTIRANGE", "NUMRANGE", "NamedType", "OID", "REAL", "REGCLASS", "REGCONFIG", "Range",
          "SMALLINT", "TEXT", "TIME", "TIMESTAMP", "TSMULTIRANGE", "TSQUERY", "TSRANGE",
          "TSTZMULTIRANGE", "TSTZRANGE", "TSVECTOR", "UUID", "VARCHAR", "aggregate_order_by",
          "array", "hstore", "phraseto_tsquery", "plainto_tsquery", "to_tsquery", "to_tsvector",
          "ts_headline", "websearch_to_tsquery" ]

/-- The drivers of two dialects that are close relatives. -/
def relatedDrivers : List (String × DriverSupport) :=
  [ ("mysqldb", .missing "MySQLdb"), ("pymysql", .missing "pymysql"),
    ("aiomysql", .missing "aiomysql"), ("asyncmy", .missing "asyncmy"),
    ("cymysql", .missing "cymysql"), ("mysqlconnector", .missing "mysql"),
    ("mariadbconnector", .missing "mariadb"), ("pyodbc", .missing "pyodbc") ]

/-- The modules of two dialects that are close relatives. -/
def relatedModules : List (String × DialectPart) :=
  modules "mysql"
    [ "_mariadb_shim", "dml", "enumerated", "expression", "json", "mariadb", "reflection",
      "reserved_words", "types" ]

/-- A dialect without a driver at hand. -/
def mysql : Dialect where
  name := "mysql"
  preferred := "mysqldb"
  drivers := relatedDrivers
  parts :=
    sharedParts ++ [("dialect", .type "MySQLDialect_mysqldb")] ++ relatedModules ++
      values "function" ["insert", "limit"] ++
      types
        [ "BIGINT", "BINARY", "BIT", "BLOB", "BOOLEAN", "CHAR", "DATE", "DATETIME", "DECIMAL",
          "DOUBLE", "ENUM", "FLOAT", "INET4", "INET6", "INTEGER", "Insert", "JSON", "LONGBLOB",
          "LONGTEXT", "MEDIUMBLOB", "MEDIUMINT", "MEDIUMTEXT", "NCHAR", "NUMERIC", "NVARCHAR",
          "REAL", "SET", "SMALLINT", "TEXT", "TIME", "TIMESTAMP", "TINYBLOB", "TINYINT", "TINYTEXT",
          "VARBINARY", "VARCHAR", "YEAR", "match" ]

/-- A dialect without a driver at hand; only its drivers and modules have names beside it. -/
def mariadb : Dialect where
  name := "mariadb"
  preferred := "mysqldb"
  drivers := relatedDrivers ++ [("__init__", .missing "MySQLdb")]
  parts := relatedModules ++ modules "mysql" ["provision"]

/-- A dialect without a driver at hand. -/
def oracle : Dialect where
  name := "oracle"
  preferred := "oracledb"
  drivers :=
    [ ("oracledb", .missing "oracledb"), ("oracledb_async", .missing "oracledb"),
      ("cx_oracle", .missing "cx_Oracle") ]
  parts :=
    sharedParts ++
      [ ("dialect", .type "OracleDialect_oracledb"), ("ModuleType", .type "module"),
        ("NVARCHAR2", .type "NVARCHAR"), ("VectorDistanceType", .choices),
        ("VectorIndexType", .choices), ("VectorStorageFormat", .choices) ] ++
      modules "oracle" ["dictionary", "types", "vector"] ++
      types
        [ "BFILE", "BINARY_DOUBLE", "BINARY_FLOAT", "BLOB", "BOOLEAN", "CHAR", "CLOB", "DATE",
          "DOUBLE_PRECISION", "FLOAT", "INTERVAL", "JSON", "LONG", "NCHAR", "NCLOB", "NUMBER",
          "NVARCHAR", "RAW", "REAL", "ROWID", "SparseVector", "TIMESTAMP", "VARCHAR", "VARCHAR2",
          "VECTOR", "VectorIndexConfig" ]

/-- A dialect without a driver at hand. -/
def mssql : Dialect where
  name := "mssql"
  preferred := "pyodbc"
  drivers :=
    [ ("pyodbc", .missing "pyodbc"), ("aioodbc", .missing "aioodbc"),
      ("pymssql", .missing "pymssql"), ("mssqlpython", .missing "mssql_python") ]
  parts :=
    sharedParts ++ [("dialect", .type "MSDialect_pyodbc")] ++
      modules "mssql" ["information_schema", "json"] ++ values "function" ["try_cast"] ++
      types
        [ "BIGINT", "BINARY", "BIT", "CHAR", "DATE", "DATETIME", "DATETIME2", "DATETIMEOFFSET",
          "DECIMAL", "DOUBLE_PRECISION", "FLOAT", "IMAGE", "INTEGER", "JSON", "MONEY", "NCHAR",
          "NTEXT", "NUMERIC", "NVARCHAR", "REAL", "ROWVERSION", "SMALLDATETIME", "SMALLINT",
          "SMALLMONEY", "SQL_VARIANT", "TEXT", "TIME", "TIMESTAMP", "TINYINT", "UNIQUEIDENTIFIER",
          "VARBINARY", "VARCHAR", "XML" ]

/-- The dialects. -/
def all : List Dialect := [sqlite, postgresql, mysql, mariadb, oracle, mssql]

end Dialect

/-- Why the name of an address stands for no driver. -/
inductive DriverFault where
  /-- It names more than one driver. -/
  | several
  /-- There is no such dialect, or it has no such part. -/
  | unknown
  /-- The part of the dialect is no driver. -/
  | unfit (part : DialectPart)
  deriving DecidableEq, Repr

/-- How a fault is reported; an unknown dialect has a report that is not told. -/
def DriverFault.message : DriverFault → String
  | .several => "too many values to unpack (expected 2)"
  | .unknown => ""
  | .unfit part => part.complaint

/-- The dialect and driver that an address names, with what is known of the driver. -/
def driverSupport (name : String) : Except DriverFault DriverSupport :=
  let lookUp (dialect driver : List Char) : Except DriverFault DriverSupport :=
    let found := (Dialect.all.find? (·.name == String.ofList dialect)).bind
      (·.support? (String.ofList driver))
    match found with
    | some (.unfit part) => .error (.unfit part)
    | some support => .ok support
    | none => .error .unknown
  match splitAll '+' name.toList with
  | [dialect] => lookUp dialect "base".toList
  | [dialect, driver] => lookUp dialect driver
  | _ => .error .several

end Runboard
