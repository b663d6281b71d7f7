import Runboard.Text.Percent
import Runboard.Text.Split

/-!
# `Runboard.Http.Request`: requests

A request has a method, a target and headers. The target is a path and, after the first question
mark, a query. The path is matched with its percent signs decoded. Names of headers are compared
without regard to case, and of several headers with one name the first counts.

## Contents

* `Request`, `Request.header?`;
* `Request.path`, `Request.query`: the parts of the target;
* `escapePath`: a path in which no mark of an address stands;
* `Request.shownPath`: the path as the journal shows it.
-/

namespace Runboard

open Runboard.Text

/-- A request. -/
structure Request where
  method : String
  target : String
  headers : List (String × String)
  deriving DecidableEq, Repr

/-- The headers of a request or of an answer. -/
abbrev Headers := List (String × String)

/-- Whether two names of headers are the same. -/
def sameHeader (a b : String) : Bool := a.toLower == b.toLower

/-- The mark of an address that a character of a path would be, with a percent sign in its place. -/
def pathMark? (c : Char) : Option (List Char) :=
  match c with
  | '?' => some "%3F".toList
  | '#' => some "%23".toList
  | '\\' => some "%5C".toList
  | _ => none

/-- A path whose question marks, number signs and backslashes are written with percent signs, so that
it is one when it is read again as part of an address. -/
def escapePath (path : List Char) : List Char := path.flatMap fun c => (pathMark? c).getD [c]

namespace Request

/-- The value of the first header of a name. -/
def header? (r : Request) (name : String) : Option String :=
  (r.headers.find? fun h => sameHeader h.1 name).map (·.2)

/-- The target before and after its first question mark. -/
def targetParts (r : Request) : List Char × List Char :=
  (splitFirst '?' r.target.toList).getD (r.target.toList, [])

/-- The path, with percent signs decoded. -/
def path (r : Request) : List Char := percentDecode r.targetParts.1

/-- The query as it is written. -/
def query (r : Request) : List Char := r.targetParts.2

/-- The path as the journal shows it: escaped, without the characters that break lines or
columns. -/
def shownPath (r : Request) : String :=
  String.ofList ((escapePath r.path).filter fun c => c != '\t' && c != '\r' && c != '\n')

end Request

end Runboard
