import Runboard.Json.Basic

/-!
# `Runboard.Log.Context`: what records say about their request

A context has an organization, a user and a request. Setting a context changes only the parts that
are given; a part that counts as absent is kept but does not show.

## Contents

* `LogContext`, `LogContext.empty`, `LogContext.set`;
* `LogContext.fields`: what shows, in its order.
-/

namespace Runboard

/-- What records say about their request. -/
structure LogContext where
  org : Option Json := none
  user : Option Json := none
  request : Option Json := none

namespace LogContext

/-- The context outside every request. -/
def empty : LogContext := {}

/-- Changes the parts that are given. -/
def set (c : LogContext) (change : LogContext) : LogContext :=
  { org := change.org.or c.org
    user := change.user.or c.user
    request := change.request.or c.request }

/-- A part under its name, if it shows. -/
def shown (name : String) : Option Json → List (String × Json)
  | some v => if v.truthy then [(name, v)] else []
  | none => []

/-- What shows of a context. -/
def fields (c : LogContext) : List (String × Json) :=
  shown "org_id" c.org ++ shown "user_id" c.user ++ shown "request_id" c.request

@[simp] theorem fields_empty : empty.fields = [] := rfl

end LogContext

end Runboard
