import Runboard.Http.Request
import Runboard.Json.Basic
import Runboard.Text.Half

/-!
# `Runboard.Http.Response`: responses

A response has a status, headers and a body. The kind of the body fixes the content type, and a
redirection has neither.

## Contents

* `Body`, `Response`, `Response.header?`, `Response.withHeaders`;
* `Response.json`, `Response.plain`, `Response.page`, `Response.redirect`: the kinds of response;
* `Response.detail`, `Response.notFound`, `Response.methodNotAllowed`;
* `Json.holdsHalf`, `Response.canBeSent`: responses that have no bytes.
-/

namespace Runboard

/-- The body of a response. -/
inductive Body where
  | json (value : Json)
  | text (text : String)
  /-- A page that is not told in full. -/
  | page

/-- A response. -/
structure Response where
  status : Nat
  headers : Headers
  body : Body

namespace Response

/-- The value of the first header of a name. -/
def header? (r : Response) (name : String) : Option String :=
  (r.headers.find? fun h => sameHeader h.1 name).map (·.2)

/-- A response with further headers. -/
def withHeaders (r : Response) (headers : Headers) : Response :=
  { r with headers := r.headers ++ headers }

/-- A response that carries a value. -/
def json (status : Nat) (value : Json) : Response :=
  ⟨status, [("content-type", "application/json")], .json value⟩

/-- A response that carries a text. -/
def plain (status : Nat) (text : String) : Response :=
  ⟨status, [("content-type", "text/plain; charset=utf-8")], .text text⟩

/-- A response that shows a page. -/
def page : Response := ⟨200, [("content-type", "text/html; charset=utf-8")], .page⟩

/-- A response that sends the caller elsewhere, with the same method. -/
def redirect (location : String) : Response := ⟨307, [("location", location)], .text ""⟩

/-- A response that tells only what its status is. -/
def detail (status : Nat) (text : String) : Response :=
  json status (.obj [("detail", .str text)])

/-- The response to a path that leads nowhere. -/
def notFound : Response := detail 404 "Not Found"

/-- The response to a method that a path does not take. -/
def methodNotAllowed (allowed : List String) : Response :=
  (detail 405 "Method Not Allowed").withHeaders [("allow", ", ".intercalate allowed)]

/-- The response to a request that could not be handled. -/
def internalError : Response := plain 500 "Internal Server Error"

end Response

/-! ## Responses without bytes -/

namespace Json

mutual

/-- Whether a value holds half a character, in a text or a name. -/
def holdsHalf : Json → Bool
  | .str s => Text.holdsHalf s
  | .arr items => anyHoldsHalf items
  | .obj fields => anyFieldHoldsHalf fields
  | _ => false

/-- Whether some of the items hold half a character. -/
def anyHoldsHalf : List Json → Bool
  | [] => false
  | v :: rest => holdsHalf v || anyHoldsHalf rest

/-- Whether some of the fields hold half a character. -/
def anyFieldHoldsHalf : List (String × Json) → Bool
  | [] => false
  | (name, v) :: rest => Text.holdsHalf name || holdsHalf v || anyFieldHoldsHalf rest

end

end Json

namespace Response

/-- Whether a response can be sent: half a character has no bytes. -/
def canBeSent (r : Response) : Bool :=
  match r.body with
  | .json v => !v.holdsHalf
  | _ => true

/-! ## Small facts -/

@[simp] theorem status_withHeaders (r : Response) (headers : Headers) :
    (r.withHeaders headers).status = r.status := rfl

@[simp] theorem body_withHeaders (r : Response) (headers : Headers) :
    (r.withHeaders headers).body = r.body := rfl

@[simp] theorem headers_withHeaders (r : Response) (headers : Headers) :
    (r.withHeaders headers).headers = r.headers ++ headers := rfl

end Response

end Runboard
