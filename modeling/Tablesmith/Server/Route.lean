/-
# Routes

Which requests the server takes:

| method | path | asks for |
| --- | --- | --- |
| `POST` | `/api/schema/parse` | parsing a script into a session |
| `GET` | `/api/schema/S` | the session `S` |
| `POST` | `/api/schema/S/toggle` | flipping the mark of a table |
| `POST` | `/api/schema/S/toggle_all` | flipping all marks |
| `DELETE` | `/api/schema/S` | dropping the session |
| `POST` | `/api/schema/S/generate` | generating a module |
| `GET` | `/health` | whether the server is there |
| `GET`, `HEAD` | a page | a page about the server |

The pages are `/openapi.json`, `/docs`, `/docs/oauth2-redirect` and `/redoc`. A path may end in a
line feed. A path with slashes at its end that leads nowhere is sent on to the one without them, if
that leads somewhere.
-/

import Tablesmith.Server.Target

namespace Tablesmith

/-- What a request asks for. -/
inductive Endpoint where
  | health
  | page
  | parse
  | look (session : Text)
  | toggle (session : Text)
  | toggleAll (session : Text)
  | generate (session : Text)
  | delete (session : Text)
deriving Repr, DecidableEq

/-- Where a request leads. -/
inductive Route where
  | endpoint (e : Endpoint)
  /-- The path leads somewhere, but not by this method. -/
  | wrongMethod
  | nowhere
deriving Repr, DecidableEq

namespace Route

/-- Is this the last name of a path, perhaps with a line feed behind it? -/
def isLast (name : String) (part : Text) : Bool :=
  part == name.toList || part == name.toList ++ ['\n']

/-- What is at a path below the interface, by method. -/
def below : List Text → List (Text × Endpoint)
  | [last] =>
    if last.isEmpty then []
    else
      let parse : List (Text × Endpoint) := if isLast "parse" last then [("POST", .parse)] else []
      let look : List (Text × Endpoint) := [("GET", .look last), ("DELETE", .delete last)]
      parse ++ look
  | [session, last] =>
    if session.isEmpty then []
    else if isLast "toggle" last then [("POST", .toggle session)]
    else if isLast "toggle_all" last then [("POST", .toggleAll session)]
    else if isLast "generate" last then [("POST", .generate session)]
    else []
  | _ => []

/-- How the pages about the server are reached. -/
def pageMethods : List (Text × Endpoint) := [("GET", .page), ("HEAD", .page)]

/-- What is at a path, by method. -/
def endpoints (path : Text) : List (Text × Endpoint) :=
  match Text.cutAt '/' path with
  | [[], last] =>
    if isLast "health" last then [("GET", .health)]
    else if isLast "openapi.json" last || isLast "docs" last || isLast "redoc" last then pageMethods
    else []
  | [[], first, second] =>
    if first = "docs".toList ∧ isLast "oauth2-redirect" second then pageMethods else []
  | [] :: first :: second :: rest =>
    if first = "api".toList ∧ second = "schema".toList then below rest else []
  | _ => []

/-- What is at a path or, if nothing is, at the path that it is sent on to, at most `left` times. -/
def endpointsNear : (left : Nat) → (path : Text) → List (Text × Endpoint)
  | 0, path => endpoints path
  | left + 1, path =>
    match endpoints path with
    | [] =>
      let short := Text.trimEndBy (· == '/') path
      if (endpoints short).isEmpty then []
      else endpointsNear left (Target.path (Target.ofPath short))
    | found => found

/-- How often a request is sent on. -/
def maxSentOn : Nat := 20

/-- Where a request leads. -/
def find (method path : Text) : Route :=
  match endpointsNear maxSentOn path with
  | [] => nowhere
  | found => match found.lookup method with
    | some e => endpoint e
    | none => wrongMethod

example : find "POST" "/api/schema/parse/" = endpoint .parse ∧
    find "GET" "/api/schema/parse" = endpoint (.look "parse") ∧
    find "GET" "/api/schema/%78?/" = endpoint (.look "x?") ∧
    find "PUT" "/health\n" = wrongMethod ∧ find "GET" "/api/schema//toggle" = nowhere := by
  decide +kernel

end Route
end Tablesmith
