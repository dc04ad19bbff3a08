/-
# Responses

What the server answers is a status and a document, or a plain text. A document that cannot be sent,
because it has no JSON form in UTF-8, is answered as a failure of the server itself, in plain text.
-/

import Tablesmith.Incident
import Tablesmith.Value.Part

namespace Tablesmith

/-- What a response says. -/
inductive Message where
  | document (v : Value)
  | plain (t : Text)

/-- What the server answers. -/
structure Response where
  status : Nat
  message : Message
  headers : List (Text × Text) := []

namespace Response

/-- The response to a request that the server fails to carry out. -/
def failure : Response := ⟨500, .plain "Internal Server Error", []⟩

/-- The response with a document, if it can be sent. -/
def ofDocument (status : Nat) (v : Value) : Response :=
  if v.isSendable then ⟨status, .document v, []⟩ else failure

/-- A response that says one thing in words. -/
def detail (status : Nat) (text : Text) : Response :=
  ofDocument status (.ofFields [("detail", .text text)])

/-- The response to a request that was carried out. -/
def done (body : Value) : Response := ofDocument 200 body

/-- The response with an empty text. -/
def blank (status : Nat) : Response := ⟨status, .plain [], []⟩

/-- The response where there is no such session. -/
def noSession : Response := detail 404 "Session not found"

/-- The response to tables that the session does not have. -/
def unknownTables (names known : List Text) : Response :=
  let i : Incident := .unknownTables names known
  ofDocument 400 (i.document i.place)

/-- The response to a body that is not read to its end. -/
def unreadableBody : Response := detail 400 "There was an error parsing the body"

/-- How a step into a body is reported. -/
def stepDocument : Step → Value
  | .field name => .text name
  | .item index => .int index

/-- The response to a body that is not as it should be. The parts of it that are at issue belong to
the report, so they have to be sent as well. -/
def unfitBody (issues : List Issue) (parts : List Value) : Response :=
  if parts.all Value.isSendable then
    ofDocument 422 (.list (issues.map fun i => .ofFields [
      ("loc", .list (.text "body" :: i.path.map stepDocument)), ("type", .text i.kind.code)]))
  else failure

end Response
end Tablesmith
