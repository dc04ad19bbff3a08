/-
# The interface of the server

A request is answered with a status and a document:

| status | when |
| --- | --- |
| 200 | the request was carried out |
| 400 | it names tables that the session does not have, or its body is not read to its end |
| 404 | there is no such path, or no such session |
| 405 | the path is not for this method |
| 422 | the body is not as it should be |
| 500 | any other fault |

The body is checked before the session is looked up. What a request changed before a fault stays
changed. A request that names the page it comes from is told whether that page may read the answer,
unless the server fails. The answer to the method `HEAD` is blank.
-/

import Tablesmith.Module.Document
import Tablesmith.Schema.Document
import Tablesmith.Server.Body
import Tablesmith.Server.Response
import Tablesmith.Server.Settings

namespace Tablesmith

/-- How the server is set up. -/
structure Server where
  surroundings : Surroundings
  defaultMode : Option Text := none
  origins : List Text := ({} : ServerSettings).origins

namespace Server

/-- The document of a session and its schema. -/
def sessionDocument (session : Text) (s : Schema) : Value :=
  .map ((.text "session_id", .text session) :: s.summaryMembers)

/-- The response to a reply on a session. -/
def respond (session : Text) : Reply → Response
  | .schema (some s) => .done (sessionDocument session s)
  | .generation (some g) => .done g.brief
  | .deleted true =>
    .done (.ofFields [("status", .text "deleted"), ("session_id", .text session)])
  | _ => .noSession

/-- Carries out an operation. After a parse the new schema is the reply. -/
def carryOut (v : Server) (s : Store) (o : Operation) : Store × Response :=
  match o.run v.surroundings s with
  | (s, .ok (.session name)) => (s, respond name (.schema (s.schema? name)))
  | (s, .ok reply) => (s, respond (o.session?.getD []) reply)
  | (s, .error (.unknownTables names known)) => (s, .unknownTables names known)
  | (s, .error _) => (s, .failure)

/-- What is said where there is nothing to carry out. -/
def sayOnly : Endpoint → Response
  | .health => .done (.ofFields [("status", .text "healthy")])
  | _ => .blank 200

/-- The store after a request to an endpoint, and the response. -/
def serve (v : Server) (s : Store) (r : Request) (e : Endpoint) : Store × Response :=
  match Body.operation v.defaultMode r e with
  | .error .unreadable => (s, .unreadableBody)
  | .error (.unfit issues parts) => (s, .unfitBody issues parts)
  | .ok none => (s, sayOnly e)
  | .ok (some o) => v.carryOut s o

/-- What a page is told about whether it may read the answer. -/
def originHeaders (v : Server) (r : Request) : List (Text × Text) :=
  match r.header? "origin" with
  | none => []
  | some origin =>
    ("access-control-allow-credentials", "true") ::
      if origin ∈ v.origins then [("access-control-allow-origin", origin)] else []

/-- The store after a request that leads somewhere or not, and the response. -/
def follow (v : Server) (s : Store) (r : Request) : Route → Store × Response
  | .nowhere => (s, .detail 404 "Not Found")
  | .wrongMethod => (s, .detail 405 "Method Not Allowed")
  | .endpoint e => v.serve s r e

/-- The response as it is sent to whoever made the request. -/
def address (v : Server) (r : Request) (response : Response) : Response :=
  { response with
    message := if Text.upper r.method = "HEAD".toList then .plain [] else response.message
    headers := if response.status = 500 then [] else v.originHeaders r }

/-- The store after a request, and the response. -/
def step (v : Server) (s : Store) (r : Request) : Store × Response :=
  let (s, response) := v.follow s r (Route.find (Text.upper r.method) (Target.path r.target))
  (s, v.address r response)

/-- The responses to requests, one after another. -/
def responses (v : Server) (s : Store) : List Request → List Response
  | [] => []
  | r :: rs => (v.step s r).2 :: responses v (v.step s r).1 rs

/-- The responses to requests, one after another, if they all can be sent. -/
def run (v : Server) (s : Store) (requests : List Request) : Except Fault (List Response) :=
  (requests.forM Request.check).map fun _ => v.responses s requests

end Server
end Tablesmith
