/-
# Requests and their bodies

A body is a JSON document that holds the members of a mapping. A body that is empty or null is
missing, and a body of another media type is no mapping. Members that a request has no use for are
passed over.

A body that is refused is reported together with the parts of it that are not as they should be.
-/

import Tablesmith.Json.Reader
import Tablesmith.Server.Route
import Tablesmith.Server.Target
import Tablesmith.Text.Blank
import Tablesmith.Text.Case
import Tablesmith.Text.Wide
import Tablesmith.Validation.Scalar
import Tablesmith.Value.Part
import Tablesmith.Workspace.Operation

namespace Tablesmith

/-- What a client sends. -/
structure Request where
  method : Text
  target : Text
  headers : List (Text × Text) := []
  body : Text := []
deriving Repr, DecidableEq

namespace Request

/-- The value of a header, whose name is given in lower case. -/
def header? (r : Request) (name : Text) : Option Text :=
  (r.headers.find? fun h => Text.lower h.1 = name).map Prod.snd

/-- Can the request be sent? Its target has to be well formed, and its headers have to be ASCII. -/
def check (r : Request) : Except Fault Unit :=
  let isAscii (t : Text) : Bool := t.all fun c => c.toNat < 0x80
  if !Target.isWellFormed r.target then .error .badTarget
  else if !r.headers.all fun h => isAscii h.1 && isAscii h.2 then .error .unwritable
  else .ok ()

end Request

/-- What the body of a request holds. -/
inductive Body where
  | nothing
  | document (v : Value)
  /-- The body is no JSON. -/
  | malformed (offset : Nat)
  /-- The body is not read to its end. -/
  | unreadable

namespace Body

/-- Why a body is refused. -/
inductive Refusal where
  | unreadable
  /-- The body is not as it should be; these parts of it belong to the issues. -/
  | unfit (issues : List Issue) (parts : List Value)

/-- Is this the media type of JSON, or of a format built on JSON? Parameters do not count. -/
def isJson (mediaType : Text) : Bool :=
  match Text.cutAt '/' (Text.lower (Text.trim (mediaType.takeWhile (· != ';')))) with
  | [main, kind] =>
    main == "application".toList && (kind == "json".toList || Text.endsWith "+json" kind)
  | _ => false

/-- The body with the text of a JSON document in it. -/
def ofJson (t : Text) : Body :=
  match Json.parse t with
  | .ok .null => nothing
  | .ok v => document v
  | .error (.malformed offset) => malformed offset
  | .error _ => unreadable

/-- The body of a request. -/
def ofRequest (r : Request) : Body :=
  if r.body.isEmpty then nothing
  else if isJson ((r.header? "content-type").getD []) then
    ((Text.decodeJson? (Text.encode r.body)).map ofJson).getD unreadable
  else document (.text r.body)

/-- The part of a document that an issue is reported with: where a member is missing, the mapping
that it is missing from. -/
def partOf? (v : Value) (i : Issue) : Option Value :=
  v.part? (if i.kind = .missing then i.path.dropLast else i.path)

/-- Checks the members of the body. -/
def check {α : Type} (b : Body) (members : List (Value × Value) → Checked α) : Except Refusal α :=
  match b with
  | nothing => .error (.unfit [⟨[], .missing⟩] [])
  | malformed offset => .error (.unfit [⟨[.item offset], .noJson⟩] [])
  | unreadable => .error .unreadable
  | document v => (Check.mapping .noModelOrFields members v).toExcept.mapError fun issues =>
      .unfit issues (issues.filterMap (partOf? v))

/-- Is this the name of a session in its one form: five groups of hexadecimal digits, letters in
lower case? -/
def isSessionName (t : Text) : Bool :=
  let isDigit (c : Char) : Bool := c.isDigit || ('a' ≤ c && c ≤ 'f')
  let groups := Text.cutAt '-' t
  groups.map List.length == [8, 4, 4, 4, 12] && groups.all (List.all · isDigit)

/-- The name of a session in its one form. -/
def sessionName : Check Text := fun v =>
  (Check.text v).andThen fun t => if isSessionName t then .fit t else .fail .patternMismatch

/-- A text that is not empty. It is counted in UTF-8, so it has to be whole. -/
def nonempty : Check Text := fun v =>
  (Check.text v).andThen fun t =>
    if !Text.isWhole t then .fail .brokenText else if t.isEmpty then .fail .textTooShort else .fit t

/-- The operation that a body asks for where a script is parsed. The mode `default` is used where
the body names none. -/
def parse (default : Option Text) (members : List (Value × Value)) : Checked Operation :=
  let operation (script : Text) (session : Option Text) (mode : Option Sql.SplitMode) : Operation :=
    .parse session ((mode.map Sql.SplitMode.name) <|> default) script
  (((Check.field members "sql" none Check.text).map operation).app
    (Check.field members "session_id" (some none) (Check.optional sessionName))).app
    (Check.field members "split_mode" (some none)
      (Check.optional (Check.oneOf Sql.SplitMode.ofName?)))

/-- The operation that a body asks for where a mark is flipped. -/
def toggle (session : Text) (members : List (Value × Value)) : Checked Operation :=
  (Check.field members "table_name" none nonempty).map (Operation.toggle session)

/-- The operation that a body asks for where a module is generated. -/
def generate (session : Text) (members : List (Value × Value)) : Checked Operation :=
  ((Check.field members "database_name" (some none) (Check.optional Check.text)).map
    (Operation.generate session)).app
    (Check.field members "tables" (some none) (Check.optional (Check.list .noList Check.text)))

/-- The operation that a request asks for; none if it asks for the health of the server or for one
of its pages. Only three endpoints look at the body. -/
def operation (default : Option Text) (r : Request) : Endpoint → Except Refusal (Option Operation)
  | .health | .page => .ok none
  | .look session => .ok (some (.snapshot session))
  | .toggleAll session => .ok (some (.toggleAll session))
  | .delete session => .ok (some (.delete session))
  | .parse => ((ofRequest r).check (parse default)).map some
  | .toggle session => ((ofRequest r).check (toggle session)).map some
  | .generate session => ((ofRequest r).check (generate session)).map some

end Body
end Tablesmith
