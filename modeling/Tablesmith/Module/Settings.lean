/-
# Settings of the generated module

What the generated module is told about the database: the name to fall back on, the connection,
and the size of the connection pool.
-/

import Tablesmith.Text.Blank
import Tablesmith.Validation.Scalar

namespace Tablesmith

/-- How the generated module connects. -/
structure Connection where
  host : Text := "localhost"
  port : Int := 5432
  user : Text := "postgres"
  password : Text := "postgres"
deriving Repr, DecidableEq, Inhabited

/-- How many connections the generated module keeps. -/
structure Pool where
  minimum : Nat := 1
  maximum : Nat := 5
deriving Repr, DecidableEq, Inhabited

/-- What the generated module is told about the database. -/
structure Settings where
  fallbackName : Text := "mi_base_de_datos"
  connection : Connection := {}
  pool : Pool := {}
deriving Repr, DecidableEq, Inhabited

namespace Connection

/-- A connection from the members of its document. -/
def ofMembers (members : List (Value × Value)) : Checked Connection :=
  let default : Connection := {}
  Check.fields ["host", "port", "user", "password"] members
    (((((Check.field members "host" (some default.host) Check.text).map Connection.mk).app
      (Check.field members "port" (some default.port) Check.integer)).app
      (Check.field members "user" (some default.user) Check.text)).app
      (Check.field members "password" (some default.password) Check.text))

/-- The document of a connection. -/
def document (c : Connection) : Value :=
  .ofFields [("host", .text c.host), ("port", .int c.port), ("user", .text c.user),
    ("password", .text c.password)]

end Connection

namespace Pool

/-- A pool from the members of its document; both sizes are at least one. -/
def ofMembers (members : List (Value × Value)) : Checked Pool :=
  let default : Pool := {}
  Check.fields ["min_connections", "max_connections"] members
    (((Check.field members "min_connections" (some default.minimum) (Check.natural 1)).map
      Pool.mk).app
      (Check.field members "max_connections" (some default.maximum) (Check.natural 1)))

/-- The document of a pool. -/
def document (p : Pool) : Value :=
  .ofFields [("min_connections", .int p.minimum), ("max_connections", .int p.maximum)]

/-- The largest size of the pool, which is no less than the smallest. -/
def ceiling (p : Pool) : Nat := max p.maximum p.minimum

end Pool

namespace Settings

/-- Settings from the members of their document. -/
def ofMembers (members : List (Value × Value)) : Checked Settings :=
  let default : Settings := {}
  Check.fields ["fallback_database_name", "connection", "pool"] members
    ((((Check.field members "fallback_database_name" (some default.fallbackName)
        Check.text).map Settings.mk).app
      (Check.field members "connection" (some default.connection)
        (Check.mapping .noModel Connection.ofMembers))).app
      (Check.field members "pool" (some default.pool) (Check.mapping .noModel Pool.ofMembers)))

/-- The document of the settings. -/
def document (s : Settings) : Value :=
  .ofFields [("fallback_database_name", .text s.fallbackName),
    ("connection", s.connection.document), ("pool", s.pool.document)]

/-- The database name to use: the wanted one, trimmed, unless nothing of it is left. -/
def databaseName (s : Settings) (wanted : Option Text) : Text :=
  let name := Text.trim (wanted.getD [])
  if name.isEmpty then s.fallbackName else name

end Settings
end Tablesmith
