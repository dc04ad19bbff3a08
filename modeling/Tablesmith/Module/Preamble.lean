/-
# The preamble of the generated module

What the module begins with: its documentation, its imports, the connection settings and the four
functions through which all others reach the database.
-/

import Tablesmith.Module.Section
import Tablesmith.Module.Settings

namespace Tablesmith
namespace Preamble

/-- The documentation of the module. -/
def documentation (database : Text) (tables : List Text) : List Text :=
  ["\"\"\"",
    "Data-access module generated by GYSQL.",
    [],
    ("Database: " : Text) ++ Naming.label database,
    ("Tables: " : Text) ++ Function.commas tables,
    [],
    "Requires psycopg2 (pip install psycopg2-binary). Run this file directly to",
    "execute the non-destructive integration checks.",
    "\"\"\""]

/-- The imports of the module. -/
def imports : List Text :=
  ["from contextlib import contextmanager",
    "from datetime import datetime",
    [],
    "import psycopg2",
    "from psycopg2.extras import RealDictCursor",
    "from psycopg2.pool import SimpleConnectionPool"]

/-- The connection settings of the module. -/
def configuration (database : Text) (s : Settings) : List Text :=
  ["DB_CONFIG = \x7b",
    ("    \"host\": " : Text) ++ Text.literal s.connection.host ++ ",",
    ("    \"port\": " : Text) ++ Text.ofInt s.connection.port ++ ",",
    ("    \"dbname\": " : Text) ++ Text.literal database ++ ",",
    ("    \"user\": " : Text) ++ Text.literal s.connection.user ++ ",",
    ("    \"password\": " : Text) ++ Text.literal s.connection.password ++ ",",
    "\x7d",
    [],
    ("POOL_MIN_CONNECTIONS = " : Text) ++ Text.ofNat s.pool.minimum,
    ("POOL_MAX_CONNECTIONS = " : Text) ++ Text.ofNat s.pool.ceiling,
    [],
    "_pool = None"]

/-- The function that opens a connection. -/
def connectionFunction : Function where
  decorators := ["@contextmanager"]
  name := "get_connection"
  body :=
    [Function.doc "Open a row-cursor connection (rows as dicts); always closed on exit.",
      "conn = psycopg2.connect(cursor_factory=RealDictCursor, **DB_CONFIG)",
      "try:",
      "    yield conn",
      "finally:",
      "    conn.close()"]

/-- The function that opens the pool. -/
def poolFunction : Function where
  name := "get_pool"
  body :=
    [Function.doc "Shared connection pool, created on first call and reused afterwards.",
      "global _pool",
      "if _pool is None:",
      "    _pool = SimpleConnectionPool(",
      "        POOL_MIN_CONNECTIONS,",
      "        POOL_MAX_CONNECTIONS,",
      "        cursor_factory=RealDictCursor,",
      "        **DB_CONFIG,",
      "    )",
      "return _pool"]

/-- The function that closes the pool. -/
def closeFunction : Function where
  name := "close_pool"
  body :=
    [Function.doc "Close every pooled connection; safe to call more than once.",
      "global _pool",
      "if _pool is not None:",
      "    _pool.closeall()",
      "    _pool = None"]

/-- The function that runs a statement. -/
def queryFunction : Function where
  name := "run_query"
  params := ["sql", "params=None"]
  body :=
    [Function.doc "Run one statement on a pooled connection and return all rows.",
      "pool = get_pool()",
      "conn = pool.getconn()",
      "try:",
      "    with conn.cursor() as cur:",
      "        cur.execute(sql, params)",
      "        rows = cur.fetchall() if cur.description is not None else []",
      "    conn.commit()",
      "    return rows",
      "except psycopg2.Error:",
      "    conn.rollback()",
      "    raise",
      "finally:",
      "    pool.putconn(conn)"]

/-- The functions of the preamble. -/
def functions : List Function := [connectionFunction, poolFunction, closeFunction, queryFunction]

/-- The preamble of a module for a database and the labels of its tables. -/
def text (database : Text) (tables : List Text) (s : Settings) : Text :=
  Text.join "\n\n" [Text.unlines (documentation database tables), Text.unlines imports,
    Text.unlines (configuration database s), Function.apart (functions.map Function.text)]

end Preamble

namespace Footer

/-- The comment at the end of the module: its database, its tables and their functions. -/
def text (database : Text) (plans : List Plan) : Text :=
  Text.unlines
    ([Plan.rule, "# Summary", ("# Database: " : Text) ++ Naming.label database,
        ("# Tables: " : Text) ++ Text.ofNat plans.length]
      ++ plans.map (fun p =>
        ("#   " : Text) ++ p.label ++ ": " ++ Function.commas p.accessors.names)
      ++ [Plan.rule])

end Footer
end Tablesmith
