/-
# The checks of the generated module

For each table a function that inserts a sample row, reads it back, updates it and counts the
rows; and one function that runs them all and reports how many passed. They delete nothing: the
line that would remove the sample row is a comment.
-/

import Tablesmith.Module.Sample
import Tablesmith.Module.Section

namespace Tablesmith
namespace Plan

/-- The line that reports something of a table. -/
def logLine (p : Plan) (formatted : Bool) (message : Text) : Text :=
  ("_log(" : Text) ++ (if formatted then ['f'] else []) ++ "\"" ++ p.label ++ ": " ++ message
    ++ "\")"

/-- The field of a formatted text that holds the value of an expression. -/
def hole (expression : Text) : Text := '\x7b' :: expression ++ ['\x7d']

/-- The arguments of the insertion in a check. -/
def insertArgs (p : Plan) : List Text := p.insertColumns.map Sample.valueOf

/-- The arguments of the update in a check. -/
def updateArgs (p : Plan) : List Text := ("key" : Text) :: p.updateColumns.map Sample.valueOf

/-- The function that tries out the functions of a table. -/
def checkFunction (p : Plan) : Function where
  name := p.check
  body :=
    let rows := hole ("len(" ++ Function.call p.listAll [] ++ ")")
    let fetched := hole (Function.call p.getById ["key"])
    [Function.doc ("Round-trip one synthesized row through the " ++ p.label ++ " functions."),
      p.logLine false "checking connectivity",
      "run_query(\"SELECT 1;\")",
      p.logLine true (rows ++ " existing row(s)"),
      [],
      ("created = " : Text) ++ Function.call p.insert p.insertArgs,
      "if created is None:",
      ("    " : Text) ++ p.logLine false "insert failed, skipping remaining steps",
      "    return False",
      p.logLine true ("inserted " ++ hole "created"),
      [],
      ("key = " : Text)
        ++ Function.call "created.get" [Text.literal (Naming.rowKey p.key)],
      p.logLine true ("fetched " ++ fetched),
      [],
      ("updated = " : Text) ++ Function.call p.update p.updateArgs,
      p.logLine true ("updated " ++ hole "updated"),
      p.logLine true ("re-fetched " ++ fetched),
      p.logLine true (rows ++ " row(s) after the check"),
      [],
      "# Cleanup is left to you. Uncomment to remove the test row:",
      ("# " : Text) ++ Function.call p.delete ["key"],
      "return True"]

/-- The line with which a check is registered. -/
def checkEntry (p : Plan) : Text :=
  ("    (" : Text) ++ Text.literal p.label ++ ", " ++ p.check ++ "),"

end Plan

namespace Checks

/-- The comment above the checks. -/
def header : List Text :=
  [Plan.rule, "# Integration checks (non-destructive: test rows are never deleted)", Plan.rule]

/-- The function with which the checks report. -/
def logFunction : Function where
  name := "_log"
  params := ["message"]
  body := ["print(f\"[\x7bdatetime.now():%H:%M:%S\x7d] \x7bmessage\x7d\")"]

/-- The function that runs the checks of all plans. -/
def runFunction (plans : List Plan) : Function where
  name := "run_integration_tests"
  body :=
    [Function.doc "Run every table check in order and report how many passed.", "checks = ("]
      ++ (if plans.isEmpty then [[]] else plans.map Plan.checkEntry)
      ++ ([")",
        "results = \x7b\x7d",
        "try:",
        "    for table, check in checks:",
        "        try:",
        "            results[table] = check()",
        "        except psycopg2.Error as error:",
        "            _log(f\"\x7btable\x7d: \x7berror\x7d\")",
        "            results[table] = False",
        "finally:",
        "    close_pool()",
        "passed = sum(1 for ok in results.values() if ok)",
        "_log(f\"\x7bpassed\x7d/\x7blen(results)\x7d table check(s) passed\")",
        "return results"] : List Text)

/-- The lines that run the checks when the module is started. -/
def start : List Text := ["if __name__ == \"__main__\":", "    run_integration_tests()"]

/-- The functions of the checks. -/
def functions (plans : List Plan) : List Function :=
  logFunction :: plans.map Plan.checkFunction ++ [runFunction plans]

/-- The part of the module that holds the checks. -/
def text (plans : List Plan) : Text :=
  Function.apart
    (Text.unlines header :: (functions plans).map Function.text ++ [Text.unlines start])

end Checks
end Tablesmith
