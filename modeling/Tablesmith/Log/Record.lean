/-
# Log records

A record is an entry of the log with the place in the program that wrote it. It is written as one
line in one of two formats:

| format | line |
| --- | --- |
| simple | level, logger, message |
| detailed | time, level, logger, function and line number, message |
-/

import Tablesmith.Instant
import Tablesmith.Log.Level

namespace Tablesmith
namespace Log

/-- An entry of the log and where it comes from. -/
structure Record where
  time : Instant
  level : Int
  logger : Text
  function : Text
  line : Int
  message : Text
deriving Repr, DecidableEq

namespace Record

/-- The name of a level, at least eight characters wide. -/
def wideLevel (level : Int) : Text :=
  let name := nameOf level
  name ++ List.replicate (8 - name.length) ' '

/-- The line of a record, with its newline. -/
def text (detailed : Bool) (r : Record) : Text :=
  let columns : List Text :=
    if detailed then
      [r.time.text, wideLevel r.level, r.logger, r.function ++ ':' :: Text.ofInt r.line, r.message]
    else [nameOf r.level, r.logger, r.message]
  Text.join " | " columns ++ ['\n']

end Record
end Log
end Tablesmith
