/-
# Columns of a declaration's body

The columns are the first words of the segments that are no constraints. A segment that mentions
`FOREIGN KEY` anywhere, in any case, is a constraint in both modes. In depth-aware mode so is a
segment that begins with `PRIMARY KEY`, `UNIQUE`, `CHECK` or `CONSTRAINT` as whole words, so that
`unique_code` and `checksum` remain columns.
-/

import Tablesmith.Sql.Keyword
import Tablesmith.Sql.Segment
import Tablesmith.Text.Case

namespace Tablesmith
namespace Sql
namespace Column

/-- Does the segment mention a foreign key? -/
def mentionsForeignKey (segment : Text) : Bool :=
  Text.contains "FOREIGN KEY" (Text.upper segment)

/-- The keywords that begin a constraint on the whole table. -/
def constraintHeads : List (List Text) :=
  [["PRIMARY", "KEY"], ["UNIQUE"], ["CHECK"], ["CONSTRAINT"]]

/-- Does the segment begin with the head of a table constraint? -/
def beginsConstraint (segment : Text) : Bool :=
  constraintHeads.any fun head => (wholeKeywords? head (Text.skipBlanks segment)).isSome

/-- Segments that declare no column. -/
def isConstraint : SplitMode → Text → Bool
  | .legacy, segment => mentionsForeignKey segment
  | .depthAware, segment => mentionsForeignKey segment || beginsConstraint segment

/-- The column names of a body in the order of their declaration, repetitions kept. -/
def all (mode : SplitMode) (body : Text) : List Text :=
  ((Segment.all mode body).filter fun s => !isConstraint mode s).map Text.firstWord

example : all .depthAware "id SERIAL, precio NUMERIC(8,2), UNIQUE (precio), unique_code TEXT" =
    ["id".toList, "precio".toList, "unique_code".toList] := by decide +kernel

example : all .legacy "precio NUMERIC(8,2), UNIQUE (precio), foreign key (a) references b" =
    ["precio".toList, "2)".toList, "UNIQUE".toList] := by decide +kernel

end Column
end Sql
end Tablesmith
