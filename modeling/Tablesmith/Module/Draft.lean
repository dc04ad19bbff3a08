/-
# Drafts

A draft holds the parts of a generated module: the preamble, one section for each table, the
checks and the footer. Its text is made of the parts that are not blank, newlines at their ends
gone, with two empty lines between any two of them.
-/

import Tablesmith.Text.Blank

namespace Tablesmith

/-- The parts of a generated module. -/
structure Draft where
  preamble : Text := []
  /-- For each table its name and its section. -/
  sections : List (Text × Text) := []
  checks : Text := []
  footer : Text := []
deriving Repr, DecidableEq, Inhabited

namespace Draft

/-- The parts in their order. -/
def parts (d : Draft) : List Text := d.preamble :: d.sections.map Prod.snd ++ [d.checks, d.footer]

/-- A part without newlines at its ends. -/
def strip (part : Text) : Text := Text.trimBy (· == '\n') part

/-- The parts that are written. -/
def written (d : Draft) : List Text :=
  (d.parts.filter fun p => !Text.isAllBlank p).map strip

/-- The text of the module. -/
def text (d : Draft) : Text := Text.join "\n\n\n" d.written ++ ['\n']

/-- The tables with a section. -/
def tables (d : Draft) : List Text := d.sections.map Prod.fst

/-- **Blank sections do not show.** -/
theorem text_blank_section (d : Draft) (table blank : Text) (front back : List (Text × Text))
    (h : Text.isAllBlank blank) :
    text { d with sections := front ++ (table, blank) :: back } =
      text { d with sections := front ++ back } := by
  simp [text, written, parts, List.filter_cons, h]

example : text { preamble := "\n a\n", sections := [("t", " \n")], footer := "b" } =
    " a\n\n\nb\n".toList := by decide +kernel

end Draft
end Tablesmith
