/-
# Sample values

The check of a table inserts a sample row. What a column gets is decided by its name: the first
rule with a word that the name mentions, in any case, wins.

| rule | words | value |
| --- | --- | --- |
| `name` | nombre, name | `"Juan Pérez"` |
| `age` | edad, age | `25` |
| `email` | email, correo | `"juan@example.com"` |
| `active` | activo, active | `True` |
| `date` | fecha, date | `"2024-01-15"` |
| `price` | precio, price | `99.99` |
| `phone` | telefono, phone | `"555-123-4567"` |
| `text` | texto, text, string | `"Texto de ejemplo"` |
| `number` | numero, num, int | `42` |
| `boolean` | logico, bool | `True` |
| `default` | none | `"valor_ejemplo"` |
-/

import Tablesmith.Text.Case

namespace Tablesmith

/-- Which columns get a sample value, and which one. -/
structure Sample where
  kind : Text
  words : List Text
  value : Text
deriving Repr, DecidableEq

namespace Sample

/-- The rules, strongest first. -/
def rules : List Sample :=
  [⟨"name", ["nombre", "name"], "\"Juan Pérez\""⟩,
    ⟨"age", ["edad", "age"], "25"⟩,
    ⟨"email", ["email", "correo"], "\"juan@example.com\""⟩,
    ⟨"active", ["activo", "active"], "True"⟩,
    ⟨"date", ["fecha", "date"], "\"2024-01-15\""⟩,
    ⟨"price", ["precio", "price"], "99.99"⟩,
    ⟨"phone", ["telefono", "phone"], "\"555-123-4567\""⟩,
    ⟨"text", ["texto", "text", "string"], "\"Texto de ejemplo\""⟩,
    ⟨"number", ["numero", "num", "int"], "42"⟩,
    ⟨"boolean", ["logico", "bool"], "True"⟩]

/-- The rule for all other columns. -/
def fallback : Sample := ⟨"default", [], "\"valor_ejemplo\""⟩

/-- Does the column mention one of the rule's words? -/
def covers (s : Sample) (column : Text) : Bool :=
  let name := Text.lower column
  s.words.any fun w => Text.contains w name

/-- The rule for a column. -/
def ofColumn (column : Text) : Sample := (rules.find? fun s => s.covers column).getD fallback

/-- The sample value of a column. -/
def valueOf (column : Text) : Text := (ofColumn column).value

/-- Of two words that a column mentions, the stronger rule's counts. -/
example : (ofColumn "fecha_nombre").kind = "name" ∧ valueOf "PRECIO" = "99.99" := by
  decide +kernel

end Sample
end Tablesmith
