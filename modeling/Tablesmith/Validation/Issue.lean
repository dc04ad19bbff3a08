/-
# Issues of a document

An issue says what is wrong with a part of a document and where the part stands. Every kind of
issue has a code, under which it is reported.
-/

import Tablesmith.Text.Numeral

namespace Tablesmith

/-- From a document into one of its parts. -/
inductive Step where
  | field (name : Text)
  | item (index : Nat)
deriving Repr, DecidableEq

/-- How a step is written. -/
def Step.text : Step → Text
  | field name => name
  | item index => Text.ofNat index

namespace Issue

/-- What is wrong with a part of a document. -/
inductive Kind where
  | missing
  | extraMember
  | keyNoText
  | noText
  | brokenText
  | textTooShort
  | patternMismatch
  | noInteger
  | unreadableInteger
  | integerTooLong
  | fractionalInteger
  | numberNotFinite
  | belowMinimum
  | unreadableReal
  | noReal
  | noBool
  | unreadableBool
  | noneOfTheNames
  | noTuple
  | noList
  | noModel
  | noModelOrFields
  | noJson
  | frozen
  | noSuchField
deriving Repr, DecidableEq

/-- The code under which a kind of issue is reported. -/
def Kind.code : Kind → Text
  | missing => "missing"
  | extraMember => "extra_forbidden"
  | keyNoText => "invalid_key"
  | noText => "string_type"
  | brokenText => "string_unicode"
  | textTooShort => "string_too_short"
  | patternMismatch => "string_pattern_mismatch"
  | noInteger => "int_type"
  | unreadableInteger => "int_parsing"
  | integerTooLong => "int_parsing_size"
  | fractionalInteger => "int_from_float"
  | numberNotFinite => "finite_number"
  | belowMinimum => "greater_than_equal"
  | unreadableReal => "float_parsing"
  | noReal => "float_type"
  | noBool => "bool_type"
  | unreadableBool => "bool_parsing"
  | noneOfTheNames => "literal_error"
  | noTuple => "tuple_type"
  | noList => "list_type"
  | noModel => "model_type"
  | noModelOrFields => "model_attributes_type"
  | noJson => "json_invalid"
  | frozen => "frozen_field"
  | noSuchField => "no_such_attribute"

end Issue

/-- Something wrong with the part of a document at the end of a path. -/
structure Issue where
  path : List Step
  kind : Issue.Kind
deriving Repr, DecidableEq

namespace Issue

/-- The same issue of a document that has this one as a part. -/
def under (step : Step) (i : Issue) : Issue := { i with path := step :: i.path }

/-- The path with dots between its steps, and the code. -/
def text (i : Issue) : Text :=
  Text.join ['.'] (i.path.map Step.text) ++ ": " ++ i.kind.code

/-- All issues in one line. -/
def summary (issues : List Issue) : Text := Text.join "; " (issues.map text)

example : summary [⟨[.field "pool", .field "size"], .missing⟩, ⟨[.item 0], .noText⟩] =
    "pool.size: missing; 0: string_type".toList := by decide +kernel

end Issue
end Tablesmith
