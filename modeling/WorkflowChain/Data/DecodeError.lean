import WorkflowChain.Data.Datum
import WorkflowChain.Json.Printer
import WorkflowChain.Text.Quoted
import WorkflowChain.Text.Split

/-! # Why a datum does not fit

The reasons for which a datum is refused where a certain shape is expected, and their texts.
-/

namespace WorkflowChain

/-- What a message says about a datum that has the wrong type. -/
inductive Found where
  | leaf (datum : Leaf)
  | map
  | sequence
  deriving DecidableEq, Repr

/-- What was expected in place of a datum. -/
inductive Expected where
  | text
  | count
  | map
  | sequence
  | record (name : String)
  deriving DecidableEq, Repr

/-- Why a datum was refused. -/
inductive DecodeError where
  /-- The datum has another type than expected. -/
  | wrongType (found : Found) (expected : Expected)
  /-- The datum has a type that is expected, but not this value. -/
  | wrongValue (found : Found) (expected : Expected)
  /-- A list that stands for a record has too few items. -/
  | tooShort (length : Nat) (record : String) (fields : Nat)
  /-- A list that stands for a record has too many items. -/
  | tooLong (length : Nat)
  | missingField (field : String)
  | duplicateField (field : String)
  /-- None of several shapes fits. -/
  | noVariant (name : String)
  | unknownVariant (found : String) (known : List String)
  /-- A template must be a map of one key. -/
  | strategyCount (keys : Nat)
  | unknownStrategy (strategy : String)
  | notAMapping (strategy : String) (configuration : Value)
  /-- A part of the datum cannot be represented. -/
  | unreadable
  deriving Repr

namespace Found

/-- The part of a message that names what was found. -/
def describe : Found → String
  | .leaf .null => "null"
  | .leaf (.bool value) => "boolean `" ++ (if value then "true" else "false") ++ "`"
  | .leaf (.int value) => "integer `" ++ toString value ++ "`"
  | .leaf (.float value) => "floating point `" ++ value.render .signed ++ "`"
  | .leaf (.text value) => "string " ++ Text.quoted value
  | .map => "map"
  | .sequence => "sequence"

end Found

namespace Expected

/-- The part of a message that names what was expected. -/
def describe : Expected → String
  | .text => "a string"
  | .count => "usize"
  | .map => "a map"
  | .sequence => "a sequence"
  | .record name => "struct " ++ name

end Expected

namespace DecodeError

/-- Names in quotation, as alternatives: two with "or", more after "one of". -/
def alternatives (names : List String) : String :=
  let marked := names.map fun name => "`" ++ name ++ "`"
  match marked with
  | [first, second] => first ++ " or " ++ second
  | marked => "one of " ++ Text.joinWith ", " marked

/-- The text of a refusal. -/
def message : DecodeError → String
  | wrongType found expected =>
    "invalid type: " ++ found.describe ++ ", expected " ++ expected.describe
  | wrongValue found expected =>
    "invalid value: " ++ found.describe ++ ", expected " ++ expected.describe
  | tooShort length record fields =>
    "invalid length " ++ toString length ++ ", expected struct " ++ record ++ " with "
      ++ toString fields ++ (if fields = 1 then " element" else " elements")
  | tooLong length =>
    "invalid length " ++ toString length ++ ", expected fewer elements in array"
  | missingField field => "missing field `" ++ field ++ "`"
  | duplicateField field => "duplicate field `" ++ field ++ "`"
  | noVariant name => "data did not match any variant of untagged enum " ++ name
  | unknownVariant found known =>
    "unknown variant `" ++ found ++ "`, expected " ++ alternatives known
  | strategyCount keys =>
    "expected a single strategy per item, got " ++ toString keys ++ " keys"
  | unknownStrategy strategy => "unknown strategy type '" ++ strategy ++ "'"
  | notAMapping strategy configuration =>
    "configuration of '" ++ strategy ++ "' must be a mapping, got " ++ Json.render configuration
  | unreadable => "a part of the text cannot be represented"

end DecodeError

end WorkflowChain
