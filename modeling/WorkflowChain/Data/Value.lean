import WorkflowChain.Data.Table
import WorkflowChain.Decimal.Double

/-! # Free-form values

Configurations and resources are values without a fixed shape. A value that was read has
the keys of its maps in order (`Value.inKeyOrder` brings any value there); a value that
is built to be written lists them in the order of writing.
-/

namespace WorkflowChain

open Decimal

/-- A value without a fixed shape. -/
inductive Value where
  | null
  | bool (value : Bool)
  | int (value : Int)
  | float (value : Double)
  | text (value : String)
  | list (items : List Value)
  | map (entries : List (String × Value))
  deriving Repr, Inhabited

namespace Value

/-- The text of a text value. -/
def text? : Value → Option String
  | .text value => some value
  | _ => none

/-- The items of a list value. -/
def items? : Value → Option (List Value)
  | .list items => some items
  | _ => none

/-- The entries of a map value. -/
def entries? : Value → Option (Table Value)
  | .map entries => some entries
  | _ => none

/-- The value under a key of a map value. -/
def field? (key : String) : Value → Option Value
  | .map entries => entries.lookup key
  | _ => none

theorem text?_eq_some_iff {value : Value} {text : String} :
    value.text? = some text ↔ value = .text text := by
  cases value <;> simp [text?]

theorem field?_eq_some_iff {key : String} {value found : Value} :
    value.field? key = some found ↔
      ∃ entries, value = .map entries ∧ entries.lookup key = some found := by
  cases value <;> simp [field?]

mutual

/-- The value with the keys of all its maps in order. -/
def inKeyOrder : Value → Value
  | .list items => .list (inKeyOrderItems items)
  | .map entries => .map (Table.sorted (inKeyOrderEntries entries))
  | other => other

/-- All items with their keys in order. -/
def inKeyOrderItems : List Value → List Value
  | [] => []
  | item :: rest => inKeyOrder item :: inKeyOrderItems rest

/-- All entries, in their order, with the keys inside their values in order. -/
def inKeyOrderEntries : List (String × Value) → List (String × Value)
  | [] => []
  | (key, value) :: rest => (key, inKeyOrder value) :: inKeyOrderEntries rest

end

/-- A list of texts as a value. -/
def texts (items : List String) : Value := .list (items.map .text)

end Value

end WorkflowChain
