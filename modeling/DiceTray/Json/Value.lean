import DiceTray.Number.Shortest
import DiceTray.Number.Decimal
import DiceTray.OrderedMap

/-!
# JSON values

The values of a JSON document. Integers and floats are told apart, and the members of an object
keep their order.
-/

namespace DiceTray.Json

/-- A JSON value. -/
inductive Value
  | null
  | boolean (value : Bool)
  /-- A number written without fraction and exponent. -/
  | integer (value : Int)
  /-- A number written with a fraction or an exponent. -/
  | float (value : Binary64)
  | text (value : String)
  | list (items : List Value)
  | object (members : List (String × Value))

/-- The member of an object by its name. -/
def Value.member? (value : Value) (name : String) : Option Value :=
  match value with
  | .object members => members.lookup name
  | _ => none

/-- The string that a value is. -/
def Value.text? : Value → Option String
  | .text value => some value
  | _ => none

/-- The items of the array that a value is. -/
def Value.items? : Value → Option (List Value)
  | .list items => some items
  | _ => none

end DiceTray.Json
