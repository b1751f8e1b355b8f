import Thaum.Library.PyText

/-!
# JSON values as Python receives them

`json.loads` yields `None`, booleans, unbounded integers, floats (the
infinities and not-a-number included), strings, lists and dictionaries. Below
are the operations the handlers apply to such a value: truth testing, `dict.get`,
the comparison with an integer and `str`.

The text of a float, list or dictionary under `str` is CPython's and is passed
in; `str` of the other values is computed. So is the letter case of the whole of
Unicode, with the laws of a case mapping.
-/

namespace PyJson

open PyText

/-- A float: a dyadic rational, an infinity or not-a-number. -/
inductive Float where
  | finite : Rat → Float
  | infinity : (negative : Bool) → Float
  | nan : Float
deriving DecidableEq

/-- A value that `json.loads` yields. -/
inductive Json where
  | null : Json
  | bool : Bool → Json
  | int : Int → Json
  | float : Float → Json
  | str : Text → Json
  | arr : List Json → Json
  | obj : List (Text × Json) → Json

namespace Json

/-- `bool(value)`. -/
def truthy : Json → Bool
  | null => false
  | bool b => b
  | int n => n != 0
  | float f => f != .finite 0
  | str s => !s.isEmpty
  | arr items => !items.isEmpty
  | obj fields => !fields.isEmpty

/-- `value == n` for a Python integer: booleans and floats compare by value. -/
def equalsInt (n : Int) : Json → Bool
  | bool b => n == if b then 1 else 0
  | int m => m == n
  | float (.finite q) => q == n
  | _ => false

/-- The fields of a dictionary; `isinstance(value, dict)` is `fields?.isSome`. -/
def fields? : Json → Option (List (Text × Json))
  | obj fields => some fields
  | _ => none

/-- The entries of a list; `isinstance(value, list)` is `items?.isSome`. -/
def items? : Json → Option (List Json)
  | arr items => some items
  | _ => none

end Json

/-- `fields.get(name)`; a decoded object has one value for each name. -/
def get (name : Text) (fields : List (Text × Json)) : Json := (fields.lookup name).getD .null

/-- `fields.get(name, default)`. -/
def getDefault (name : Text) (default : Json) (fields : List (Text × Json)) : Json :=
  (fields.lookup name).getD default

/-- What CPython makes of the values and texts that are not worked out here: the text of a
float, a list or a dictionary, and the lower and the folded case of the whole of Unicode. -/
structure Rendering extends CaseMapping where
  valueText : Json → Text
  casefold : Text → Text

/-- A rendering with the case of ASCII, and no text for those values. -/
def asciiRendering : Rendering where
  toCaseMapping := asciiCasing
  valueText _ := []
  casefold := PyText.casefold

/-- `str(value)`. -/
def pyStr (rendering : Rendering) : Json → Text
  | .null => "None".toList
  | .bool true => "True".toList
  | .bool false => "False".toList
  | .int n => (toString n).toList
  | .str s => s
  | other => rendering.valueText other

/-- `str(value or "")`. -/
def strOrBlank (rendering : Rendering) (value : Json) : Text :=
  if value.truthy then pyStr rendering value else []

/-- A string is its own text, the empty one included. -/
@[simp] theorem strOrBlank_str (rendering : Rendering) (s : Text) :
    strOrBlank rendering (.str s) = s := by
  cases s <;> rfl

end PyJson
