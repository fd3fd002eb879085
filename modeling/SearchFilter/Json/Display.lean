import SearchFilter.Failure
import SearchFilter.Json.Text
import SearchFilter.Text.Quoted

/-!
# The display of a value

On a terminal strings stand for themselves at the top and are quoted inside a list or an object.
Values of any type can be asked for their items; a number, a truth value or null has none.
-/

namespace SearchFilter

namespace Json

mutual

/-- The display of a value inside another. -/
def inner : Json → Text
  | null => "None".toList
  | boolean true => "True".toList
  | boolean false => "False".toList
  | integer value => integerText value
  | number value => value.text .display
  | string value => Text.quoted value
  | array items => '[' :: innerItems items ++ [']']
  | object members => '\x7b' :: innerMembers members ++ ['\x7d']

/-- The display of the items of an array. -/
def innerItems : List Json → Text
  | [] => []
  | [item] => item.inner
  | item :: items => item.inner ++ [',', ' '] ++ innerItems items

/-- The display of the members of an object. -/
def innerMembers : List (Text × Json) → Text
  | [] => []
  | [(name, value)] => Text.quoted name ++ [':', ' '] ++ value.inner
  | (name, value) :: members =>
    Text.quoted name ++ [':', ' '] ++ value.inner ++ [',', ' '] ++ innerMembers members

end

/-- The display of a value. -/
def display : Json → Text
  | string value => value
  | value => value.inner

/-- Whether a value counts as something rather than nothing: nothing are null, false,
    zero, and what is empty. -/
def isSomething : Json → Bool
  | null => false
  | boolean value => value
  | integer value => value != 0
  | number (.finite _ code) => code.val != 0
  | number _ => true
  | string value => !value.isEmpty
  | array items => !items.isEmpty
  | object members => !members.isEmpty

/-- The name of a value's type. -/
def typeName : Json → Text
  | null => "NoneType".toList
  | boolean _ => "bool".toList
  | integer _ => "int".toList
  | number _ => "float".toList
  | string _ => "str".toList
  | array _ => "list".toList
  | object _ => "dict".toList

/-- The items of a value: those of an array, the characters of a string, the names of an
    object's members. -/
def items : Json → Except Fault (List Json)
  | array items => .ok items
  | string value => .ok (value.map fun c => string [c])
  | object members => .ok (members.map fun (name, _) => string name)
  | value => .error (.noItems value.typeName)

/-- The items of a value, none if it counts as nothing. -/
def itemsIfAny (value : Json) : Except Fault (List Json) :=
  if value.isSomething then value.items else .ok []

end Json

end SearchFilter
