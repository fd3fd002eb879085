import SearchFilter.Json.Basic
import SearchFilter.Text.Quoted

/-!
# What can go wrong

A `QueryError` says what is wrong with a query or a setting, and how to mend it; a `Fault` is a
failure that no rule of the language provides for. Their wording stands here and nowhere else.
-/

namespace SearchFilter

/-! ### Errors in a query or a setting -/

/-- What is wrong with a query or with a setting (`FindExprError`). -/
inductive QueryError where
  /-- A field already holds something that a new constraint cannot join. -/
  | fieldConflict (field existing incoming : Text)
  /-- A raw value was taken as a number or a truth value and is none. -/
  | valueCoercion (rawValue kind : Text) (field : Option Text)
  /-- A token is no term, where every token must be one. -/
  | unparsedTerm (term : Text)
  /-- A setting has a value that is not allowed. -/
  | configuration (name value : Text) (allowed : List Text)
  /-- Any other error, in words of its own. -/
  | general (statement : Text) (hint : Option Text)
  deriving DecidableEq

namespace QueryError

/-- The word for a kind of error. -/
def typeName : QueryError → Text
  | fieldConflict .. => "field_conflict".toList
  | valueCoercion .. => "value_coercion".toList
  | unparsedTerm .. => "unparsed_term".toList
  | configuration .. => "configuration_error".toList
  | general .. => "findexpr_error".toList

/-- What is wrong, in words. -/
def statement : QueryError → Text
  | fieldConflict field existing incoming =>
    "Conflicting constraints for field '".toList ++ field ++ "': cannot apply ".toList ++
      incoming ++ " on top of ".toList ++ existing
  | valueCoercion rawValue kind field =>
    let place :=
      match field with
      | some (c :: name) => " for field '".toList ++ (c :: name) ++ ['\'']
      | _ => []
    "Value ".toList ++ Text.quoted rawValue ++ place ++ " was classified as ".toList ++ kind ++
      " but is not a valid ".toList ++ kind
  | unparsedTerm term => "Term ".toList ++ Text.quoted term ++ " has no recognized operator".toList
  | configuration name value allowed =>
    "Invalid value ".toList ++ Text.quoted value ++ " for ".toList ++ name ++
      ". Allowed: ".toList ++ List.intercalate [',', ' '] allowed
  | general statement _ => statement

/-- What to do about an error. -/
def hint : QueryError → Option Text
  | fieldConflict .. =>
    some "Use a single equality per field, or only comparison operators.".toList
  | valueCoercion .. =>
    some "Set FINDEXPR_MATCHING=anchored to treat partial matches as strings.".toList
  | unparsedTerm _ =>
    some ("Write terms as field:value, field!:value, or field>=value ".toList ++
      "with no spaces around the operator.".toList)
  | configuration .. => none
  | general _ hint => hint

/-- The parts of an error, for a reader that is a program. -/
def details : QueryError → List (Text × Json)
  | fieldConflict field existing incoming =>
    [("field".toList, .string field), ("existing".toList, .string existing),
      ("incoming".toList, .string incoming)]
  | valueCoercion rawValue kind field =>
    [("rawValue".toList, .string rawValue), ("kind".toList, .string kind),
      ("field".toList, (field.map .string).getD .null)]
  | unparsedTerm term => [("term".toList, .string term)]
  | configuration name value allowed =>
    [("name".toList, .string name), ("value".toList, .string value),
      ("allowed".toList, .array (allowed.map .string))]
  | general .. => []

/-- The statement, followed by the hint if there is one with words in it. -/
def message (error : QueryError) : Text :=
  match error.hint with
  | some (c :: words) => error.statement ++ " Hint: ".toList ++ c :: words
  | _ => error.statement

end QueryError

/-! ### Faults -/

/-- The kinds of faults. -/
inductive Fault.Kind where
  | value
  | key
  | state
  | type
  | member
  | system
  deriving DecidableEq

/-- The word for a kind of fault, shown for a fault that has nothing else to say. -/
def Fault.Kind.name : Fault.Kind → Text
  | value => "ValueError".toList
  | key => "KeyError".toList
  | state => "RuntimeError".toList
  | type => "TypeError".toList
  | member => "AttributeError".toList
  | system => "OSError".toList

/-- A failure that no rule of the language provides for. -/
inductive Fault where
  /-- A text has the form of a number and cannot be converted, for the white space in it. -/
  | unreadableNumber (rawValue : Text)
  /-- A number has no JSON form. -/
  | numberOutOfRange
  /-- A document was asked for a field that it does not have. -/
  | unknownField (name : Text)
  /-- A value of a type without items was asked for them. -/
  | noItems (typeName : Text)
  /-- A value of a type without members was asked for one. -/
  | noMembers (typeName : Text)
  /-- A path is longer than the file system allows. -/
  | pathTooLong (path : Text)
  /-- Any other fault, of a kind and with texts that explain it. -/
  | raised (kind : Fault.Kind) (arguments : List Text)
  deriving DecidableEq

namespace Fault

/-- The kind of a fault. -/
def kind : Fault → Kind
  | unreadableNumber _ => .value
  | numberOutOfRange => .value
  | unknownField _ => .key
  | noItems _ => .type
  | noMembers _ => .member
  | pathTooLong _ => .system
  | raised kind _ => kind

/-- The words of a fault: its only text as it is (a key in quotes), or several texts in
    quotes and brackets. -/
def messageOf (kind : Kind) : List Text → Text
  | [] => []
  | [argument] => if kind = .key then Text.quoted argument else argument
  | arguments => '(' :: List.intercalate [',', ' '] (arguments.map Text.quoted) ++ [')']

/-- The words of a fault. -/
def message : Fault → Text
  | unreadableNumber rawValue =>
    messageOf .value ["could not convert string to float: ".toList ++ Text.quoted rawValue]
  | numberOutOfRange => messageOf .value ["Out of range float values are not JSON compliant".toList]
  | unknownField name => messageOf .key [name]
  | noItems typeName => messageOf .type [Text.quoted typeName ++ " object is not iterable".toList]
  | noMembers typeName =>
    messageOf .member [Text.quoted typeName ++ " object has no attribute 'get'".toList]
  | pathTooLong path =>
    messageOf .system ["[Errno 36] File name too long: ".toList ++ Text.quoted path]
  | raised kind arguments => messageOf kind arguments

end Fault

/-- Why a compilation failed. -/
inductive Failure where
  | query (error : QueryError)
  | fault (fault : Fault)
  deriving DecidableEq

end SearchFilter
