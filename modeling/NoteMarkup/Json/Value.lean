import NoteMarkup.Json.Number
import NoteMarkup.Text.Quoted

/-!
# JSON values

- `Value` is a JSON value, with the members of objects in the order they have;
- `Found` says what a value is in a message;
- `Mismatch` says how a value differs from what was asked for, and
  `Mismatch.message` words it.
-/

namespace NoteMarkup.Json

inductive Value where
  | null
  | bool (b : Bool)
  | number (n : Number)
  | string (s : String)
  | array (items : List Value)
  | object (members : List (String × Value))
  deriving Repr, Inhabited

/-! ## What a value is not -/

/-- What was found in the place of something else. -/
inductive Found where
  | null
  | bool (b : Bool)
  | number (n : Number)
  | string (s : String)
  | sequence
  | map
  | unitVariant
  deriving Repr, Inhabited

def Value.found : Value → Found
  | null => .null
  | bool b => .bool b
  | number n => .number n
  | string s => .string s
  | array _ => .sequence
  | object _ => .map

def Found.describe : Found → String
  | null => "null"
  | bool b => "boolean `" ++ toString b ++ "`"
  | number (.integer n) => "integer `" ++ (Number.integer n).text ++ "`"
  | number (.float x) => "floating point `" ++ (Number.float x).text ++ "`"
  | string s => "string " ++ Text.quoted s
  | sequence => "sequence"
  | map => "map"
  | unitVariant => "unit variant"

/-- How a value differs from what was asked for. -/
inductive Mismatch where
  | invalidType (found : Found) (expected : String)
  | invalidValue (found : Found) (expected : String)
  | invalidLength (length : Nat) (expected : String)
  | unknownField (name : String) (expected : List String)
  | unknownVariant (name : String) (expected : List String)
  | missingField (name : String)
  | duplicateField (name : String)
  deriving Repr, Inhabited

/-- The words for a choice between names. -/
def oneOf : List String → String
  | [] => ""
  | [name] => "`" ++ name ++ "`"
  | [first, second] => "`" ++ first ++ "` or `" ++ second ++ "`"
  | names => "one of " ++ ", ".intercalate (names.map fun name => "`" ++ name ++ "`")

def Mismatch.message : Mismatch → String
  | invalidType found expected =>
    "invalid type: " ++ found.describe ++ ", expected " ++ expected
  | invalidValue found expected =>
    "invalid value: " ++ found.describe ++ ", expected " ++ expected
  | invalidLength length expected =>
    "invalid length " ++ toString length ++ ", expected " ++ expected
  | unknownField name expected =>
    "unknown field `" ++ name ++ "`, expected " ++ oneOf expected
  | unknownVariant name expected =>
    "unknown variant `" ++ name ++ "`, expected " ++ oneOf expected
  | missingField name => "missing field `" ++ name ++ "`"
  | duplicateField name => "duplicate field `" ++ name ++ "`"

end NoteMarkup.Json
