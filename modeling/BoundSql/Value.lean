import BoundSql.Calendar.Moment
import BoundSql.Json
import BoundSql.Text.Utf8
import BoundSql.Uuid

/-!
The values that are bound to placeholders, and their two texts: a display text, which patterns are
made of, and a JSON text.
-/

namespace BoundSql

/-- A value for a placeholder. -/
inductive Value where
  | null
  | bool (b : Bool)
  | int (n : Int64)
  | uint (n : UInt64)
  | float (x : Float)
  | text (s : String)
  | bytes (data : List UInt8)
  | uuid (id : Uuid)
  | date (day : Calendar.Date)
  /-- A moment of which the time zone is not known. -/
  | dateTime (moment : Calendar.Moment)
  /-- A moment of universal time. -/
  | timestamp (moment : Calendar.Moment)
  | json (document : Json)
  deriving BEq

namespace Value

/-- A value that may be missing: nothing is null. -/
def ofOption (value : Option Value) : Value :=
  value.getD .null

def isNull : Value → Bool
  | .null => true
  | _ => false

/-- The content of a text value; no other value is turned into text. -/
def asText? : Value → Option String
  | .text s => some s
  | _ => none

/-- A signed integer, also from an unsigned one that is not too great. -/
def asInt? : Value → Option Int64
  | .int n => some n
  | .uint n => if n.toNat < Nat.pow 2 63 then some n.toInt64 else none
  | _ => none

/-- The plain text of a value, without quotes. -/
def display : Value → String
  | .null => "NULL"
  | .bool b => if b then "true" else "false"
  | .int n => n.toInt.repr
  | .uint n => n.toNat.repr
  | .float x => Decimal.plain.text (.ofFloat x)
  | .text s => s
  | .bytes data => Text.decodeUtf8 data
  | .uuid id => id.text
  | .date day => day.text
  | .dateTime moment => moment.text " "
  | .timestamp moment => moment.text "T" ++ "+00:00"
  | .json document => document.text

/-- The value as JSON text: numbers stay numbers, bytes are a list of numbers, and what has no JSON
form of its own is a string. -/
def jsonText : Value → String
  | .null => "null"
  | .bool b => if b then "true" else "false"
  | .int n => n.toInt.repr
  | .uint n => n.toNat.repr
  | .float x => Json.floatText x
  | .text s => Json.quoted s
  | .bytes data => "[" ++ ",".intercalate (data.map fun byte => byte.toNat.repr) ++ "]"
  | .uuid id => Json.quoted id.text
  | .date day => Json.quoted day.text
  | .dateTime moment => Json.quoted (moment.text "T")
  | .timestamp moment => Json.quoted (moment.text "T" ++ "Z")
  | .json document => document.text

end Value

end BoundSql
