import BoundSql.Value

/-!
Predicates on a column that is not named yet.
-/

namespace BoundSql

/-- Where the text of a pattern has to occur. -/
inductive Wildcard where
  | contains : Wildcard
  | prefixed : Wildcard
  | suffixed : Wildcard
  deriving DecidableEq

/-- The pattern for texts that contain, begin with or end with the display text of a value. A
wildcard in that text stays one. -/
def Wildcard.pattern (wildcard : Wildcard) (value : Value) : String :=
  match wildcard with
  | .contains => "%" ++ value.display ++ "%"
  | .prefixed => value.display ++ "%"
  | .suffixed => "%" ++ value.display

/-- A test of a column. The symbol of a comparison is written right after the column. -/
inductive Predicate where
  | compare (symbol : String) (value : Value)
  | between (lower upper : Value) (negated : Bool)
  | inList (values : List Value) (negated : Bool)
  | like (value : Value) (wildcard : Wildcard) (negated : Bool)
  | isNull (negated : Bool)
  deriving BEq

namespace Predicate

def eq (value : Value) : Predicate := .compare "=" value
def ne (value : Value) : Predicate := .compare "!=" value
def gt (value : Value) : Predicate := .compare ">" value
def ge (value : Value) : Predicate := .compare ">=" value
def lt (value : Value) : Predicate := .compare "<" value
def le (value : Value) : Predicate := .compare "<=" value

end Predicate

end BoundSql
