/-!
Declarations of record types as far as their columns depend on them: the shape, the fields, and the
attributes on the type and on each field.
-/

namespace BoundSql.Record

/-- What is declared. Only a structure with named fields has columns. -/
inductive Shape where
  | namedFields : Shape
  | tuple : Shape
  | unit : Shape
  | enumeration : Shape
  | union : Shape
  deriving DecidableEq

/-- A literal after an equals sign. -/
inductive Literal where
  | text (content : String)
  | integer (n : Int)
  | boolean (b : Bool)

/-- What follows the key of an item. -/
inductive ItemForm where
  | bare
  /-- An equals sign, and a literal unless nothing is written after it. -/
  | assigned (literal : Option Literal)
  /-- An empty pair of parentheses. -/
  | call
  /-- An equals sign, a text, and something other than a comma after it. -/
  | overrun (content : String)

/-- One of the items between the parentheses of an attribute. The key may be a path of several
names. -/
structure Item where
  key : String
  form : ItemForm

/-- What follows the path of an attribute. -/
inductive Arguments where
  | absent
  | assigned (content : String)
  | list (items : List Item)

structure Attribute where
  path : String
  arguments : Arguments

structure Field where
  name : String
  attributes : List Attribute

structure Declaration where
  shape : Shape
  attributes : List Attribute
  fields : List Field

end BoundSql.Record
