import BoundSql.Record.CaseStyle
import BoundSql.Record.Declaration

/-!
What the attributes of a declaration say about its columns. Attributes are read from left to right,
and so are the items in each; the first fault ends the reading, and of several items with one key
the last one counts.
-/

namespace BoundSql.Record

/-- The path of the attributes that are read. All others are passed over. -/
def attributePath : String := "sqlg"

/-- The faults that a declaration can have. -/
inductive Fault where
  | notAStructure
  | noNamedFields
  | noArguments
  | noParentheses
  | unknownTypeKey
  | unknownFieldKey
  | noEqualsSign
  | noText
  | nothingAtEnd
  | noComma
  | unknownUntagged
  | unknownRule (rule : String)
  | emptyColumn
  | emptyExpression
  deriving DecidableEq

def Fault.message : Fault → String
  | .notAStructure => "Columns can only be derived for structs"
  | .noNamedFields => "Columns can only be derived for structs with named fields"
  | .noArguments => "expected attribute arguments in parentheses: #[" ++ attributePath ++ "(...)]"
  | .noParentheses => "expected parentheses: #[" ++ attributePath ++ "(...)]"
  | .unknownTypeKey =>
      "unknown " ++ attributePath ++ " attribute, expected `untagged` or `rename_all`"
  | .unknownFieldKey =>
      "unknown " ++ attributePath ++ " attribute, expected `column`, `expr` or `skip`"
  | .noEqualsSign => "expected `=`"
  | .noText => "expected string literal"
  | .nothingAtEnd => "unexpected end of input, expected string literal"
  | .noComma => "expected `,`"
  | .unknownUntagged => "expected `untagged = \"include\"` or `untagged = \"skip\"`"
  | .unknownRule rule => "unknown rename_all rule `" ++ rule ++ "`"
  | .emptyColumn => "column name can not be empty"
  | .emptyExpression => "expr can not be empty"

/-- The text that an item gives to its key. `isLast` tells whether the list ends after the item,
since a missing text is noticed at what stands in its place. -/
def ItemForm.text (isLast : Bool) : ItemForm → Except Fault String
  | .bare | .call => .error .noEqualsSign
  | .assigned (some (.text content)) | .overrun content => .ok content
  | .assigned (some _) => .error .noText
  | .assigned none => .error (if isLast then .nothingAtEnd else .noText)

/-- Takes nothing after the key of an item. -/
def ItemForm.nothing : ItemForm → Except Fault Unit
  | .bare => .ok ()
  | _ => .error .noComma

/-- Takes the comma after an item whose text has been taken, or the end of the list. -/
def ItemForm.ending : ItemForm → Except Fault Unit
  | .overrun _ => .error .noComma
  | _ => .ok ()

section Reading

variable {α : Type}

/-- Reads items from left to right; each is told whether it is the last. -/
def readItems (readItem : α → Item → (isLast : Bool) → Except Fault α) (settings : α) :
    List Item → Except Fault α
  | [] => .ok settings
  | item :: rest => do
      let settings ← readItem settings item rest.isEmpty
      item.form.ending
      readItems readItem settings rest

/-- Reads attributes from left to right, those of another path without looking into them. -/
def readAttributes (readItem : α → Item → (isLast : Bool) → Except Fault α) (settings : α) :
    List Attribute → Except Fault α
  | [] => .ok settings
  | first :: rest => do
      let settings ←
        if first.path = attributePath then
          match first.arguments with
          | .absent => .error .noArguments
          | .assigned _ => .error .noParentheses
          | .list items => readItems readItem settings items
        else .ok settings
      readAttributes readItem settings rest

end Reading

/-- What the attributes of the type say about fields that name no column. -/
structure TypeSettings where
  includeUntagged : Bool := true
  style : Option CaseStyle := none

/-- Reads one item of the type. -/
def TypeSettings.readItem (settings : TypeSettings) (item : Item) (isLast : Bool) :
    Except Fault TypeSettings :=
  match item.key with
  | "untagged" => do
      match ← item.form.text isLast with
      | "include" => .ok { settings with includeUntagged := true }
      | "skip" => .ok { settings with includeUntagged := false }
      | _ => .error .unknownUntagged
  | "rename_all" => do
      let rule ← item.form.text isLast
      match CaseStyle.ofRule? rule with
      | some style => .ok { settings with style := some style }
      | none => .error (.unknownRule rule)
  | _ => .error .unknownTypeKey

/-- What the attributes of a field say about it. -/
structure FieldSettings where
  column : Option String := none
  expression : Option String := none
  skipped : Bool := false

/-- Reads one item of a field. -/
def FieldSettings.readItem (settings : FieldSettings) (item : Item) (isLast : Bool) :
    Except Fault FieldSettings :=
  match item.key with
  | "skip" => do
      item.form.nothing
      .ok { settings with skipped := true }
  | "column" => do
      let column ← item.form.text isLast
      if column.isEmpty then .error .emptyColumn
      else .ok { settings with column := some column }
  | "expr" => do
      let expression ← item.form.text isLast
      if expression.isEmpty then .error .emptyExpression
      else .ok { settings with expression := some expression }
  | _ => .error .unknownFieldKey

end BoundSql.Record
