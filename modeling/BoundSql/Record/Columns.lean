import BoundSql.Record.Settings

/-!
The columns of a declared record type, in the order of its fields.
-/

namespace BoundSql.Record

/-- A field name without the mark of a raw identifier. -/
def bareName (name : String) : String :=
  match name.toList with
  | 'r' :: '#' :: rest => String.ofList rest
  | _ => name

/-- The column of a field, if it has one: its expression before its column, and for a field with
neither the name in the style of the type. -/
def FieldSettings.columnOf (settings : FieldSettings) (type : TypeSettings) (name : String) :
    Option String :=
  if settings.skipped then none
  else
    match settings.expression, settings.column with
    | some expression, _ => some expression
    | none, some column => some column
    | none, none =>
        if type.includeUntagged then
          some (match type.style with
            | some style => style.apply (bareName name)
            | none => bareName name)
        else none

/-- The columns of some fields. A field without a column is read all the same. -/
def fieldColumns (type : TypeSettings) : List Field → Except Fault (List String)
  | [] => .ok []
  | field :: rest => do
      let settings ← readAttributes FieldSettings.readItem {} field.attributes
      let columns ← fieldColumns type rest
      .ok ((settings.columnOf type field.name).toList ++ columns)

/-- The columns of a declaration, or the first fault in it. -/
def Declaration.columns (declaration : Declaration) : Except Fault (List String) :=
  match declaration.shape with
  | .enumeration | .union => .error .notAStructure
  | .tuple | .unit => .error .noNamedFields
  | .namedFields => do
      let type ← readAttributes TypeSettings.readItem {} declaration.attributes
      fieldColumns type declaration.fields

end BoundSql.Record
