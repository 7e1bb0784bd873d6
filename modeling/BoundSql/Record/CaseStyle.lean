import BoundSql.Text.Case
import BoundSql.Text.Words

/-!
The styles in which field names are turned into column names.
-/

namespace BoundSql.Record

open Text

inductive CaseStyle where
  | lowercase : CaseStyle
  | uppercase : CaseStyle
  | snake : CaseStyle
  | camel : CaseStyle
  | pascal : CaseStyle
  | screamingSnake : CaseStyle
  | kebab : CaseStyle
  deriving DecidableEq

/-- The style that a rule names; each rule is written in its own style. -/
def CaseStyle.ofRule? (rule : String) : Option CaseStyle :=
  match rule with
  | "lowercase" => some .lowercase
  | "UPPERCASE" => some .uppercase
  | "snake_case" => some .snake
  | "camelCase" => some .camel
  | "PascalCase" => some .pascal
  | "SCREAMING_SNAKE_CASE" => some .screamingSnake
  | "kebab-case" => some .kebab
  | _ => none

/-- Words, each in the form that a function gives it, with a separator between them. -/
def joinWords (separator : List Char) (form : List Char → List Char) (name : String) : String :=
  String.ofList (separator.intercalate ((words name).map form))

/-- A name in a style. The first two styles keep all its characters, the others its words only. -/
def CaseStyle.apply (style : CaseStyle) (name : String) : String :=
  match style with
  | .lowercase => lowerText name
  | .uppercase => upperText name
  | .snake => joinWords ['_'] lowerWord name
  | .screamingSnake => joinWords ['_'] upperWord name
  | .kebab => joinWords ['-'] lowerWord name
  | .pascal => joinWords [] capitalWord name
  | .camel =>
      match words name with
      | [] => ""
      | first :: rest => String.ofList (lowerWord first ++ rest.flatMap capitalWord)

end BoundSql.Record
