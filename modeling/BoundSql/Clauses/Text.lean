import BoundSql.Clauses

/-!
The text of each clause. A clause that is not there has the empty text.
-/

namespace BoundSql

/-- Assignments as they stand after SET: each column with a placeholder for its value. -/
def writeAssignments (assignments : Assignments) : Binding String := do
  let texts ← assignments.entries.mapM fun (column, value) => do
    pure (Identifier.quote column ++ "=" ++ (← Binding.placeholder value))
  pure (", ".intercalate texts)

def writeSet (assignments : Assignments) : Binding String := do
  if assignments.isEmpty then pure "" else pure ("SET " ++ (← writeAssignments assignments))

def SortKey.text (key : SortKey) : String :=
  key.column ++ match key.direction with
    | .ascending => " ASC"
    | .descending => " DESC"

namespace Clauses

def forceIndexText (clauses : Clauses) : String :=
  match clauses.forceIndex with
  | none => ""
  | some name => "FORCE INDEX (" ++ Identifier.quote name ++ ")"

def writeWhere (clauses : Clauses) : Binding String := do
  let condition ← clauses.filter.write
  pure (if condition.isEmpty then "" else "WHERE " ++ condition)

def groupByText (clauses : Clauses) : String :=
  if clauses.groupBy.isEmpty then "" else "GROUP BY " ++ Identifier.quoteList clauses.groupBy

def orderByText (clauses : Clauses) : String :=
  if clauses.orderBy.isEmpty then ""
  else "ORDER BY " ++ ", ".intercalate (clauses.orderBy.map SortKey.text)

def limitText (clauses : Clauses) : String :=
  match clauses.limit with
  | none => ""
  | some count => "LIMIT " ++ count.repr

def offsetText (clauses : Clauses) : String :=
  match clauses.offset with
  | none => ""
  | some count => "OFFSET " ++ count.repr

/-- The assignments for a row that is there already. Without any there is no clause. -/
def writeOnDuplicateKey (clauses : Clauses) : Binding String := do
  match clauses.onDuplicateKey with
  | none => pure ""
  | some assignments =>
      if assignments.isEmpty then pure ""
      else pure ("ON DUPLICATE KEY UPDATE " ++ (← writeAssignments assignments))

def forUpdateText (clauses : Clauses) : String :=
  if clauses.forUpdate then "FOR UPDATE" else ""

end Clauses

/-- Texts after each other with a space before each clause; an empty clause adds nothing. -/
def appendClauses (head : String) (clauses : List String) : String :=
  clauses.foldl (fun sql clause => if clause.isEmpty then sql else sql ++ " " ++ clause) head

end BoundSql
