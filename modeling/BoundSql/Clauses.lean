import BoundSql.ColumnMap
import BoundSql.Filter

/-!
What a statement says besides its table and its data: the condition, and the clauses that order,
limit or lock. Clauses are built by steps, each of which adds to one clause or replaces it.
-/

namespace BoundSql

/-- Which end of a sorted column comes first. -/
inductive Direction where
  | ascending : Direction
  | descending : Direction
  deriving DecidableEq

/-- A column to sort by, in its written form. -/
structure SortKey where
  column : String
  direction : Direction
  deriving DecidableEq

/-- The clauses of a statement. A clause that is `none`, empty or false is not written. -/
structure Clauses where
  filter : Filter := {}
  groupBy : List String := []
  orderBy : List SortKey := []
  limit : Option Nat := none
  offset : Option Nat := none
  forceIndex : Option String := none
  onDuplicateKey : Option Assignments := none
  forUpdate : Bool := false
  deriving BEq

/-- One step in building clauses. -/
inductive Step where
  | and (column : String) (predicate : Predicate)
  | or (column : String) (predicate : Predicate)
  /-- Adds the predicate if there is one. -/
  | andOptional (column : String) (predicate : Option Predicate)
  | orOptional (column : String) (predicate : Option Predicate)
  /-- Joins by AND a group of which one test has to hold. -/
  | andAnyOf (tests : Tests)
  /-- Joins by OR a group of which all tests have to hold. -/
  | orAllOf (tests : Tests)
  | andExists (table : String) (tests : Tests)
  | andNotExists (table : String) (tests : Tests)
  | orExists (table : String) (tests : Tests)
  | orNotExists (table : String) (tests : Tests)
  | groupBy (columns : List String)
  | orderBy (column : String) (direction : Direction)
  /-- A limit of zero takes the limit away. -/
  | limit (count : Nat)
  | offset (count : Nat)
  /-- The empty name takes the index away. -/
  | forceIndex (name : String)
  | onDuplicateKey (assignments : Assignments)
  | forUpdate

/-- The tests of a map as formulas that are joined by one connective. -/
def ColumnMap.formulas (tests : Tests) (connective : Connective) : List Formula :=
  tests.entries.map fun (column, predicate) => predicate.on connective column

namespace Clauses

/-- Adds a formula to the condition. -/
def add (clauses : Clauses) (formula : Formula) : Clauses :=
  { clauses with filter := clauses.filter.append formula }

/-- Adds a group whose members are joined by the opposite connective; no group without a member. -/
def addGroup (clauses : Clauses) (connective : Connective) (tests : Tests) : Clauses :=
  if tests.isEmpty then clauses
  else clauses.add (.group connective (tests.formulas connective.opposite))

/-- Adds a subquery whose tests all have to hold; none without a table or a test. -/
def addSubquery (clauses : Clauses) (connective : Connective) (negated : Bool) (table : String)
    (tests : Tests) : Clauses :=
  if table.isEmpty || tests.isEmpty then clauses
  else clauses.add (.subquery connective table (tests.formulas .and) negated)

/-- A count for which zero means that it is not limited. -/
def nonzero? (count : Nat) : Option Nat :=
  if count = 0 then none else some count

/-- Makes one step. -/
def step (clauses : Clauses) : Step → Clauses
  | .and column predicate => clauses.add (predicate.on .and column)
  | .or column predicate => clauses.add (predicate.on .or column)
  | .andOptional column predicate =>
      match predicate with
      | some predicate => clauses.add (predicate.on .and column)
      | none => clauses
  | .orOptional column predicate =>
      match predicate with
      | some predicate => clauses.add (predicate.on .or column)
      | none => clauses
  | .andAnyOf tests => clauses.addGroup .and tests
  | .orAllOf tests => clauses.addGroup .or tests
  | .andExists table tests => clauses.addSubquery .and false table tests
  | .andNotExists table tests => clauses.addSubquery .and true table tests
  | .orExists table tests => clauses.addSubquery .or false table tests
  | .orNotExists table tests => clauses.addSubquery .or true table tests
  | .groupBy columns => { clauses with groupBy := clauses.groupBy ++ columns }
  | .orderBy column direction =>
      { clauses with orderBy := clauses.orderBy ++ [⟨Identifier.quote column, direction⟩] }
  | .limit count => { clauses with limit := nonzero? count }
  | .offset count => { clauses with offset := nonzero? count }
  | .forceIndex name => { clauses with forceIndex := if name.isEmpty then none else some name }
  | .onDuplicateKey assignments => { clauses with onDuplicateKey := some assignments }
  | .forUpdate => { clauses with forUpdate := true }

/-- The clauses after some steps, made in order from none. -/
def ofSteps (steps : List Step) : Clauses :=
  steps.foldl step {}

/-- Whether there is a condition to be written. -/
def hasWhere (clauses : Clauses) : Bool :=
  !clauses.filter.isEmpty

end Clauses

end BoundSql
