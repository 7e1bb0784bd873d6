import BoundSql.Log
import BoundSql.Proofs.ColumnMap.Equality
import BoundSql.Proofs.Filter.Growth
import BoundSql.Proofs.Formula.Readability
import BoundSql.Proofs.Identifier.Token
import BoundSql.Proofs.Identifier.WrittenForm
import BoundSql.Proofs.Predicate.Pattern
import BoundSql.Proofs.Log
import BoundSql.Proofs.Record.Columns
import BoundSql.Proofs.Record.EmptyColumns
import BoundSql.Proofs.Record.Refusal
import BoundSql.Proofs.Statement.Blindness
import BoundSql.Proofs.Statement.Condition
import BoundSql.Proofs.Statement.Confinement
import BoundSql.Proofs.Statement.Filling
import BoundSql.Proofs.Statement.Marks
import BoundSql.Proofs.Statement.Reading
import BoundSql.Proofs.Statement.Records
import BoundSql.Proofs.Formula.Simplification
import BoundSql.Proofs.Statement.Equality
import BoundSql.Proofs.Statement.Insertion
import BoundSql.Proofs.Statement.Topics
import BoundSql.Proofs.Statement.OwnTopics
