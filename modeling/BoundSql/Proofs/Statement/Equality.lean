import BoundSql.Proofs.ColumnMap.Equality
import BoundSql.Proofs.Statement.Blindness
import BoundSql.Proofs.Statement.Records
import BoundSql.Proofs.Value.Equality

/-!
Calls with equal arguments, made on equal scopes. Their statements have the same text, because equal
data have one shape. Their parameters are equal, with one exception: the text of a pattern is made
from the display text of a value, and display texts tell the two zeros apart, which equality does
not. So statements may differ in a parameter where the operands of a pattern differ in the sign of a
zero, and nowhere else.
-/

namespace BoundSql

/-- The signs of the zeros in the operand of a pattern. No other zeros are turned into text. -/
def Predicate.patternZeros : Predicate → List Bool
  | .like value _ _ => value.zeroSigns
  | .compare _ _ | .between _ _ _ | .inList _ _ | .isNull _ => []

/-- For each test in the text of a condition, the signs of the zeros in its pattern. -/
def Filter.patternZeros (filter : Filter) : List (List Bool) :=
  filter.leaves.map fun (_, predicate) => predicate.patternZeros

/-- Calls of one kind with equal arguments. -/
inductive Call.Equal : Call → Call → Prop where
  | select (columns : List String) : Equal (.select columns) (.select columns)
  | selectRecord (columns : List String) : Equal (.selectRecord columns) (.selectRecord columns)
  | selectFor (columns : List String) (hasTarget : Bool) :
      Equal (.selectFor columns hasTarget) (.selectFor columns hasTarget)
  | update {assignments others : Option Assignments} (h : (assignments == others) = true) :
      Equal (.update assignments) (.update others)
  | delete : Equal .delete .delete
  | insert (columns : List String) {records others : List (List Value)}
      (h : (records == others) = true) : Equal (.insert columns records) (.insert columns others)

/-- Tasks of one form with equal data. -/
inductive Task.Equal : Task → Task → Prop where
  | nothing : Equal .nothing .nothing
  | select (columns : List String) : Equal (.select columns) (.select columns)
  | update {assignments others : Assignments} (h : (assignments == others) = true) :
      Equal (.update assignments) (.update others)
  | delete : Equal .delete .delete
  | insertRecords (columns : List String) {records others : List (List Value)}
      (h : (records == others) = true) :
      Equal (.insertRecords columns records) (.insertRecords columns others)
  | insertIf (columns : List String) {record other : List Value} (h : (record == other) = true) :
      Equal (.insertIf columns record) (.insertIf columns other)

/-- What may stand in the same place of two statements: equal values, or the texts of one pattern
around values that are equal, but in which the zeros have other signs. -/
inductive Value.Alike : Value → Value → Prop where
  | equal {v w : Value} (h : (v == w) = true) : Alike v w
  | pattern (wildcard : Wildcard) {v w : Value} (h : (v == w) = true)
      (hsigns : v.zeroSigns ≠ w.zeroSigns) :
      Alike (.text (wildcard.pattern v)) (.text (wildcard.pattern w))

/-- Lists of values that are equal, one by one. -/
theorem Value.map_blank_of_beq {values others : List Value} (h : (values == others) = true) :
    values.map Value.blank = others.map Value.blank := by
  induction beq_iff_forall₂.mp h with
  | nil => rfl
  | cons _ hrest ih =>
      rw [List.map_cons, List.map_cons, ih (beq_iff_forall₂.mpr hrest)]
      rfl

/-- Equal records have values in the same places. -/
theorem Value.map_blank_of_records {records others : List (List Value)}
    (h : (records == others) = true) :
    records.map (List.map Value.blank) = others.map (List.map Value.blank) := by
  induction beq_iff_forall₂.mp h with
  | nil => rfl
  | cons hrecord hrest ih =>
      rw [List.map_cons, List.map_cons, map_blank_of_beq hrecord, ih (beq_iff_forall₂.mpr hrest)]

/-- Values of equal records are equal one by one. -/
theorem forall₂_flatten {records others : List (List Value)} (h : (records == others) = true) :
    List.Forall₂ (fun v w => (v == w) = true) records.flatten others.flatten := by
  induction beq_iff_forall₂.mp h with
  | nil => exact .nil
  | cons hrecord hrest ih =>
      exact List.rel_append (beq_iff_forall₂.mp hrecord) (ih (beq_iff_forall₂.mpr hrest))

theorem isEmpty_eq_of_values {values others : List Value} (h : (values == others) = true) :
    values.isEmpty = others.isEmpty := by
  cases beq_iff_forall₂.mp h with
  | nil => rfl
  | cons _ _ => rfl

theorem any_isEmpty_eq_of_beq {records others : List (List Value)}
    (h : (records == others) = true) :
    records.any List.isEmpty = others.any List.isEmpty := by
  induction beq_iff_forall₂.mp h with
  | nil => rfl
  | cons hrecord hrest ih =>
      rw [List.any_cons, List.any_cons, isEmpty_eq_of_values hrecord,
        ih (beq_iff_forall₂.mpr hrest)]

/-- Equal values without a difference in signs make equal patterns. -/
theorem Wildcard.pattern_beq (wildcard : Wildcard) {v w : Value} (h : (v == w) = true)
    (hsigns : v.zeroSigns = w.zeroSigns) :
    (Value.text (wildcard.pattern v) == .text (wildcard.pattern w)) = true := by
  rw [(Value.sameUpToSigns_of_beq h).eq_of_signs hsigns]
  exact beq_self_eq_true (wildcard.pattern w)

theorem Wildcard.pattern_alike (wildcard : Wildcard) {v w : Value} (h : (v == w) = true) :
    Value.Alike (.text (wildcard.pattern v)) (.text (wildcard.pattern w)) := by
  by_cases hsigns : v.zeroSigns = w.zeroSigns
  · exact .equal (wildcard.pattern_beq h hsigns)
  · exact .pattern wildcard h hsigns

namespace Predicate

/-- The operands of equal predicates are related one by one, by any relation that holds of equal
values and of the texts of the two patterns, if the predicates have patterns. -/
theorem forall₂_operands {R : Value → Value → Prop} {p q : Predicate} (h : (p == q) = true)
    (hequal : ∀ v w : Value, (v == w) = true → R v w)
    (hpattern : ∀ (wildcard : Wildcard) (v w : Value), (v == w) = true →
      p.patternZeros = v.zeroSigns → q.patternZeros = w.zeroSigns →
        R (.text (wildcard.pattern v)) (.text (wildcard.pattern w))) :
    List.Forall₂ R p.operands q.operands := by
  cases p with
  | compare symbol v =>
      cases q with
      | compare symbol' w =>
          obtain ⟨_, hvalue⟩ := Bool.and_eq_true_iff.mp h
          exact .cons (hequal v w hvalue) .nil
      | _ => cases h
  | between lower upper negated =>
      cases q with
      | between lower' upper' negated' =>
          obtain ⟨hlower, hrest⟩ := Bool.and_eq_true_iff.mp h
          obtain ⟨hupper, _⟩ := Bool.and_eq_true_iff.mp hrest
          exact .cons (hequal _ _ hlower) (.cons (hequal _ _ hupper) .nil)
      | _ => cases h
  | inList values negated =>
      cases q with
      | inList values' negated' =>
          obtain ⟨hvalues, _⟩ := Bool.and_eq_true_iff.mp h
          exact (beq_iff_forall₂.mp hvalues).imp hequal
      | _ => cases h
  | like v wildcard negated =>
      cases q with
      | like w wildcard' negated' =>
          obtain ⟨hvalue, hrest⟩ := Bool.and_eq_true_iff.mp h
          obtain ⟨hwildcard, _⟩ := Bool.and_eq_true_iff.mp hrest
          obtain rfl := eq_of_beq hwildcard
          exact .cons (hpattern wildcard v w hvalue rfl rfl) .nil
      | _ => cases h
  | isNull negated =>
      cases q with
      | isNull negated' => exact .nil
      | _ => cases h

theorem alike_operands {p q : Predicate} (h : (p == q) = true) :
    List.Forall₂ Value.Alike p.operands q.operands := by
  apply forall₂_operands h
  · intro v w hvalue
    exact .equal hvalue
  · intro wildcard v w hvalue _ _
    exact wildcard.pattern_alike hvalue

/-- Operands are equal, not just alike, where the signs of the zeros in patterns agree as well. -/
theorem equal_operands {p q : Predicate} (h : (p == q) = true)
    (hzeros : p.patternZeros = q.patternZeros) :
    List.Forall₂ (fun v w => (v == w) = true) p.operands q.operands := by
  apply forall₂_operands h
  · intro v w hvalue
    exact hvalue
  · intro wildcard v w hvalue hv hw
    exact wildcard.pattern_beq hvalue (hv.symm.trans (hzeros.trans hw))

/-- Equal predicates have one shape. -/
theorem shape_eq_of_beq {p q : Predicate} (h : (p == q) = true) : p.shape = q.shape := by
  cases p with
  | compare symbol v =>
      cases q with
      | compare symbol' w =>
          obtain ⟨hsymbol, _⟩ := Bool.and_eq_true_iff.mp h
          rw [shape, shape, eq_of_beq hsymbol]
          rfl
      | _ => cases h
  | between lower upper negated =>
      cases q with
      | between lower' upper' negated' =>
          obtain ⟨_, hrest⟩ := Bool.and_eq_true_iff.mp h
          obtain ⟨_, hnegated⟩ := Bool.and_eq_true_iff.mp hrest
          rw [shape, shape, eq_of_beq hnegated]
          rfl
      | _ => cases h
  | inList values negated =>
      cases q with
      | inList values' negated' =>
          obtain ⟨hvalues, hnegated⟩ := Bool.and_eq_true_iff.mp h
          rw [shape, shape, eq_of_beq hnegated, Value.map_blank_of_beq hvalues]
      | _ => cases h
  | like v wildcard negated =>
      cases q with
      | like w wildcard' negated' =>
          obtain ⟨_, hrest⟩ := Bool.and_eq_true_iff.mp h
          obtain ⟨_, hnegated⟩ := Bool.and_eq_true_iff.mp hrest
          rw [shape, shape, eq_of_beq hnegated]
          rfl
      | _ => cases h
  | isNull negated =>
      cases q with
      | isNull negated' => rw [eq_of_beq (show (negated == negated') = true from h)]
      | _ => cases h

end Predicate

namespace Formula

mutual

/-- Equal formulas differ in their values at most. -/
theorem shape_eq_of_equal : ∀ {a b : Formula}, equal a b = true → a.shape = b.shape
  | .test _ _ _, b, h => by
      cases b with
      | test _ _ _ =>
          obtain ⟨hplace, hpredicate⟩ := Bool.and_eq_true_iff.mp h
          obtain ⟨hconnective, hcolumn⟩ := Bool.and_eq_true_iff.mp hplace
          rw [shape, shape, eq_of_beq hconnective, eq_of_beq hcolumn,
            Predicate.shape_eq_of_beq hpredicate]
      | _ => cases h
  | .group _ _, b, h => by
      cases b with
      | group _ _ =>
          obtain ⟨hconnective, hmembers⟩ := Bool.and_eq_true_iff.mp h
          rw [shape, shape, eq_of_beq hconnective, memberShapes_eq_of_equal hmembers]
      | _ => cases h
  | .subquery _ _ _ _, b, h => by
      cases b with
      | subquery _ _ _ _ =>
          obtain ⟨hrest, hnegated⟩ := Bool.and_eq_true_iff.mp h
          obtain ⟨hplace, hmembers⟩ := Bool.and_eq_true_iff.mp hrest
          obtain ⟨hconnective, htable⟩ := Bool.and_eq_true_iff.mp hplace
          rw [shape, shape, eq_of_beq hconnective, eq_of_beq htable, eq_of_beq hnegated,
            memberShapes_eq_of_equal hmembers]
      | _ => cases h

theorem memberShapes_eq_of_equal : ∀ {members others : List Formula},
    equalMembers members others = true → memberShapes members = memberShapes others
  | [], others, h => by
      cases others with
      | nil => rfl
      | cons _ _ => cases h
  | _ :: _, others, h => by
      cases others with
      | nil => cases h
      | cons _ _ =>
          obtain ⟨hformula, hrest⟩ := Bool.and_eq_true_iff.mp h
          rw [memberShapes, memberShapes, shape_eq_of_equal hformula,
            memberShapes_eq_of_equal hrest]

end

mutual

/-- Equal formulas have equal leaves, one by one. -/
theorem leaves_of_equal : ∀ {a b : Formula}, equal a b = true →
    List.Forall₂ (fun leaf other => (leaf.2 == other.2) = true) a.leaves b.leaves
  | .test _ _ _, b, h => by
      cases b with
      | test _ _ _ =>
          obtain ⟨_, hpredicate⟩ := Bool.and_eq_true_iff.mp h
          exact .cons hpredicate .nil
      | _ => cases h
  | .group _ _, b, h => by
      cases b with
      | group _ _ =>
          obtain ⟨_, hmembers⟩ := Bool.and_eq_true_iff.mp h
          exact memberLeaves_of_equal hmembers
      | _ => cases h
  | .subquery _ _ _ _, b, h => by
      cases b with
      | subquery _ _ _ _ =>
          obtain ⟨hrest, _⟩ := Bool.and_eq_true_iff.mp h
          obtain ⟨hplace, hmembers⟩ := Bool.and_eq_true_iff.mp hrest
          obtain ⟨_, htable⟩ := Bool.and_eq_true_iff.mp hplace
          rw [leaves, leaves, eq_of_beq htable]
          split
          · exact .nil
          · exact memberLeaves_of_equal hmembers
      | _ => cases h

theorem memberLeaves_of_equal : ∀ {members others : List Formula},
    equalMembers members others = true →
      List.Forall₂ (fun leaf other => (leaf.2 == other.2) = true) (memberLeaves members)
        (memberLeaves others)
  | [], others, h => by
      cases others with
      | nil => exact .nil
      | cons _ _ => cases h
  | _ :: _, others, h => by
      cases others with
      | nil => cases h
      | cons _ _ =>
          obtain ⟨hformula, hrest⟩ := Bool.and_eq_true_iff.mp h
          exact List.rel_append (leaves_of_equal hformula) (memberLeaves_of_equal hrest)

end

end Formula

namespace Filter

variable {filter other : Filter}

theorem equalMembers_of_beq (h : (filter == other) = true) :
    Formula.equalMembers filter.members other.members = true := by
  obtain ⟨members⟩ := filter
  obtain ⟨others⟩ := other
  change (members == others) = true at h
  induction beq_iff_forall₂.mp h with
  | nil => rfl
  | cons hformula hrest ih =>
      exact Bool.and_eq_true_iff.mpr ⟨hformula, ih (beq_iff_forall₂.mpr hrest)⟩

theorem shape_eq_of_beq (h : (filter == other) = true) : filter.shape = other.shape :=
  congrArg Filter.mk (Formula.memberShapes_eq_of_equal (equalMembers_of_beq h))

theorem alike_operands (h : (filter == other) = true) :
    List.Forall₂ Value.Alike filter.operands other.operands := by
  have hleaves := Formula.memberLeaves_of_equal (equalMembers_of_beq h)
  apply List.rel_flatMap hleaves
  intro leaf leaf' hleaf
  exact Predicate.alike_operands hleaf

theorem equal_operands (h : (filter == other) = true)
    (hzeros : filter.patternZeros = other.patternZeros) :
    List.Forall₂ (fun v w => (v == w) = true) filter.operands other.operands := by
  have hleaves := Formula.memberLeaves_of_equal (equalMembers_of_beq h)
  have hsigns : List.Forall₂ (fun leaf leaf' : String × Predicate =>
      leaf.2.patternZeros = leaf'.2.patternZeros) filter.leaves other.leaves := by
    rw [patternZeros, patternZeros, ← List.forall₂_eq_eq_eq, List.forall₂_map_left_iff,
      List.forall₂_map_right_iff] at hzeros
    exact hzeros
  -- Equality and signs are now both told leaf by leaf.
  have hboth := List.Forall₂.mp (fun _ _ hleaf hsign => And.intro hleaf hsign) hleaves hsigns
  apply List.rel_flatMap hboth
  intro leaf leaf' hleaf
  exact Predicate.equal_operands hleaf.1 hleaf.2

end Filter

namespace Assignments

variable {assignments others : Assignments}

theorem forall₂_entries (h : (assignments == others) = true) :
    List.Forall₂ (fun entry entry' => entry.1 = entry'.1 ∧ (entry.2 == entry'.2) = true)
      assignments.entries others.entries :=
  ColumnMap.beq_iff_sameEntries.mp h

theorem shape_eq_of_beq (h : (assignments == others) = true) :
    shape assignments = shape others := by
  have hentries := forall₂_entries h
  obtain ⟨entries⟩ := assignments
  obtain ⟨entries'⟩ := others
  apply congrArg ColumnMap.mk
  rw [← List.forall₂_eq_eq_eq, List.forall₂_map_left_iff, List.forall₂_map_right_iff]
  apply hentries.imp
  intro entry entry' hentry
  exact congrArg (·, Value.null) hentry.1

theorem isEmpty_eq_of_beq (h : (assignments == others) = true) :
    assignments.isEmpty = others.isEmpty := by
  have hshape : (shape assignments).isEmpty = (shape others).isEmpty := by rw [shape_eq_of_beq h]
  rwa [shape, shape, ColumnMap.isEmpty_map, ColumnMap.isEmpty_map] at hshape

theorem forall₂_assignedValues (h : (assignments == others) = true) :
    List.Forall₂ (fun v w => (v == w) = true) (assignedValues assignments)
      (assignedValues others) := by
  rw [assignedValues, assignedValues, List.forall₂_map_left_iff, List.forall₂_map_right_iff]
  exact (forall₂_entries h).imp fun _ _ hentry => hentry.2

/-- The same for assignments that may be missing. -/
theorem map_shape_eq_of_beq {assignments others : Option Assignments}
    (h : (assignments == others) = true) : assignments.map shape = others.map shape := by
  cases assignments with
  | none =>
      cases others with
      | none => rfl
      | some _ => cases h
  | some assignments =>
      cases others with
      | none => cases h
      | some others => exact congrArg some (shape_eq_of_beq h)

end Assignments

namespace Clauses

variable {clauses others : Clauses}

/-- Equal clauses differ at most in values. -/
theorem beq_iff :
    (clauses == others) = true ↔
      (clauses.filter == others.filter) = true ∧ clauses.groupBy = others.groupBy ∧
        clauses.orderBy = others.orderBy ∧ clauses.limit = others.limit ∧
        clauses.offset = others.offset ∧ clauses.forceIndex = others.forceIndex ∧
        (clauses.onDuplicateKey == others.onDuplicateKey) = true ∧
        clauses.forUpdate = others.forUpdate := by
  obtain ⟨filter, groupBy, orderBy, limit, offset, forceIndex, onDuplicateKey, forUpdate⟩ := clauses
  obtain ⟨filter', groupBy', orderBy', limit', offset', forceIndex', onDuplicateKey',
    forUpdate'⟩ := others
  change (_ && _) = true ↔ _
  simp only [Bool.and_eq_true, beq_iff_eq]

theorem shape_eq_of_beq (h : (clauses == others) = true) : clauses.shape = others.shape := by
  obtain ⟨hfilter, hgroupBy, horderBy, hlimit, hoffset, hforceIndex, honDuplicateKey, hforUpdate⟩ :=
    beq_iff.mp h
  rw [shape, shape, Filter.shape_eq_of_beq hfilter, hgroupBy, horderBy, hlimit, hoffset,
    hforceIndex, Assignments.map_shape_eq_of_beq honDuplicateKey, hforUpdate]

theorem forall₂_duplicateKeyValues (h : (clauses == others) = true) :
    List.Forall₂ (fun v w => (v == w) = true) clauses.duplicateKeyValues
      others.duplicateKeyValues := by
  obtain ⟨_, _, _, _, _, _, honDuplicateKey, _⟩ := beq_iff.mp h
  rw [duplicateKeyValues, duplicateKeyValues]
  cases hassignments : clauses.onDuplicateKey with
  | none =>
      rw [hassignments] at honDuplicateKey
      cases hothers : others.onDuplicateKey with
      | none => exact .nil
      | some _ =>
          rw [hothers] at honDuplicateKey
          cases honDuplicateKey
  | some assignments =>
      rw [hassignments] at honDuplicateKey
      cases hothers : others.onDuplicateKey with
      | none =>
          rw [hothers] at honDuplicateKey
          cases honDuplicateKey
      | some assignments' =>
          rw [hothers] at honDuplicateKey
          exact Assignments.forall₂_assignedValues honDuplicateKey

end Clauses

/-- Equal calls differ in their values at most. -/
theorem Call.shape_eq_of_equal {call call' : Call} (h : call.Equal call') :
    call.shape = call'.shape := by
  cases h with
  | select columns => rfl
  | selectRecord columns => rfl
  | selectFor columns hasTarget => rfl
  | update h => exact congrArg Call.update (Assignments.map_shape_eq_of_beq h)
  | delete => rfl
  | insert columns h => exact congrArg (Call.insert columns) (Value.map_blank_of_records h)

namespace Scope

variable {scope scope' : Scope}

theorem clauses_beq_of_beq (h : (scope == scope') = true) :
    (scope.clauses == scope'.clauses) = true :=
  (Bool.and_eq_true_iff.mp h).2

theorem shape_eq_of_beq (h : (scope == scope') = true) : scope.shape = scope'.shape := by
  obtain ⟨htable, hclauses⟩ := Bool.and_eq_true_iff.mp h
  rw [shape, shape, eq_of_beq htable, Clauses.shape_eq_of_beq hclauses]

theorem hasWhere_eq_of_beq (h : (scope == scope') = true) :
    scope.clauses.hasWhere = scope'.clauses.hasWhere := by
  rw [← scope.clauses.hasWhere_shape, ← scope'.clauses.hasWhere_shape,
    Clauses.shape_eq_of_beq (clauses_beq_of_beq h)]

/-- Both insertions are about all records, or both about the first, or both about none. -/
theorem insertTask_equal (h : (scope == scope') = true) (columns : List String)
    {records others : List (List Value)} (hrecords : (records == others) = true) :
    (scope.insertTask columns records).Equal (scope'.insertTask columns others) := by
  have hany := any_isEmpty_eq_of_beq hrecords
  cases records with
  | nil =>
      cases others with
      | nil => exact .nothing
      | cons _ _ => cases hrecords
  | cons first rest =>
      cases others with
      | nil => cases hrecords
      | cons first' rest' =>
          have hfirst : (first == first') = true := (Bool.and_eq_true_iff.mp hrecords).1
          rw [insertTask, insertTask, hasWhere_eq_of_beq h, hany, isEmpty_eq_of_values hfirst]
          split
          · exact .nothing
          · split
            · split
              · exact .nothing
              · exact .insertIf columns hfirst
            · split
              · exact .nothing
              · exact .insertRecords columns hrecords

/-- Equal calls on equal scopes come down to equal tasks. -/
theorem task_equal (h : (scope == scope') = true) {call call' : Call} (hcall : call.Equal call') :
    (scope.task call).Equal (scope'.task call') := by
  cases hcall with
  | select columns => exact .select columns
  | selectRecord columns => exact .select columns
  | selectFor columns hasTarget =>
      cases hasTarget with
      | true => exact .select columns
      | false => exact .nothing
  | @update assignments others hassignments =>
      cases assignments with
      | none =>
          cases others with
          | none => exact .nothing
          | some _ => cases hassignments
      | some assignments =>
          cases others with
          | none => cases hassignments
          | some others =>
              have hentries : (assignments == others) = true := hassignments
              rw [task, task, Assignments.isEmpty_eq_of_beq hentries]
              split
              · exact .nothing
              · exact .update hentries
  | delete => exact .delete
  | insert columns hrecords => exact insertTask_equal h columns hrecords

/-- What equal tasks bind is related one by one, if equal values are and the operands of the
conditions are. -/
theorem forall₂_operands {R : Value → Value → Prop} (h : (scope == scope') = true)
    (hequal : ∀ v w : Value, (v == w) = true → R v w)
    (hfilter : List.Forall₂ R scope.clauses.filter.operands scope'.clauses.filter.operands)
    {task task' : Task} (htask : task.Equal task') :
    List.Forall₂ R (scope.operands task) (scope'.operands task') := by
  cases htask with
  | nothing => exact .nil
  | select columns => exact hfilter
  | update hassignments =>
      exact List.rel_append ((Assignments.forall₂_assignedValues hassignments).imp hequal) hfilter
  | delete => exact hfilter
  | insertRecords columns hrecords =>
      have hduplicate := Clauses.forall₂_duplicateKeyValues (clauses_beq_of_beq h)
      exact List.rel_append ((forall₂_flatten hrecords).imp hequal) (hduplicate.imp hequal)
  | insertIf columns hrecord =>
      exact List.rel_append ((beq_iff_forall₂.mp hrecord).imp hequal) hfilter

end Scope

/-- Calls with equal arguments on equal scopes are answered with the same text and with as many
parameters. Parameters in the same place are equal, or they are the texts of a pattern around values
that are equal up to the signs of zeros. So the statements are equal unless the operands of a
pattern differ in the sign of a zero. -/
theorem statements_of_equal_scopes {scope scope' : Scope} (hscope : (scope == scope') = true)
    {call call' : Call} (hcall : call.Equal call') :
    let statement := scope.statement call
    let statement' := scope'.statement call'
    statement.sql = statement'.sql ∧
      List.Forall₂ Value.Alike statement.params statement'.params ∧
      (scope.clauses.filter.patternZeros = scope'.clauses.filter.patternZeros →
        (statement == statement') = true) := by
  intro statement statement'
  have hfilter : (scope.clauses.filter == scope'.clauses.filter) = true :=
    (Clauses.beq_iff.mp (Scope.clauses_beq_of_beq hscope)).1
  have htask := Scope.task_equal hscope hcall
  have hparams : statement.params = scope.operands (scope.task call) := by
    unfold statement
    rw [scope.statement_eq]
  have hparams' : statement'.params = scope'.operands (scope'.task call') := by
    unfold statement'
    rw [scope'.statement_eq]
  have hsql : statement.sql = statement'.sql := by
    unfold statement statement'
    -- Equal data may differ in values, which a shape does not have.
    rw [← scope.sql_statement_shape, ← scope'.sql_statement_shape, Scope.shape_eq_of_beq hscope,
      Call.shape_eq_of_equal hcall]
  refine ⟨hsql, ?_, ?_⟩
  · rw [hparams, hparams']
    apply Scope.forall₂_operands hscope _ (Filter.alike_operands hfilter) htask
    intro v w hvalue
    exact .equal hvalue
  · intro hzeros
    rw [Statement.beq_iff, hparams, hparams', beq_iff_forall₂]
    refine ⟨hsql, ?_⟩
    apply Scope.forall₂_operands hscope _ (Filter.equal_operands hfilter hzeros) htask
    intro v w hvalue
    exact hvalue

/-- Zeros of other signs in a comparison and among the values that are set, but not in the
pattern. -/
theorem equal_statements_of_update_with_zeros :
    let steps (zero : Float) : List Step :=
      [.and "price" (.eq (.float zero)), .or "note" (.like (.float 0.5) .suffixed false)]
    let scope : Scope := { table := "item", clauses := .ofSteps (steps 0.0) }
    let scope' : Scope := { table := "item", clauses := .ofSteps (steps (-0.0)) }
    let call : Call := .update (some (.ofPairs [("data", .json (.array [.float 0.0]))]))
    let call' : Call := .update (some (.ofPairs [("data", .json (.array [.float (-0.0)]))]))
    ((scope == scope') = true ∧ call.Equal call' ∧
      scope.clauses.filter.patternZeros = scope'.clauses.filter.patternZeros) ∧
      (scope.statement call == scope'.statement call') = true := by
  intro steps scope scope' call call'
  have hscope : (scope == scope') = true := by decide +kernel
  have hcall : call.Equal call' := .update (by decide +kernel)
  have hzeros : scope.clauses.filter.patternZeros = scope'.clauses.filter.patternZeros := by
    decide +kernel
  exact ⟨⟨hscope, hcall, hzeros⟩, (statements_of_equal_scopes hscope hcall).2.2 hzeros⟩

/-- The text of a pattern tells the two zeros apart. -/
theorem unequal_statements_of_patterns_of_zeros :
    let scope (zero : Float) : Scope :=
      { table := "t", clauses := .ofSteps [.and "a" (.like (.float zero) .contains false)] }
    (scope 0.0 == scope (-0.0)) = true ∧
      ((scope 0.0).statement .delete == (scope (-0.0)).statement .delete) = false := by
  decide +kernel

end BoundSql
