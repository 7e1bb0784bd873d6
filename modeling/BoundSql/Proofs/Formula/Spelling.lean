import BoundSql.Filter
import BoundSql.Proofs.Text.Trim

/-!
The text of a predicate tree, built from the tree alone. Writing a tree renders the members of a
group, joins the texts and cuts off the first connective again; here no text is ever looked at a
second time. The main statement is that both agree for every tree and whatever has been bound
before: the text is the same, and the operands of the tests that leave a trace in it are bound, in
order, after the values that were bound already.

The text is a function of how a value is spelled, so that the same definition also serves for
texts with the values in the place of their marks.
-/

namespace BoundSql

/-- The spelling of every value in a statement. -/
def Value.mark (_ : Value) : String := "?"

@[simp]
theorem Value.toList_mark (value : Value) : value.mark.toList = ['?'] := by
  rw [mark]
  rfl

/-- A list of values is written as marks, and the values are bound in their order. -/
theorem Binding.run_placeholders_mark (values bound : List Value) :
    (placeholders values).run bound =
      (",".intercalate (values.map Value.mark), bound ++ values) := by
  have hmarks : List.replicate values.length "?" = values.map Value.mark :=
    List.map_const'.symm
  rw [run_placeholders, hmarks]

namespace Predicate

/-- The text of a predicate on a column with its operands spelled out. -/
def spelled (spell : Value → String) (column : String) : Predicate → String
  | .compare symbol value => Identifier.quote column ++ symbol ++ spell value
  | .between lower upper negated =>
      Identifier.quote column ++ " " ++ negation negated ++ "BETWEEN " ++ spell lower ++ " AND " ++
        spell upper
  | .inList values negated =>
      Identifier.quote column ++ " " ++ negation negated ++ "IN (" ++
        ",".intercalate (values.map spell) ++ ")"
  | .like value wildcard negated =>
      Identifier.quote column ++ " " ++ negation negated ++ "LIKE " ++
        spell (.text (wildcard.pattern value))
  | .isNull negated => Identifier.quote column ++ " IS " ++ negation negated ++ "NULL"

/-- The values that a predicate binds. Of a pattern, this is its text. -/
def operands : Predicate → List Value
  | .compare _ value => [value]
  | .between lower upper _ => [lower, upper]
  | .inList values _ => values
  | .like value wildcard _ => [.text (wildcard.pattern value)]
  | .isNull _ => []

/-- The symbols of the comparisons that SQL knows. -/
def comparisonSymbols : List String := ["=", "!=", ">", ">=", "<", "<="]

/-- The symbol of a comparison; other predicates have none. -/
def symbols : Predicate → List String
  | .compare symbol _ => [symbol]
  | _ => []

/-- Writing a predicate writes it with marks and binds its operands after what is bound already. -/
theorem run_write (predicate : Predicate) (column : String) (bound : List Value) :
    (predicate.write column).run bound =
      (predicate.spelled Value.mark column, bound ++ predicate.operands) := by
  cases predicate with
  | compare symbol value => rfl
  | between lower upper negated =>
      have hbound : bound ++ [lower] ++ [upper] = bound ++ [lower, upper] := by simp
      rw [write, run_bind, Binding.run_placeholder, run_bind,
        Binding.run_placeholder, hbound]
      rfl
  | inList values negated =>
      rw [write, run_bind, Binding.run_placeholders_mark]
      rfl
  | like value wildcard negated => rfl
  | isNull negated =>
      rw [operands, List.append_nil]
      rfl

/-- The characters that the text of a test ends in: those of a mark, a list and a check for null. -/
def closings : List Char := ['?', ')', 'L']

theorem endsSolid_of_endsIn_closings {text : String} (h : Text.EndsIn closings text) :
    Text.EndsSolid text :=
  h.endsSolid (by decide)

theorem mark_endsIn (value : Value) : Text.EndsIn closings value.mark :=
  ⟨'?', by decide, by rw [Value.toList_mark]; rfl⟩

/-- However a predicate is made, its text ends with a mark, a parenthesis or the word NULL. -/
theorem spelled_mark_endsIn (predicate : Predicate) (column : String) :
    Text.EndsIn closings (predicate.spelled Value.mark column) := by
  cases predicate with
  | compare symbol value => exact Text.endsIn_append _ (mark_endsIn _)
  | between lower upper negated => exact Text.endsIn_append _ (mark_endsIn _)
  | inList values negated => exact Text.endsIn_append _ ⟨')', by decide, rfl⟩
  | like value wildcard negated => exact Text.endsIn_append _ (mark_endsIn _)
  | isNull negated => exact Text.endsIn_append _ ⟨'L', by decide, rfl⟩

end Predicate

/-- Each text after its connective, with a space before both. -/
def continued : List (Connective × String) → String
  | [] => ""
  | (connective, text) :: rest => " " ++ connective.text ++ " " ++ text ++ continued rest

/-- Texts joined by their connectives. That of the first has nothing to join and is left out. -/
def joined : List (Connective × String) → String
  | [] => ""
  | (_, first) :: rest => first ++ continued rest

namespace Formula

mutual

/-- The tests of a formula that leave a trace in its text, each with its column. Those of a subquery
without a table do not. -/
def leaves : Formula → List (String × Predicate)
  | .test _ column predicate => [(column, predicate)]
  | .group _ members => memberLeaves members
  | .subquery _ table members _ => if table.isEmpty then [] else memberLeaves members

def memberLeaves : List Formula → List (String × Predicate)
  | [] => []
  | formula :: rest => formula.leaves ++ memberLeaves rest

end

/-- A subquery without a table has no tests, whatever its members are. -/
theorem leaves_subquery_without_table {table : String} (htable : table.isEmpty = true)
    (connective : Connective) (members : List Formula) (negated : Bool) :
    (subquery connective table members negated).leaves = [] := by
  rw [leaves, if_pos htable]

theorem leaves_subquery {table : String} (htable : table.isEmpty = false)
    (connective : Connective) (members : List Formula) (negated : Bool) :
    (subquery connective table members negated).leaves = memberLeaves members := by
  rw [leaves, if_neg (by simp [htable])]

mutual

/-- A formula is empty just when it has no leaf. -/
theorem isEmpty_eq_isEmpty_leaves : ∀ formula : Formula, formula.isEmpty = formula.leaves.isEmpty
  | .test _ _ _ => rfl
  | .group _ members => allEmpty_eq_isEmpty_memberLeaves members
  | .subquery _ table members _ => by
      rw [isEmpty, leaves, allEmpty_eq_isEmpty_memberLeaves members]
      cases table.isEmpty <;> rfl

/-- To be empty is to have no tests, in members as in a single formula. -/
theorem allEmpty_eq_isEmpty_memberLeaves : ∀ members : List Formula,
    allEmpty members = (memberLeaves members).isEmpty
  | [] => rfl
  | formula :: rest => by
      rw [allEmpty, memberLeaves, isEmpty_eq_isEmpty_leaves formula,
        allEmpty_eq_isEmpty_memberLeaves rest]
      cases formula.leaves <;> rfl

end

mutual

/-- The columns and tables in the text of a formula, each as often as it is written and in the order
of the text. -/
def names : Formula → List String
  | .test _ column _ => [column]
  | .group _ members => memberNames members
  | .subquery _ table members _ =>
      if table.isEmpty || (memberLeaves members).isEmpty then [] else table :: memberNames members

def memberNames : List Formula → List String
  | [] => []
  | formula :: rest => formula.names ++ memberNames rest

end

theorem names_subquery {table : String} (htable : table.isEmpty = false) {members : List Formula}
    (hmembers : memberLeaves members ≠ []) (connective : Connective) (negated : Bool) :
    (subquery connective table members negated).names = table :: memberNames members := by
  simp [names, htable, hmembers]

/-- The values that a formula binds, in the order of its leaves. -/
def operands (formula : Formula) : List Value :=
  formula.leaves.flatMap fun (_, predicate) => predicate.operands

def memberOperands (members : List Formula) : List Value :=
  (memberLeaves members).flatMap fun (_, predicate) => predicate.operands

mutual

/-- The text of a formula that has a leaf, without its connective. A group of which one member is
left is that member; more of them stand in parentheses. -/
def body (spell : Value → String) : Formula → String
  | .test _ column predicate => predicate.spelled spell column
  | .group _ members =>
      match survivors spell members with
      | [] => ""
      | [(_, only)] => only
      | several => "(" ++ joined several ++ ")"
  | .subquery _ table members negated =>
      negation negated ++ "EXISTS (SELECT * FROM " ++ Identifier.quote table ++ " WHERE " ++
        joined (survivors spell members) ++ ")"

/-- The members that have a leaf: the connective of each, and its text. -/
def survivors (spell : Value → String) : List Formula → List (Connective × String)
  | [] => []
  | formula :: rest =>
      if formula.leaves.isEmpty then survivors spell rest
      else (formula.connective, formula.body spell) :: survivors spell rest

end

/-- Some member is written just when there is a test. -/
theorem survivors_eq_nil_iff (spell : Value → String) (members : List Formula) :
    survivors spell members = [] ↔ memberLeaves members = [] := by
  induction members with
  | nil => simp [survivors, memberLeaves]
  | cons formula rest ih =>
      by_cases hleaves : formula.leaves = []
      · simp [survivors, memberLeaves, hleaves, ih]
      · simp [survivors, memberLeaves, hleaves]

theorem survivors_cons_of_leaves_eq_nil (spell : Value → String) {formula : Formula}
    {rest : List Formula} (hleaves : formula.leaves = []) :
    survivors spell (formula :: rest) = survivors spell rest := by
  rw [survivors, if_pos (by simp [hleaves])]

theorem survivors_cons_of_leaves_ne_nil (spell : Value → String) {formula : Formula}
    {rest : List Formula} (hleaves : formula.leaves ≠ []) :
    survivors spell (formula :: rest) =
      (formula.connective, formula.body spell) :: survivors spell rest := by
  rw [survivors, if_neg (by simpa using hleaves)]

/-- Which members survive does not hang on how values are spelled. -/
theorem length_survivors (spell other : Value → String) (members : List Formula) :
    (survivors spell members).length = (survivors other members).length := by
  induction members with
  | nil => rfl
  | cons formula rest ih =>
      by_cases hleaves : formula.leaves = []
      · rw [survivors_cons_of_leaves_eq_nil _ hleaves, survivors_cons_of_leaves_eq_nil _ hleaves,
          ih]
      · rw [survivors_cons_of_leaves_ne_nil _ hleaves, survivors_cons_of_leaves_ne_nil _ hleaves,
          List.length_cons, List.length_cons, ih]

theorem body_group (spell : Value → String) (connective : Connective) (members : List Formula) :
    (group connective members).body spell =
      if (survivors spell members).length ≤ 1 then joined (survivors spell members)
      else "(" ++ joined (survivors spell members) ++ ")" := by
  rw [body]
  match survivors spell members with
  | [] => rfl
  | [(_, only)] => simp [joined, continued]
  | _ :: _ :: _ => simp

theorem memberOperands_cons (formula : Formula) (rest : List Formula) :
    memberOperands (formula :: rest) = formula.operands ++ memberOperands rest :=
  List.flatMap_append

theorem operands_of_leaves_eq_nil {formula : Formula} (hleaves : formula.leaves = []) :
    formula.operands = [] := by
  rw [operands, hleaves, List.flatMap_nil]

/-- The text of a formula with its connective in front, or nothing for one without a leaf. -/
def fragment (spell : Value → String) (formula : Formula) : String :=
  if formula.leaves.isEmpty then ""
  else formula.connective.text ++ " " ++ formula.body spell

end Formula

namespace Filter

def spelled (spell : Value → String) (filter : Filter) : String :=
  joined (Formula.survivors spell filter.members)

def leaves (filter : Filter) : List (String × Predicate) :=
  Formula.memberLeaves filter.members

def operands (filter : Filter) : List Value :=
  Formula.memberOperands filter.members

def names (filter : Filter) : List String :=
  Formula.memberNames filter.members

/-- The symbols of the comparisons in the text of a condition. -/
def symbols (filter : Filter) : List String :=
  filter.leaves.flatMap fun (_, predicate) => predicate.symbols

theorem forall_mem_symbols {filter : Filter} {P : String → Prop} :
    (∀ symbol ∈ filter.symbols, P symbol) ↔
      ∀ leaf ∈ filter.leaves, ∀ symbol ∈ leaf.2.symbols, P symbol :=
  List.forall_mem_flatMap

theorem isEmpty_eq_isEmpty_leaves (filter : Filter) : filter.isEmpty = filter.leaves.isEmpty :=
  Formula.allEmpty_eq_isEmpty_memberLeaves filter.members

end Filter

/-- A connective can be taken off the front of a text. -/
theorem Connective.text_isKeyword (connective : Connective) :
    Text.IsKeyword connective.text := by
  cases connective with
  | and => exact ⟨'A', ['N', 'D'], rfl, rfl, by decide⟩
  | or => exact ⟨'O', ['R'], rfl, rfl, by decide⟩
  | unknown => exact ⟨'u', "nknown-operator".toList, rfl, rfl, by decide⟩

/-- A text after its connective. -/
def withConnective (part : Connective × String) : String :=
  part.1.text ++ " " ++ part.2

private theorem intercalate_withConnective (part : Connective × String)
    (rest : List (Connective × String)) :
    " ".intercalate ((part :: rest).map withConnective) =
      withConnective part ++ continued rest := by
  induction rest generalizing part with
  | nil => simp [continued]
  | cons next rest ih =>
      rw [List.map_cons, List.map_cons, String.intercalate_cons_cons, ← List.map_cons, ih next]
      simp [continued, withConnective, String.append_assoc]

/-- What is joined ends like its last part. -/
theorem joined_endsIn {closings : List Char} {parts : List (Connective × String)} (hne : parts ≠ [])
    (hclosed : ∀ part ∈ parts, Text.EndsIn closings part.2) :
    Text.EndsIn closings (joined parts) := by
  obtain ⟨⟨connective, first⟩, rest, rfl⟩ := List.exists_cons_of_ne_nil hne
  have hcontinued (front : String) (hfront : Text.EndsIn closings front) :
      Text.EndsIn closings (front ++ continued rest) := by
    have hrest : ∀ part ∈ rest, Text.EndsIn closings part.2 := fun part hpart =>
      hclosed part (List.mem_cons_of_mem _ hpart)
    clear hclosed hne
    induction rest generalizing front with
    | nil => simpa [continued] using hfront
    | cons next rest ih =>
        have hnext : Text.EndsIn closings next.2 := hrest next List.mem_cons_self
        have hstep := ih (front ++ (" " ++ next.1.text ++ " " ++ next.2))
          (Text.endsIn_append _ (Text.endsIn_append _ hnext))
          (fun part hpart => hrest part (List.mem_cons_of_mem _ hpart))
        rw [continued, ← String.append_assoc]
        exact hstep
  exact hcontinued first (hclosed (connective, first) List.mem_cons_self)

/-- Joining whole fragments and cutting off the first word removes the first connective and nothing
else. -/
theorem joinMembers_withConnective {parts : List (Connective × String)} (hne : parts ≠ [])
    (hclosed : ∀ part ∈ parts, Text.EndsIn Predicate.closings part.2) :
    joinMembers (parts.map withConnective) = joined parts := by
  have hend : Text.EndsSolid (joined parts) :=
    Predicate.endsSolid_of_endsIn_closings (joined_endsIn hne hclosed)
  obtain ⟨⟨connective, first⟩, rest, rfl⟩ := List.exists_cons_of_ne_nil hne
  have htext : " ".intercalate (((connective, first) :: rest).map withConnective) =
      connective.text ++ " " ++ joined ((connective, first) :: rest) := by
    rw [intercalate_withConnective, withConnective, joined, String.append_assoc]
  rw [joinMembers, htext, Text.dropFirstWord_keyword connective.text_isKeyword hend]

namespace Formula

mutual

/-- The text of a formula ends like that of a test, or with a parenthesis. -/
theorem body_endsIn : ∀ formula : Formula, formula.leaves ≠ [] →
    Text.EndsIn Predicate.closings (formula.body Value.mark)
  | .test _ column predicate, _ => predicate.spelled_mark_endsIn column
  | .group _ members, hleaves => by
      have hsurvivors := (survivors_eq_nil_iff Value.mark members).not.mpr hleaves
      have hclosed := survivors_endsIn members
      rw [body]
      match hparts : survivors Value.mark members with
      | [] => exact absurd hparts hsurvivors
      | [part] => exact hclosed part (by rw [hparts]; exact List.mem_singleton_self part)
      | _ :: _ :: _ => exact Text.endsIn_append _ ⟨')', by decide, rfl⟩
  | .subquery _ _ _ _, _ => Text.endsIn_append _ ⟨')', by decide, rfl⟩

theorem survivors_endsIn : ∀ members : List Formula,
    ∀ part ∈ survivors Value.mark members, Text.EndsIn Predicate.closings part.2
  | [], part, hpart => by cases hpart
  | formula :: rest, part, hpart => by
      rw [survivors] at hpart
      split at hpart
      · exact survivors_endsIn rest part hpart
      · rename_i hleaves
        rcases List.mem_cons.mp hpart with rfl | htail
        · exact body_endsIn formula (by simpa using hleaves)
        · exact survivors_endsIn rest part htail

end

theorem fragment_of_leaves_ne_nil (spell : Value → String) {formula : Formula}
    (hleaves : formula.leaves ≠ []) :
    formula.fragment spell = formula.connective.text ++ " " ++ formula.body spell := by
  rw [fragment, if_neg (by simpa using hleaves)]

theorem fragment_of_leaves_eq_nil (spell : Value → String) {formula : Formula}
    (hleaves : formula.leaves = []) : formula.fragment spell = "" := by
  rw [fragment, if_pos (by simpa using hleaves)]

/-- What writing some members comes to: the text of each survivor after its connective, and the
operands of all. -/
def MembersWritten (members : List Formula) (bound : List Value) : Prop :=
  (writeMembers members).run bound =
    ((survivors Value.mark members).map withConnective, bound ++ memberOperands members)

theorem run_write_test (connective : Connective) (column : String) (predicate : Predicate)
    (bound : List Value) :
    (test connective column predicate).write.run bound =
      ((test connective column predicate).fragment Value.mark,
        bound ++ (test connective column predicate).operands) := by
  have hoperands : (test connective column predicate).operands = predicate.operands := by
    simp [operands, leaves]
  rw [write, run_bind, predicate.run_write, hoperands]
  rfl

/-- A group writes its members and puts them in parentheses, unless only one of them has a text. -/
theorem run_write_group (connective : Connective) {members : List Formula} {bound : List Value}
    (hwritten : MembersWritten members bound) :
    (group connective members).write.run bound =
      ((group connective members).fragment Value.mark,
        bound ++ (group connective members).operands) := by
  have hoperands : (group connective members).operands = memberOperands members := rfl
  have hempty : (group connective members).leaves = [] ↔ survivors Value.mark members = [] :=
    (survivors_eq_nil_iff Value.mark members).symm
  have hclosed := survivors_endsIn members
  rw [write, run_bind, hwritten, hoperands]
  match hparts : survivors Value.mark members with
  | [] =>
      rw [fragment_of_leaves_eq_nil _ (hempty.mpr hparts)]
      rfl
  | [part] =>
      -- A single fragment is not joined, only its connective is cut off.
      have hpart : Text.dropFirstWord (withConnective part) = part.2 := by
        apply Text.dropFirstWord_keyword part.1.text_isKeyword
        apply Predicate.endsSolid_of_endsIn_closings
        apply hclosed
        simp [hparts]
      rw [fragment_of_leaves_ne_nil _ (hempty.not.mpr (by simp [hparts])), body, hparts]
      change (connective.text ++ " " ++ Text.dropFirstWord (withConnective part), _) = _
      rw [hpart]
      rfl
  | first :: second :: rest =>
      have hne : survivors Value.mark members ≠ [] := by simp [hparts]
      have hjoined := joinMembers_withConnective hne hclosed
      rw [fragment_of_leaves_ne_nil _ (hempty.not.mpr hne), body]
      rw [hparts] at hjoined ⊢
      change (connective.text ++ " (" ++
        joinMembers ((first :: second :: rest).map withConnective) ++ ")", _) =
          (connective.text ++ " " ++ ("(" ++ joined (first :: second :: rest) ++ ")"), _)
      have hopen : connective.text ++ " (" = connective.text ++ " " ++ "(" := by
        rw [String.append_assoc]
        rfl
      rw [hjoined, hopen]
      simp only [String.append_assoc]

/-- A subquery writes its members behind its table, or nothing where there is no table. -/
theorem run_write_subquery (connective : Connective) (table : String) {members : List Formula}
    (negated : Bool) {bound : List Value} (hwritten : MembersWritten members bound) :
    (subquery connective table members negated).write.run bound =
      ((subquery connective table members negated).fragment Value.mark,
        bound ++ (subquery connective table members negated).operands) := by
  cases htable : table.isEmpty with
  | true =>
      have hleaves := leaves_subquery_without_table htable connective members negated
      rw [write, if_pos htable, fragment_of_leaves_eq_nil _ hleaves,
        operands_of_leaves_eq_nil hleaves, List.append_nil]
      rfl
  | false =>
      have hleaves := leaves_subquery htable connective members negated
      have hempty := survivors_eq_nil_iff Value.mark members
      rw [← hleaves] at hempty
      have hoperands : (subquery connective table members negated).operands =
          memberOperands members := by rw [operands, hleaves, memberOperands]
      rw [write, if_neg (by simp [htable]), run_bind, hwritten, hoperands]
      match hparts : survivors Value.mark members with
      | [] =>
          rw [fragment_of_leaves_eq_nil _ (hempty.mp hparts)]
          rfl
      | first :: rest =>
          have hne : survivors Value.mark members ≠ [] := by simp [hparts]
          have hjoined := joinMembers_withConnective hne (survivors_endsIn members)
          rw [fragment_of_leaves_ne_nil _ (hempty.not.mp hne), body]
          rw [hparts] at hjoined ⊢
          change (connective.text ++ " " ++ negation negated ++ "EXISTS (SELECT * FROM " ++
            Identifier.quote table ++ " WHERE " ++
              joinMembers ((first :: rest).map withConnective) ++ ")", _) =
            (connective.text ++ " " ++ (negation negated ++ "EXISTS (SELECT * FROM " ++
              Identifier.quote table ++ " WHERE " ++ joined (first :: rest) ++ ")"), _)
          rw [hjoined]
          simp only [String.append_assoc]

theorem membersWritten_cons {formula : Formula} {rest : List Formula} {bound : List Value}
    (hformula : formula.write.run bound =
      (formula.fragment Value.mark, bound ++ formula.operands))
    (hrest : MembersWritten rest (bound ++ formula.operands)) :
    MembersWritten (formula :: rest) bound := by
  unfold MembersWritten
  rw [writeMembers, run_bind, hformula, run_bind, hrest, memberOperands_cons,
    ← List.append_assoc]
  by_cases hleaves : formula.leaves = []
  · rw [fragment_of_leaves_eq_nil _ hleaves, survivors_cons_of_leaves_eq_nil _ hleaves]
    rfl
  · have htext : (formula.connective.text ++ " " ++ formula.body Value.mark).isEmpty = false := by
      simp
    rw [fragment_of_leaves_ne_nil _ hleaves, survivors_cons_of_leaves_ne_nil _ hleaves]
    change (if (formula.connective.text ++ " " ++ formula.body Value.mark).isEmpty = true then _
      else _, _) = _
    rw [htext]
    rfl

mutual

/-- Writing a formula gives its fragment and binds its operands, whatever was bound before. -/
theorem run_write : ∀ (formula : Formula) (bound : List Value),
    formula.write.run bound = (formula.fragment Value.mark, bound ++ formula.operands)
  | .test connective column predicate, bound => run_write_test connective column predicate bound
  | .group connective members, bound =>
      run_write_group connective (membersWritten members bound)
  | .subquery connective table members negated, bound =>
      run_write_subquery connective table negated (membersWritten members bound)

theorem membersWritten : ∀ (members : List Formula) (bound : List Value),
    MembersWritten members bound
  | [], bound => by
      unfold MembersWritten
      rw [memberOperands, memberLeaves, List.flatMap_nil, List.append_nil]
      rfl
  | formula :: rest, bound =>
      membersWritten_cons (run_write formula bound)
        (membersWritten rest (bound ++ formula.operands))

end

end Formula

/-- Writing a condition gives the joined texts of its members and binds their operands. -/
theorem Filter.run_write (filter : Filter) (bound : List Value) :
    filter.write.run bound = (filter.spelled Value.mark, bound ++ filter.operands) := by
  have hclosed := Formula.survivors_endsIn filter.members
  rw [write, run_bind, Formula.membersWritten filter.members bound, spelled, operands]
  match hparts : Formula.survivors Value.mark filter.members with
  | [] => rfl
  | first :: rest =>
      rw [hparts] at hclosed
      have hjoined := joinMembers_withConnective (List.cons_ne_nil first rest) hclosed
      change (joinMembers ((first :: rest).map withConnective), _) = _
      rw [hjoined]

theorem Filter.spelled_mark_endsIn {filter : Filter} (hleaves : filter.leaves ≠ []) :
    Text.EndsIn Predicate.closings (filter.spelled Value.mark) := by
  have hne : Formula.survivors Value.mark filter.members ≠ [] :=
    (Formula.survivors_eq_nil_iff Value.mark filter.members).not.mpr hleaves
  exact joined_endsIn hne (Formula.survivors_endsIn filter.members)

theorem Filter.spelled_of_leaves_eq_nil (spell : Value → String) {filter : Filter}
    (hleaves : filter.leaves = []) : filter.spelled spell = "" := by
  rw [spelled, (Formula.survivors_eq_nil_iff spell filter.members).mpr hleaves]
  rfl

/-- A condition has no text only if no test is left in it. -/
theorem Filter.isEmpty_spelled_mark (filter : Filter) :
    (filter.spelled Value.mark).isEmpty = filter.leaves.isEmpty := by
  by_cases hleaves : filter.leaves = []
  · rw [filter.spelled_of_leaves_eq_nil Value.mark hleaves, hleaves]
    rfl
  · rw [List.isEmpty_eq_false_iff.mpr hleaves]
    have hsolid := Predicate.endsSolid_of_endsIn_closings (spelled_mark_endsIn hleaves)
    simpa using Text.endsSolid_ne_empty hsolid

/-- Rendering, joining and cutting a keyword off comes to the same as the text built from the tree,
for every formula and every condition, and whatever has been bound before. -/
theorem write_eq_structural_text :
    (∀ (formula : Formula) (bound : List Value),
      formula.write.run bound = (formula.fragment Value.mark, bound ++ formula.operands)) ∧
    ∀ (filter : Filter) (bound : List Value),
      filter.write.run bound = (filter.spelled Value.mark, bound ++ filter.operands) := by
  constructor
  · exact Formula.run_write
  · exact Filter.run_write

end BoundSql
