import BoundSql.Proofs.Formula.Spelling

/-!
Normal forms of predicate trees: what is left of a tree once everything is forgotten that its text
and its parameters do not tell. Empty formulas are gone, a group of which one member is left is that
member, the connective of whatever comes first is forgotten, and of a pattern only the text that is
bound is kept.

The text and the operands of a tree are those of its normal form.
-/

namespace BoundSql

/-- A test in normal form. It is a predicate, but for patterns. -/
inductive NormalTest where
  | compare (symbol : String) (value : Value)
  | between (lower upper : Value) (negated : Bool)
  | inList (values : List Value) (negated : Bool)
  | like (pattern : String) (negated : Bool)
  | isNull (negated : Bool)

mutual

/-- A formula in normal form, without a connective of its own. -/
inductive NormalForm where
  | test (column : String) (test : NormalTest)
  | group (first : NormalForm) (rest : Chain)
  | subquery (table : String) (first : NormalForm) (rest : Chain) (negated : Bool)

/-- Formulas in normal form, each after its connective. -/
inductive Chain where
  | nil
  | cons (connective : Connective) (first : NormalForm) (rest : Chain)

end

def Predicate.normal : Predicate → NormalTest
  | .compare symbol value => .compare symbol value
  | .between lower upper negated => .between lower upper negated
  | .inList values negated => .inList values negated
  | .like value wildcard negated => .like (wildcard.pattern value) negated
  | .isNull negated => .isNull negated

namespace Chain

/-- The chain as a condition: the connective of its first formula is forgotten. -/
def condition? : Chain → Option (NormalForm × Chain)
  | .nil => none
  | .cons _ first rest => some (first, rest)

/-- The chain as a single formula, a group only if it has several. -/
def group? : Chain → Option NormalForm
  | .nil => none
  | .cons _ only .nil => some only
  | .cons _ first (.cons connective second rest) =>
      some (.group first (.cons connective second rest))

/-- The chain as a subquery. -/
def subquery? (table : String) (negated : Bool) : Chain → Option NormalForm
  | .nil => none
  | .cons _ first rest => some (.subquery table first rest negated)

end Chain

namespace Formula

mutual

/-- The normal form of a formula that has a leaf. -/
def normal : Formula → Option NormalForm
  | .test _ column predicate => some (.test column predicate.normal)
  | .group _ members => (normalMembers members).group?
  | .subquery _ table members negated =>
      if table.isEmpty then none else (normalMembers members).subquery? table negated

/-- The normal forms of formulas. Each keeps the connective of the whole formula, also where that
is a group of which one member is left. -/
def normalMembers : List Formula → Chain
  | [] => .nil
  | formula :: rest =>
      match formula.normal with
      | none => normalMembers rest
      | some first => .cons formula.connective first (normalMembers rest)

end

end Formula

/-- The normal form of a condition that has a leaf. -/
def Filter.normal (filter : Filter) : Option (NormalForm × Chain) :=
  (Formula.normalMembers filter.members).condition?

/-- What a test is but for its values. -/
inductive TestForm where
  | compare (symbol : String)
  | between (negated : Bool)
  | inList (negated : Bool)
  | like (negated : Bool)
  | isNull (negated : Bool)
  deriving DecidableEq

/-- The text after the column up to where a list begins. -/
def TestForm.opening : TestForm → String
  | .compare symbol => symbol ++ "?"
  | .between negated => " " ++ negation negated ++ "BETWEEN ? AND ?"
  | .inList negated => " " ++ negation negated ++ "IN ("
  | .like negated => " " ++ negation negated ++ "LIKE ?"
  | .isNull negated => " IS " ++ negation negated ++ "NULL"

namespace NormalTest

/-- The values that a test binds. -/
def operands : NormalTest → List Value
  | .compare _ value => [value]
  | .between lower upper _ => [lower, upper]
  | .inList values _ => values
  | .like pattern _ => [.text pattern]
  | .isNull _ => []

def form : NormalTest → TestForm
  | .compare symbol _ => .compare symbol
  | .between _ _ negated => .between negated
  | .inList _ negated => .inList negated
  | .like _ negated => .like negated
  | .isNull negated => .isNull negated

/-- The text of a test from its list on. -/
def closing : NormalTest → String
  | .inList values _ => ",".intercalate (values.map Value.mark) ++ ")"
  | _ => ""

def text (column : String) (test : NormalTest) : String :=
  Identifier.quote column ++ test.form.opening ++ test.closing

end NormalTest

mutual

def NormalForm.text : NormalForm → String
  | .test column test => test.text column
  | .group first rest => "(" ++ first.text ++ rest.text ++ ")"
  | .subquery table first rest negated =>
      negation negated ++ "EXISTS (SELECT * FROM " ++ Identifier.quote table ++ " WHERE " ++
        first.text ++ rest.text ++ ")"

def Chain.text : Chain → String
  | .nil => ""
  | .cons connective first rest => " " ++ connective.text ++ " " ++ first.text ++ rest.text

end

mutual

def NormalForm.operands : NormalForm → List Value
  | .test _ test => test.operands
  | .group first rest => first.operands ++ rest.operands
  | .subquery _ first rest _ => first.operands ++ rest.operands

def Chain.operands : Chain → List Value
  | .nil => []
  | .cons _ first rest => first.operands ++ rest.operands

end

/-- Each formula of a chain as its connective and its text. -/
def Chain.parts : Chain → List (Connective × String)
  | .nil => []
  | .cons connective first rest => (connective, first.text) :: rest.parts

theorem Predicate.operands_normal (predicate : Predicate) :
    predicate.normal.operands = predicate.operands := by
  cases predicate <;> rfl

/-- The parts of a predicate give the text of the predicate. -/
theorem Predicate.text_normal (predicate : Predicate) (column : String) :
    predicate.normal.text column = predicate.spelled Value.mark column := by
  cases predicate <;>
    simp [normal, spelled, NormalTest.text, NormalTest.form, NormalTest.closing, TestForm.opening,
      Value.mark, String.append_assoc]

namespace Chain

theorem continued_parts : ∀ chain : Chain, continued chain.parts = chain.text
  | .nil => rfl
  | .cons connective first rest => by rw [parts, continued, text, continued_parts rest]

theorem joined_parts_cons (connective : Connective) (first : NormalForm) (rest : Chain) :
    joined (cons connective first rest).parts = first.text ++ rest.text := by
  rw [parts, joined, continued_parts]

/-- The first connective of a chain is not written. -/
theorem joined_parts_congr {chain chain' : Chain} (h : chain.condition? = chain'.condition?) :
    joined chain.parts = joined chain'.parts ∧ chain.operands = chain'.operands := by
  cases chain with
  | nil =>
      cases chain' with
      | nil => exact ⟨rfl, rfl⟩
      | cons connective' first' rest' => cases h
  | cons connective first rest =>
      cases chain' with
      | nil => cases h
      | cons connective' first' rest' =>
          cases h
          rw [joined_parts_cons, joined_parts_cons]
          exact ⟨rfl, rfl⟩

theorem subquery?_eq_none_iff (table : String) (negated : Bool) (chain : Chain) :
    chain.subquery? table negated = none ↔ chain = .nil := by
  cases chain <;> simp [subquery?]

theorem group?_eq_none_iff (chain : Chain) : chain.group? = none ↔ chain = .nil := by
  match chain with
  | .nil => simp [group?]
  | .cons _ _ .nil => simp [group?]
  | .cons _ _ (.cons _ _ _) => simp [group?]

/-- A group of one member is that member, in the text as in the normal form. -/
theorem text_of_group? {chain : Chain} {formula : NormalForm} (h : chain.group? = some formula) :
    formula.text =
      if chain.parts.length ≤ 1 then joined chain.parts else "(" ++ joined chain.parts ++ ")" := by
  match chain, h with
  | .cons connective only .nil, h =>
      cases h
      rw [joined_parts_cons]
      simp [parts, text]
  | .cons connective first (.cons next second rest), h =>
      cases h
      rw [joined_parts_cons]
      simp [parts, NormalForm.text, String.append_assoc]

theorem operands_of_group? {chain : Chain} {formula : NormalForm}
    (h : chain.group? = some formula) : formula.operands = chain.operands := by
  match chain, h with
  | .cons connective only .nil, h =>
      cases h
      simp [operands]
  | .cons connective first (.cons next second rest), h =>
      cases h
      rfl

end Chain

namespace Formula

mutual

/-- A formula has a normal form just when it has a leaf. -/
theorem normal_eq_none_iff : ∀ formula : Formula, formula.normal = none ↔ formula.leaves = []
  | .test _ _ _ => by simp [normal, leaves]
  | .group _ members => by
      rw [normal, leaves, Chain.group?_eq_none_iff, normalMembers_eq_nil_iff members]
  | .subquery _ table members _ => by
      rw [normal, leaves]
      cases table.isEmpty with
      | true => simp
      | false => simpa [Chain.subquery?_eq_none_iff] using normalMembers_eq_nil_iff members

/-- The normal form of members is empty just when they have no test. -/
theorem normalMembers_eq_nil_iff : ∀ members : List Formula,
    normalMembers members = .nil ↔ memberLeaves members = []
  | [] => by simp [normalMembers, memberLeaves]
  | formula :: rest => by
      have hformula := normal_eq_none_iff formula
      rw [normalMembers, memberLeaves, List.append_eq_nil_iff]
      match hnormal : formula.normal with
      | none => simpa [hformula.mp hnormal] using normalMembers_eq_nil_iff rest
      | some first =>
          have hleaves : formula.leaves ≠ [] := hformula.not.mp (by simp [hnormal])
          simp [hleaves]

end

theorem leaves_ne_nil_of_normal {formula : Formula} {first : NormalForm}
    (h : formula.normal = some first) : formula.leaves ≠ [] :=
  formula.normal_eq_none_iff.not.mp (by simp [h])

/-- A subquery with a normal form has a table, and a member with a leaf. -/
theorem normal_subquery {connective : Connective} {table : String} {members : List Formula}
    {negated : Bool} {formula : NormalForm}
    (h : (subquery connective table members negated).normal = some formula) :
    table.isEmpty = false ∧ ∃ next first rest, normalMembers members = .cons next first rest ∧
      formula = .subquery table first rest negated := by
  rw [normal] at h
  cases htable : table.isEmpty with
  | true => simp [htable] at h
  | false =>
      rw [if_neg (by simp [htable])] at h
      match hmembers : normalMembers members with
      | .nil => simp [hmembers, Chain.subquery?] at h
      | .cons next first rest =>
          rw [hmembers] at h
          cases h
          exact ⟨rfl, next, first, rest, rfl, rfl⟩

mutual

/-- The text of a formula is that of its normal form. -/
theorem body_eq_text : ∀ (formula : Formula) (normal : NormalForm), formula.normal = some normal →
    formula.body Value.mark = normal.text
  | .test _ column predicate, normal, h => by
      cases h
      exact (predicate.text_normal column).symm
  | .group _ members, normal, h => by
      rw [body_group, survivors_eq_parts members, Chain.text_of_group? h]
  | .subquery _ table members negated, normal, h => by
      obtain ⟨_, next, first, rest, hmembers, rfl⟩ := normal_subquery h
      rw [body, survivors_eq_parts members, hmembers, Chain.joined_parts_cons, NormalForm.text]
      simp only [String.append_assoc]

/-- The members that are written are those of the normal form, in their order. -/
theorem survivors_eq_parts : ∀ members : List Formula,
    survivors Value.mark members = (normalMembers members).parts
  | [] => rfl
  | formula :: rest => by
      rw [normalMembers]
      match hnormal : formula.normal with
      | none =>
          rw [survivors_cons_of_leaves_eq_nil _ (formula.normal_eq_none_iff.mp hnormal)]
          exact survivors_eq_parts rest
      | some first =>
          rw [survivors_cons_of_leaves_ne_nil _ (leaves_ne_nil_of_normal hnormal),
            body_eq_text formula first hnormal, survivors_eq_parts rest]
          rfl

end

mutual

/-- So are its operands. -/
theorem operands_eq_operands : ∀ (formula : Formula) (normal : NormalForm),
    formula.normal = some normal → formula.operands = normal.operands
  | .test connective column predicate, normal, h => by
      cases h
      rw [NormalForm.operands, predicate.operands_normal]
      simp [operands, leaves]
  | .group _ members, normal, h => by
      rw [Chain.operands_of_group? h]
      exact memberOperands_eq_operands members
  | .subquery connective table members negated, normal, h => by
      obtain ⟨htable, next, first, rest, hmembers, rfl⟩ := normal_subquery h
      have hoperands := memberOperands_eq_operands members
      rw [hmembers] at hoperands
      rw [operands, leaves_subquery htable]
      exact hoperands

theorem memberOperands_eq_operands : ∀ members : List Formula,
    memberOperands members = (normalMembers members).operands
  | [] => rfl
  | formula :: rest => by
      rw [normalMembers, memberOperands_cons, memberOperands_eq_operands rest]
      match hnormal : formula.normal with
      | none =>
          rw [operands_of_leaves_eq_nil (formula.normal_eq_none_iff.mp hnormal)]
          rfl
      | some first =>
          rw [operands_eq_operands formula first hnormal]
          rfl

end

end Formula

/-- A condition is written from its normal form. -/
theorem Filter.run_write_normal (filter : Filter) :
    filter.write.run [] =
      (joined (Formula.normalMembers filter.members).parts,
        (Formula.normalMembers filter.members).operands) := by
  rw [run_write, List.nil_append, spelled, operands, Formula.survivors_eq_parts,
    Formula.memberOperands_eq_operands]

end BoundSql
