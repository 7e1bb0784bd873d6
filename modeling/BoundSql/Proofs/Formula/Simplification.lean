import BoundSql.Proofs.Formula.NormalForm
import Mathlib.Logic.Relation

/-!
Rewrites that do not show in the text of a condition. An empty formula may come or go, a group of
which at most one member is not empty may give way to that member under the connective of the group,
and the first member that is not empty may have any connective. All of this may happen anywhere in a
tree: the members of a condition, of a group and of a subquery are rewritten in the same ways, since
the first connective is written in none of them.

One rewrite leaves the normal form of the members as it is, up to their first connective, and so do
many of them, forwards and backwards. The text and the values follow from the normal form.
-/

namespace BoundSql

namespace Formula

/-- The same formula, joined by another connective. -/
def joinedBy (connective : Connective) : Formula → Formula
  | .test _ column predicate => .test connective column predicate
  | .group _ members => .group connective members
  | .subquery _ table members negated => .subquery connective table members negated

/-- A formula inside groups that have no other member, the outermost first. -/
def nested (connectives : List Connective) (formula : Formula) : Formula :=
  connectives.foldr (fun connective inner => .group connective [inner]) formula

/-- One rewrite somewhere in the members of a condition, a group or a subquery. -/
inductive Simplifies : List Formula → List Formula → Prop where
  /-- An empty formula is left out. -/
  | drop (front back : List Formula) {formula : Formula} (hempty : formula.isEmpty = true) :
      Simplifies (front ++ formula :: back) (front ++ back)
  /-- A group in which all members but one are empty is that one. -/
  | collapse (front back : List Formula) (connective : Connective) {before after : List Formula}
      (only : Formula) (hbefore : allEmpty before = true) (hafter : allEmpty after = true) :
      Simplifies (front ++ .group connective (before ++ only :: after) :: back)
        (front ++ only.joinedBy connective :: back)
  /-- The first formula that is not empty gets another connective. -/
  | reconnect {before : List Formula} (formula : Formula) (rest : List Formula)
      (connective : Connective) (hbefore : allEmpty before = true) :
      Simplifies (before ++ formula :: rest) (before ++ formula.joinedBy connective :: rest)
  | group (front back : List Formula) (connective : Connective) {members members' : List Formula}
      (h : Simplifies members members') :
      Simplifies (front ++ .group connective members :: back)
        (front ++ .group connective members' :: back)
  | subquery (front back : List Formula) (connective : Connective) (table : String)
      (negated : Bool) {members members' : List Formula} (h : Simplifies members members') :
      Simplifies (front ++ .subquery connective table members negated :: back)
        (front ++ .subquery connective table members' negated :: back)

theorem connective_joinedBy (connective : Connective) (formula : Formula) :
    (formula.joinedBy connective).connective = connective := by
  cases formula <;> rfl

/-- A normal form has no connective of its own. -/
theorem normal_joinedBy (connective : Connective) (formula : Formula) :
    (formula.joinedBy connective).normal = formula.normal := by
  cases formula <;> rfl

theorem normal_of_isEmpty {formula : Formula} (h : formula.isEmpty = true) :
    formula.normal = none := by
  apply formula.normal_eq_none_iff.mpr
  rw [isEmpty_eq_isEmpty_leaves] at h
  exact List.isEmpty_iff.mp h

theorem normalMembers_cons_of_isEmpty {formula : Formula} (h : formula.isEmpty = true)
    (rest : List Formula) : normalMembers (formula :: rest) = normalMembers rest := by
  rw [normalMembers, normal_of_isEmpty h]

theorem normalMembers_append_of_allEmpty {front : List Formula} (h : allEmpty front = true)
    (back : List Formula) : normalMembers (front ++ back) = normalMembers back := by
  induction front with
  | nil => rfl
  | cons formula rest ih =>
      obtain ⟨hformula, hrest⟩ := Bool.and_eq_true_iff.mp h
      rw [List.cons_append, normalMembers_cons_of_isEmpty hformula, ih hrest]

theorem normalMembers_of_allEmpty {members : List Formula} (h : allEmpty members = true) :
    normalMembers members = .nil := by
  have hmembers := normalMembers_append_of_allEmpty h []
  rwa [List.append_nil] at hmembers

/-- Of a member only its connective and its normal form count. -/
theorem normalMembers_replace (front back : List Formula) {formula formula' : Formula}
    (hnormal : formula.normal = formula'.normal)
    (hconnective : formula.connective = formula'.connective) :
    normalMembers (front ++ formula :: back) = normalMembers (front ++ formula' :: back) := by
  induction front with
  | nil => rw [List.nil_append, List.nil_append, normalMembers, normalMembers, hconnective, hnormal]
  | cons other rest ih => rw [List.cons_append, List.cons_append, normalMembers, normalMembers, ih]

theorem normalMembers_drop (front back : List Formula) {formula : Formula}
    (h : formula.isEmpty = true) :
    normalMembers (front ++ formula :: back) = normalMembers (front ++ back) := by
  induction front with
  | nil => exact normalMembers_cons_of_isEmpty h back
  | cons other rest ih => rw [List.cons_append, List.cons_append, normalMembers, normalMembers, ih]

/-- A group in which all members but one are empty has the normal form of that one. -/
theorem normal_group_only (connective : Connective) {before after : List Formula} (only : Formula)
    (hbefore : allEmpty before = true) (hafter : allEmpty after = true) :
    (group connective (before ++ only :: after)).normal = only.normal := by
  rw [normal, normalMembers_append_of_allEmpty hbefore, normalMembers,
    normalMembers_of_allEmpty hafter]
  cases only.normal <;> rfl

/-- The connective of the first member does not count, and that of no other changes. -/
theorem condition?_normalMembers_joinedBy (connective : Connective) (formula : Formula)
    (rest : List Formula) :
    (normalMembers (formula.joinedBy connective :: rest)).condition? =
      (normalMembers (formula :: rest)).condition? := by
  rw [normalMembers, normalMembers, normal_joinedBy]
  cases formula.normal <;> rfl

end Formula

namespace Chain

/-- A formula with more behind it is a group; alone it stands for itself. -/
def groupedWith (first : NormalForm) : Chain → NormalForm
  | .nil => first
  | .cons connective second rest => .group first (.cons connective second rest)

theorem group?_eq (chain : Chain) :
    chain.group? = chain.condition?.map fun told => told.2.groupedWith told.1 := by
  cases chain with
  | nil => rfl
  | cons connective first rest => cases rest <;> rfl

theorem subquery?_eq (chain : Chain) (table : String) (negated : Bool) :
    chain.subquery? table negated =
      chain.condition?.map fun told => .subquery table told.1 told.2 negated := by
  cases chain <;> rfl

/-- In a group the first connective is not told. -/
theorem group?_congr {chain chain' : Chain} (h : chain.condition? = chain'.condition?) :
    chain.group? = chain'.group? := by
  rw [group?_eq, group?_eq, h]

/-- Nor is it in a subquery. -/
theorem subquery?_congr {chain chain' : Chain} (h : chain.condition? = chain'.condition?)
    (table : String) (negated : Bool) :
    chain.subquery? table negated = chain'.subquery? table negated := by
  rw [subquery?_eq, subquery?_eq, h]

end Chain

namespace Formula

/-- A rewrite changes at most the connective of the first member. -/
theorem Simplifies.condition?_eq {members members' : List Formula}
    (h : Simplifies members members') :
    (normalMembers members').condition? = (normalMembers members).condition? := by
  induction h with
  | drop front back hempty => rw [normalMembers_drop front back hempty]
  | collapse front back connective only hbefore hafter =>
      have hnormal := normal_group_only connective only hbefore hafter
      have hjoined := (normal_joinedBy connective only).trans hnormal.symm
      rw [normalMembers_replace front back hjoined (connective_joinedBy connective only)]
  | reconnect formula rest connective hbefore =>
      rw [normalMembers_append_of_allEmpty hbefore, normalMembers_append_of_allEmpty hbefore]
      exact condition?_normalMembers_joinedBy connective formula rest
  | @group front back connective members members' _ ih =>
      have hnormal : (Formula.group connective members').normal =
          (Formula.group connective members).normal := Chain.group?_congr ih
      rw [normalMembers_replace front back hnormal rfl]
  | @subquery front back connective table negated members members' _ ih =>
      have hnormal : (Formula.subquery connective table members' negated).normal =
          (Formula.subquery connective table members negated).normal := by
        rw [normal, normal, Chain.subquery?_congr ih]
      rw [normalMembers_replace front back hnormal rfl]

theorem condition?_eq_of_eqvGen {members members' : List Formula}
    (h : Relation.EqvGen Simplifies members members') :
    (normalMembers members').condition? = (normalMembers members).condition? := by
  induction h with
  | rel members members' h => exact h.condition?_eq
  | refl members => rfl
  | symm members members' _ ih => exact ih.symm
  | trans first second third _ _ ih ih' => exact ih'.trans ih

/-- A group of one member is that member. -/
theorem simplifies_group_only (front back : List Formula) (connective : Connective)
    (only : Formula) :
    Simplifies (front ++ group connective [only] :: back)
      (front ++ only.joinedBy connective :: back) := by
  have hempty : allEmpty [] = true := rfl
  exact .collapse front back connective only hempty hempty

/-- Groups that stand one in the other collapse from outside, as each takes on the connective of the
one around it. -/
theorem simplifies_nested (front back : List Formula) (outer : Connective)
    (inner : List Connective) (formula : Formula) :
    Relation.ReflTransGen Simplifies (front ++ nested (outer :: inner) formula :: back)
      (front ++ formula.joinedBy outer :: back) := by
  induction inner with
  | nil => exact .single (simplifies_group_only front back outer formula)
  | cons next rest ih =>
      have hcollapse : Simplifies (front ++ nested (outer :: next :: rest) formula :: back)
          (front ++ (nested (next :: rest) formula).joinedBy outer :: back) :=
        simplifies_group_only front back outer (nested (next :: rest) formula)
      exact .head hcollapse ih

end Formula

/-- The text and the values of a condition are read off its normal form, whatever was bound
before. -/
theorem Filter.run_write_congr {filter filter' : Filter} (h : filter'.normal = filter.normal)
    (bound : List Value) : filter'.write.run bound = filter.write.run bound := by
  obtain ⟨htext, hvalues⟩ := Chain.joined_parts_congr h
  rw [run_write, run_write, spelled, spelled, operands, operands, Formula.survivors_eq_parts,
    Formula.survivors_eq_parts, Formula.memberOperands_eq_operands,
    Formula.memberOperands_eq_operands, htext, hvalues]

/-- Rewriting a condition anywhere in its trees, any number of times, forwards and backwards, leaves
its text and its values as they are. One of the things that rewriting can do is to take a formula
out of any number of groups without other members; it keeps the connective of the outermost. -/
theorem write_eq_of_simplified :
    (∀ (filter filter' : Filter),
      Relation.EqvGen Formula.Simplifies filter.members filter'.members →
        ∀ bound, filter'.write.run bound = filter.write.run bound) ∧
    ∀ (front back : List Formula) (outer : Connective) (inner : List Connective)
      (formula : Formula),
      Relation.ReflTransGen Formula.Simplifies
        (front ++ Formula.nested (outer :: inner) formula :: back)
        (front ++ formula.joinedBy outer :: back) := by
  constructor
  · intro filter filter' h bound
    exact Filter.run_write_congr (Formula.condition?_eq_of_eqvGen h) bound
  · intro front back outer inner formula
    exact Formula.simplifies_nested front back outer inner formula

/-- An empty group and a subquery without a table go, and two groups in a subquery collapse. -/
theorem write_eq_of_simplified_subquery :
    let member : Formula := .test .and "b" (.isNull false)
    let filter : Filter :=
      ⟨[.group .and [],
        .subquery .or "t"
          [.group .or [.group .and [.test .and "a" (.eq .null)], .subquery .or "" [member] true],
            member] false]⟩
    let filter' : Filter := ⟨[.subquery .and "t" [.test .or "a" (.eq .null), member] false]⟩
    Relation.EqvGen Formula.Simplifies filter.members filter'.members ∧
      filter'.write.run [] = filter.write.run [] := by
  intro member filter filter'
  have hempty : Formula.allEmpty [] = true := rfl
  -- What is left of the empty group is the subquery alone, which then may have any connective.
  have hdrop : Formula.Simplifies filter.members filter.members.tail := .drop [] _ rfl
  have hreconnect : Formula.Simplifies filter.members.tail _ := .reconnect _ [] .and hempty
  have houter : Formula.Simplifies
      [.group .or [.group .and [.test .and "a" (.eq .null)], .subquery .or "" [member] true],
        member]
      [.group .or [.test .and "a" (.eq .null)], member] := .collapse [] _ .or _ hempty rfl
  have hinner : Formula.Simplifies [.group .or [.test .and "a" (.eq .null)], member]
      [.test .or "a" (.eq .null), member] := Formula.simplifies_group_only [] _ .or _
  have hfront : Relation.EqvGen Formula.Simplifies filter.members _ :=
    .trans _ _ _ (.rel _ _ hdrop) (.rel _ _ hreconnect)
  have hmembers : Relation.EqvGen Formula.Simplifies _ filter'.members :=
    .trans _ _ _ (.rel _ _ (.subquery [] [] .and "t" false houter))
      (.rel _ _ (.subquery [] [] .and "t" false hinner))
  have hsame := Relation.EqvGen.trans _ _ _ hfront hmembers
  exact ⟨hsame, write_eq_of_simplified.1 filter filter' hsame []⟩

end BoundSql
