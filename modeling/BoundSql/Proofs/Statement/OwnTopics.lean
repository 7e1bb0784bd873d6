import BoundSql.Proofs.Clauses.Topics
import BoundSql.Proofs.Statement.Spelling

/-!
Which clauses a statement reads. Every kind of statement has its own topics, and what the clauses
say about other topics makes no difference to it: with those topics unset, it is the same statement.
An insertion has two topics but reads about one of them only. Where there is a condition, that is
the condition, and else the assignments for rows that are there already.
-/

namespace BoundSql

/-- The topics of the statements of a kind. -/
def StatementKind.topics : StatementKind → List Topic
  | .select => [.condition, .groupBy, .orderBy, .limit, .offset, .forceIndex, .forUpdate]
  | .update | .delete => [.condition, .orderBy, .limit, .offset]
  | .insert => [.condition, .onDuplicateKey]

namespace Clauses

variable {clauses others : Clauses} {topics : List Topic}

/-- Clauses that say the same as far as statements of a kind read them. -/
def SameFor (kind : StatementKind) (clauses others : Clauses) : Prop :=
  match kind with
  | .insert =>
      (clauses.hasWhere = true ∧ others.hasWhere = true ∧ clauses.filter = others.filter) ∨
        (clauses.hasWhere = false ∧ others.hasWhere = false ∧
          clauses.onDuplicateKey = others.onDuplicateKey)
  | kind => ∀ topic ∈ kind.topics, clauses.part topic = others.part topic

/-- What the clauses say about some topics, with all others unset. -/
def only (topics : List Topic) (clauses : Clauses) : Clauses where
  filter := if .condition ∈ topics then clauses.filter else {}
  groupBy := if .groupBy ∈ topics then clauses.groupBy else []
  orderBy := if .orderBy ∈ topics then clauses.orderBy else []
  limit := if .limit ∈ topics then clauses.limit else none
  offset := if .offset ∈ topics then clauses.offset else none
  forceIndex := if .forceIndex ∈ topics then clauses.forceIndex else none
  onDuplicateKey := if .onDuplicateKey ∈ topics then clauses.onDuplicateKey else none
  forUpdate := if .forUpdate ∈ topics then clauses.forUpdate else false

theorem part_only (topics : List Topic) (clauses : Clauses) (topic : Topic) :
    (clauses.only topics).part topic =
      if topic ∈ topics then clauses.part topic else Clauses.part {} topic := by
  cases topic <;> rfl

theorem only_eq_only (h : ∀ topic ∈ topics, clauses.part topic = others.part topic) :
    clauses.only topics = others.only topics := by
  apply eq_of_parts
  intro topic
  rw [part_only, part_only]
  split
  · rename_i hmem
    exact h topic hmem
  · rfl

/-- The topics that are read for a statement of a kind. -/
def readTopics (clauses : Clauses) : StatementKind → List Topic
  | .insert => if clauses.hasWhere then [.condition] else [.onDuplicateKey]
  | kind => kind.topics

theorem readTopics_insert_of_where (h : clauses.hasWhere = true) :
    clauses.readTopics .insert = [.condition] :=
  if_pos h

theorem readTopics_insert_of_no_where (h : clauses.hasWhere = false) :
    clauses.readTopics .insert = [.onDuplicateKey] :=
  if_neg (by simp [h])

end Clauses

namespace Scope

theorem insert_only (table : String) (clauses : Clauses) (columns : List String)
    (records : List (List Value)) :
    insert { table, clauses := clauses.only (clauses.readTopics .insert) } columns records =
      insert { table, clauses } columns records := by
  cases records with
  | nil => rfl
  | cons first rest =>
      cases hwhere : clauses.hasWhere with
      | true =>
          have hkept : (clauses.only [.condition]).hasWhere = true := hwhere
          rw [Clauses.readTopics_insert_of_where hwhere, insert, insert]
          simp only [hwhere, hkept]
          rfl
      | false =>
          have hunset : (clauses.only [.onDuplicateKey]).hasWhere = false := rfl
          rw [Clauses.readTopics_insert_of_no_where hwhere, insert, insert]
          simp only [hwhere, hunset]
          rfl

/-- Only the topics that are read count for what comes of a call. -/
theorem outcome_only (table : String) (clauses : Clauses) (call : Call) :
    outcome { table, clauses := clauses.only (clauses.readTopics call.kind) } call =
      outcome { table, clauses } call := by
  cases call with
  | select columns => rfl
  | selectRecord columns => rfl
  | selectFor columns hasTarget => rfl
  | update assignments => rfl
  | delete => rfl
  | insert columns records => exact insert_only table clauses columns records

/-- Clauses that are the same for a kind have the same topics read, and agree on them. -/
theorem readTopics_eq_of_sameFor {kind : StatementKind} {clauses others : Clauses}
    (h : Clauses.SameFor kind clauses others) :
    clauses.readTopics kind = others.readTopics kind ∧
      ∀ topic ∈ clauses.readTopics kind, clauses.part topic = others.part topic := by
  cases kind with
  | select => exact ⟨rfl, h⟩
  | update => exact ⟨rfl, h⟩
  | delete => exact ⟨rfl, h⟩
  | insert =>
      rcases h with ⟨hwhere, hwhere', hfilter⟩ | ⟨hwhere, hwhere', hassignments⟩
      · rw [Clauses.readTopics_insert_of_where hwhere, Clauses.readTopics_insert_of_where hwhere']
        exact ⟨rfl, List.forall_mem_singleton.mpr hfilter⟩
      · rw [Clauses.readTopics_insert_of_no_where hwhere,
          Clauses.readTopics_insert_of_no_where hwhere']
        exact ⟨rfl, List.forall_mem_singleton.mpr hassignments⟩

theorem outcome_eq_of_sameFor (table : String) {clauses others : Clauses} {call : Call}
    (h : Clauses.SameFor call.kind clauses others) :
    outcome { table, clauses } call = outcome { table, clauses := others } call := by
  obtain ⟨htopics, hparts⟩ := readTopics_eq_of_sameFor h
  rw [← outcome_only, Clauses.only_eq_only hparts, htopics, outcome_only]

/-- What is answered and what is logged depends on the table and on what comes of the call. -/
theorem perform_eq_of_outcome {scope other : Scope} {call : Call}
    (htable : scope.table = other.table) (houtcome : scope.outcome call = other.outcome call) :
    scope.perform call = other.perform call := by
  have hlog : scope.logOutcome call.kind = other.logOutcome call.kind := by
    funext outcome
    cases outcome <;> simp only [logOutcome, htable]
  rw [perform, perform, houtcome, hlog]

theorem perform_eq_of_sameFor (table : String) {clauses others : Clauses} {call : Call}
    (h : Clauses.SameFor call.kind clauses others) :
    perform { table, clauses } call = perform { table, clauses := others } call :=
  perform_eq_of_outcome rfl (outcome_eq_of_sameFor table h)

theorem statement_eq_of_sameFor (table : String) {clauses others : Clauses} {call : Call}
    (h : Clauses.SameFor call.kind clauses others) :
    statement { table, clauses } call = statement { table, clauses := others } call := by
  rw [statement, statement, perform_eq_of_sameFor table h]

end Scope

/-- Clauses that agree on all topics but one are the same for a kind that it does not belong to. -/
theorem Clauses.sameFor_of_not_mem {kind : StatementKind} {topic : Topic}
    (hkind : topic ∉ kind.topics) {clauses others : Clauses}
    (h : ∀ other ≠ topic, clauses.part other = others.part other) :
    SameFor kind clauses others := by
  have hparts : ∀ other ∈ kind.topics, clauses.part other = others.part other := by
    intro other hother
    apply h
    rintro rfl
    exact hkind hother
  cases kind with
  | select => exact hparts
  | update => exact hparts
  | delete => exact hparts
  | insert =>
      have hfilter : clauses.filter = others.filter := hparts .condition (by decide)
      have hassignments : clauses.onDuplicateKey = others.onDuplicateKey :=
        hparts .onDuplicateKey (by decide)
      have hsame : clauses.hasWhere = others.hasWhere := by rw [hasWhere, hasWhere, hfilter]
      cases hwhere : others.hasWhere with
      | true => exact Or.inl ⟨hsame.trans hwhere, hwhere, hfilter⟩
      | false => exact Or.inr ⟨hsame.trans hwhere, hwhere, hassignments⟩

/-- A step about a topic. -/
def Topic.someStep : Topic → Step
  | .condition => .and "a" (.isNull false)
  | .groupBy => .groupBy ["a"]
  | .orderBy => .orderBy "a" .ascending
  | .limit => .limit 1
  | .offset => .offset 1
  | .forceIndex => .forceIndex "i"
  | .onDuplicateKey => .onDuplicateKey (.ofPairs [("a", .null)])
  | .forUpdate => .forUpdate

theorem Topic.topic_someStep (topic : Topic) : topic.someStep.topic = topic := by
  cases topic <;> rfl

/-- A call for a statement of a kind. -/
def StatementKind.someCall : StatementKind → Call
  | .select => .select []
  | .update => .update (some (.ofPairs [("a", .null)]))
  | .delete => .delete
  | .insert => .insert ["a"] [[.null]]

theorem StatementKind.kind_someCall (kind : StatementKind) : kind.someCall.kind = kind := by
  cases kind <;> rfl

/-- A step about one of its topics shows in the text of a statement. -/
theorem sql_ne_of_mem_topics {kind : StatementKind} {topic : Topic} (h : topic ∈ kind.topics) :
    (Scope.statement { table := "t", clauses := Clauses.step {} topic.someStep }
      kind.someCall).sql ≠ (Scope.statement { table := "t" } kind.someCall).sql := by
  have hall : ∀ topic ∈ kind.topics,
      (Scope.statement { table := "t", clauses := Clauses.step {} topic.someStep }
        kind.someCall).sql ≠ (Scope.statement { table := "t" } kind.someCall).sql := by
    cases kind <;> decide +kernel
  exact hall topic h

/-- Each kind of statement reads its own topics, and what the clauses say about others makes no
difference to a call, neither to its answer nor to the log: a selection does not read the
assignments for rows that are there already, a change or a deletion reads the condition, the order,
the limit and the offset only, and an insertion reads the condition, or where there is none, the
assignments for rows that are there already. None of the topics is read in vain. -/
theorem calls_read_own_topics (kind : StatementKind) :
    (∀ table clauses others call, call.kind = kind → Clauses.SameFor kind clauses others →
      Scope.statement { table, clauses } call = Scope.statement { table, clauses := others } call ∧
        Scope.perform { table, clauses } call = Scope.perform { table, clauses := others } call) ∧
    ∀ topic, topic ∈ kind.topics ↔ ∃ table clauses others call, call.kind = kind ∧
      (∀ other ≠ topic, Clauses.part clauses other = Clauses.part others other) ∧
      Scope.statement { table, clauses } call ≠
        Scope.statement { table, clauses := others } call := by
  refine ⟨?_, ?_⟩
  · rintro table clauses others call rfl h
    exact ⟨Scope.statement_eq_of_sameFor table h, Scope.perform_eq_of_sameFor table h⟩
  · intro topic
    constructor
    · intro hmem
      refine ⟨"t", Clauses.step {} topic.someStep, {}, kind.someCall, kind.kind_someCall, ?_, ?_⟩
      · intro other hother
        apply Clauses.part_step_of_ne
        rw [topic.topic_someStep]
        exact hother.symm
      · intro heq
        exact sql_ne_of_mem_topics hmem (congrArg Statement.sql heq)
    · rintro ⟨table, clauses, others, call, rfl, hparts, hne⟩
      by_contra hmem
      exact hne (Scope.statement_eq_of_sameFor table (Clauses.sameFor_of_not_mem hmem hparts))

/-- Clauses that differ in the grouping, the index, the lock and the assignments for rows that are
there already. -/
theorem own_topics_of_update_and_insert :
    let clauses : Clauses :=
      .ofSteps [.limit 2, .and "a" (.eq (.int 1)), .onDuplicateKey (.ofPairs [("b", .null)])]
    let others : Clauses :=
      .ofSteps [.forUpdate, .and "a" (.eq (.int 1)), .groupBy ["g"], .limit 2, .forceIndex "i"]
    let update : Call := .update (some (.ofPairs [("c", .null)]))
    let insert : Call := .insert ["c"] [[.int 3]]
    (Clauses.SameFor .update clauses others ∧ Clauses.SameFor .insert clauses others) ∧
      Scope.statement { table := "t", clauses } update =
        Scope.statement { table := "t", clauses := others } update ∧
      Scope.statement { table := "t", clauses } insert =
        Scope.statement { table := "t", clauses := others } insert := by
  intro clauses others update insert
  have hupdate : Clauses.SameFor .update clauses others := by
    intro topic htopic
    cases topic with
    | condition | orderBy | limit | offset => rfl
    | _ => exact absurd htopic (by decide)
  have hinsert : Clauses.SameFor .insert clauses others := Or.inl ⟨rfl, rfl, rfl⟩
  obtain ⟨hupdates, _⟩ := calls_read_own_topics .update
  obtain ⟨hinsertions, _⟩ := calls_read_own_topics .insert
  exact ⟨⟨hupdate, hinsert⟩, (hupdates "t" clauses others update rfl hupdate).1,
    (hinsertions "t" clauses others insert rfl hinsert).1⟩

end BoundSql
