import BoundSql.Proofs.Statement.Outline
import BoundSql.Proofs.Text.Reading

/-!
The clauses behind the table of a statement are read back from their text, although every one of
them may be missing. No opening of a clause is the beginning of another one, and each content tells
where it ends: names by their marks, lists and numbers by the space that comes next. Of a condition
nothing has to be known but its last character, which is never at the end of a word in a later
clause, so that neither its names nor its words are ever taken for a clause.
-/

namespace BoundSql

open Identifier (IsPlain)
open Text (Breaks BreaksOff NoWordEndsIn ReadsBefore SelfDelimiting)

/-- The two directions are told apart by their words. -/
theorem SortKey.selfDelimiting_written :
    SelfDelimiting (fun key : SortKey => IsPlain key.column) fun key => key.written.text := by
  intro key key' rest rest' hkey hkey' _ _ htext
  simp only [text, written, String.toList_append, List.append_assoc] at htext
  obtain ⟨hcolumn, hdirection⟩ := Identifier.read_quote hkey hkey' htext
  obtain ⟨column, direction⟩ := key
  obtain ⟨column', direction'⟩ := key'
  subst hcolumn
  cases direction <;> cases direction' <;> simp_all

/-- The clauses of a statement on rows, in the order in which they are written. -/
inductive ClauseKind where
  | forceIndex : ClauseKind
  | condition : ClauseKind
  | groupBy : ClauseKind
  | orderBy : ClauseKind
  | limit : ClauseKind
  | offset : ClauseKind
  | forUpdate : ClauseKind
  deriving DecidableEq

namespace ClauseKind

def all : List ClauseKind :=
  [.forceIndex, .condition, .groupBy, .orderBy, .limit, .offset, .forUpdate]

/-- The place of a clause in that order. -/
def place : ClauseKind → Nat
  | .forceIndex => 0
  | .condition => 1
  | .groupBy => 2
  | .orderBy => 3
  | .limit => 4
  | .offset => 5
  | .forUpdate => 6

/-- The text of a clause up to its content. -/
def keyword : ClauseKind → String
  | .forceIndex => "FORCE INDEX ("
  | .condition => "WHERE "
  | .groupBy => "GROUP BY "
  | .orderBy => "ORDER BY "
  | .limit => "LIMIT "
  | .offset => "OFFSET "
  | .forUpdate => "FOR UPDATE"

/-- What tells that a clause begins. -/
def opening (kind : ClauseKind) : String :=
  " " ++ kind.keyword

/-- What a clause has to say. Of a condition this is its text. -/
abbrev Content : ClauseKind → Type
  | .forceIndex => String
  | .condition => String
  | .groupBy => List String
  | .orderBy => List SortKey
  | .limit => Nat
  | .offset => Nat
  | .forUpdate => Unit

/-- The text of a content behind the opening. -/
def code : (kind : ClauseKind) → kind.Content → String
  | .forceIndex, name => Identifier.quote name ++ ")"
  | .condition, text => text
  | .groupBy, columns => Identifier.quoteList columns
  | .orderBy, keys => ", ".intercalate (keys.map fun key => key.written.text)
  | .limit, count => count.repr
  | .offset, count => count.repr
  | .forUpdate, _ => ""

def IsReadable : (kind : ClauseKind) → kind.Content → Prop
  | .forceIndex, name => IsPlain name
  | .condition, text => Text.EndsIn Predicate.closings text
  | .groupBy, columns => columns ≠ [] ∧ ∀ column ∈ columns, IsPlain column
  | .orderBy, keys => keys ≠ [] ∧ ∀ key ∈ keys, IsPlain key.column
  | .limit, _ => True
  | .offset, _ => True
  | .forUpdate, _ => True

/-- What has to follow a content for it to be read. -/
def Follows : ClauseKind → List Char → Prop
  | .condition => BreaksOff Predicate.closings
  | _ => Breaks

theorem mem_all (kind : ClauseKind) : kind ∈ all := by
  cases kind <;> decide

theorem keyword_ne_empty (kind : ClauseKind) : kind.keyword ≠ "" := by
  cases kind <;> decide

theorem toList_opening (kind : ClauseKind) :
    kind.opening.toList = ' ' :: kind.keyword.toList := by
  rw [opening, String.toList_append]
  rfl

/-- No opening of a clause is the beginning of another one. -/
theorem prefixCode_opening : Text.PrefixCode opening all := by
  decide

/-- Each content tells where it ends, given what may follow. -/
theorem readsBefore_code (kind : ClauseKind) :
    ReadsBefore kind.Follows kind.IsReadable kind.code := by
  cases kind with
  | forceIndex => exact (Identifier.selfDelimiting_quote.before ")").readsBefore Breaks
  | condition => exact Text.readsBefore_endsIn Predicate.closings
  | groupBy => exact Identifier.readsBefore_quoteList
  | orderBy => exact SortKey.selfDelimiting_written.separated rfl (by decide)
  | limit => exact Text.readsBefore_repr
  | offset => exact Text.readsBefore_repr
  | forUpdate =>
      intro a b rest rest' _ _ _ _ htext
      exact ⟨rfl, htext⟩

/-- A clause, if it has something to say. -/
def clause (kind : ClauseKind) : Option kind.Content → String
  | none => ""
  | some content => kind.opening ++ kind.code content

/-- Some clauses one after the other. -/
def written (contents : (kind : ClauseKind) → Option kind.Content) : List ClauseKind → String
  | [] => ""
  | kind :: rest => kind.clause (contents kind) ++ written contents rest

end ClauseKind

/-- Nothing follows, or one of some clauses. -/
def GoesOn (kinds : List ClauseKind) (rest : List Char) : Prop :=
  rest = [] ∨ ∃ kind ∈ kinds, kind.opening.toList <+: rest

namespace ClauseKind

theorem breaks_of_opening (kind : ClauseKind) {rest : List Char}
    (h : kind.opening.toList <+: rest) : Breaks rest := by
  obtain ⟨more, rfl⟩ := h
  intro c hc
  rw [toList_opening] at hc
  cases hc
  rfl

theorem breaks_of_goesOn {kinds : List ClauseKind} {rest : List Char} (h : GoesOn kinds rest) :
    Breaks rest := by
  rcases h with rfl | ⟨kind, _, hopening⟩
  · exact Text.breaks_nil
  · exact kind.breaks_of_opening hopening

/-- A clause that is not one of those that may follow does not follow. -/
theorem not_goesOn {kind : ClauseKind} {kinds : List ClauseKind} (hkind : kind ∉ kinds)
    (more : List Char) : ¬ GoesOn kinds (kind.opening.toList ++ more) := by
  rintro (hnil | ⟨other, hother, rest, htext⟩)
  · rw [toList_opening] at hnil
    cases hnil
  · obtain ⟨rfl, _⟩ := prefixCode_opening.read other.mem_all kind.mem_all htext
    exact hkind hother

/-- Clauses in a row have no text, or they begin with the opening of one of them. -/
theorem goesOn_written (contents : (kind : ClauseKind) → Option kind.Content)
    (kinds : List ClauseKind) : GoesOn kinds (written contents kinds).toList := by
  induction kinds with
  | nil => exact Or.inl rfl
  | cons kind rest ih =>
      rw [written, String.toList_append]
      cases contents kind with
      | none =>
          rcases ih with hnil | ⟨next, hnext, hopening⟩
          · exact Or.inl (by simpa [clause] using hnil)
          · exact Or.inr ⟨next, List.mem_cons_of_mem kind hnext, hopening⟩
      | some content =>
          refine Or.inr ⟨kind, List.mem_cons_self, ?_⟩
          rw [clause, String.toList_append, List.append_assoc]
          exact List.prefix_append _ _

/-- Whether a clause is there is told by its opening, and what it says by its content. -/
theorem read_clause {kind : ClauseKind} {kinds : List ClauseKind} (hkind : kind ∉ kinds)
    {content? content?' : Option kind.Content}
    (hreadable : ∀ content ∈ content?, kind.IsReadable content)
    (hreadable' : ∀ content ∈ content?', kind.IsReadable content) {rest rest' : List Char}
    (hrest : GoesOn kinds rest) (hrest' : GoesOn kinds rest') (hfollows : kind.Follows rest)
    (hfollows' : kind.Follows rest')
    (htext : (kind.clause content?).toList ++ rest = (kind.clause content?').toList ++ rest') :
    content? = content?' ∧ rest = rest' := by
  match content?, content?' with
  | none, none => exact ⟨rfl, htext⟩
  | none, some content' =>
      change rest = _ at htext
      rw [htext, clause, String.toList_append, List.append_assoc] at hrest
      exact absurd hrest (not_goesOn hkind _)
  | some content, none =>
      change _ = rest' at htext
      rw [← htext, clause, String.toList_append, List.append_assoc] at hrest'
      exact absurd hrest' (not_goesOn hkind _)
  | some content, some content' =>
      simp only [clause, String.toList_append, List.append_assoc] at htext
      obtain ⟨rfl, hrests⟩ := kind.readsBefore_code (hreadable content rfl)
        (hreadable' content' rfl) hfollows hfollows' (List.append_cancel_left htext)
      exact ⟨rfl, hrests⟩

/-- A quoted name is a single word, which ends with a mark. -/
theorem noWordEndsIn_quote {closings : List Char} (hmark : Identifier.mark ∉ closings)
    {name : String} (hname : IsPlain name) :
    NoWordEndsIn closings (Identifier.quote name).toList := by
  have hspace : ' ' ∉ Identifier.mark :: name.toList :=
    List.not_mem_cons_of_ne_of_not_mem (by decide) hname.no_space
  have htext : (Identifier.quote name).toList =
      (Identifier.mark :: name.toList) ++ [Identifier.mark] := by
    simpa using Identifier.toList_quote_of_isPlain hname []
  -- Only the closing mark is at the end of a word, because a plain name has no space in it.
  intro c hc
  rw [htext, Text.wordEnds_concat hspace (by decide)] at hc
  cases List.mem_singleton.mp hc
  exact hmark

theorem noWordEndsIn_repr (count : Nat) :
    NoWordEndsIn Predicate.closings count.repr.toList := by
  intro c hc
  have hclosings : Predicate.closings.any Char.isDigit = false := by decide
  intro hclosing
  have hdigit : c.isDigit = false := by
    simpa using List.any_eq_false.mp hclosings c hclosing
  exact Text.notMem_repr hdigit count (Text.wordEnds_subset _ hc)

theorem noWordEndsIn_code {kind : ClauseKind} (hlater : condition.place < kind.place)
    {content : kind.Content} (hreadable : kind.IsReadable content) :
    NoWordEndsIn Predicate.closings (kind.code content).toList := by
  cases kind with
  | forceIndex => exact absurd hlater (by decide)
  | condition => exact absurd hlater (by decide)
  | groupBy =>
      apply NoWordEndsIn.intercalate (by decide)
      intro text htext
      obtain ⟨column, hcolumn, rfl⟩ := List.mem_map.mp htext
      exact noWordEndsIn_quote (by decide) (hreadable.2 column hcolumn)
  | orderBy =>
      apply NoWordEndsIn.intercalate (by decide)
      intro text htext
      obtain ⟨key, hkey, rfl⟩ := List.mem_map.mp htext
      have hcolumn : NoWordEndsIn Predicate.closings (Identifier.quote key.column).toList :=
        noWordEndsIn_quote (by decide) (hreadable.2 key hkey)
      rw [SortKey.text, String.toList_append]
      apply hcolumn.append
      cases key.written.direction <;> decide
  | limit => exact noWordEndsIn_repr content
  | offset => exact noWordEndsIn_repr content
  | forUpdate => exact .nil

theorem noWordEndsIn_opening (kind : ClauseKind) :
    NoWordEndsIn Predicate.closings kind.opening.toList := by
  cases kind <;> decide

/-- No word of a later clause ends like a condition. -/
theorem noWordEndsIn_written {contents : (kind : ClauseKind) → Option kind.Content}
    {kinds : List ClauseKind} (hlater : ∀ kind ∈ kinds, condition.place < kind.place)
    (hreadable : ∀ kind ∈ kinds, ∀ content ∈ contents kind, kind.IsReadable content) :
    NoWordEndsIn Predicate.closings (written contents kinds).toList := by
  induction kinds with
  | nil => exact .nil
  | cons kind rest ih =>
      obtain ⟨hkind, hrest⟩ := List.forall_mem_cons.mp hlater
      obtain ⟨hcontent, hcontents⟩ := List.forall_mem_cons.mp hreadable
      rw [written, String.toList_append]
      apply NoWordEndsIn.append _ (ih hrest hcontents)
      match hsome : contents kind with
      | none => exact .nil
      | some content =>
          rw [clause, String.toList_append]
          exact kind.noWordEndsIn_opening.append (noWordEndsIn_code hkind (hcontent content hsome))

/-- In front of clauses in their order, every content can be read. -/
theorem follows_written {kind : ClauseKind} {contents : (kind : ClauseKind) → Option kind.Content}
    {kinds : List ClauseKind} (hlater : ∀ later ∈ kinds, kind.place < later.place)
    (hreadable : ∀ kind ∈ kinds, ∀ content ∈ contents kind, kind.IsReadable content) :
    kind.Follows (written contents kinds).toList := by
  have hbreaks : Breaks (written contents kinds).toList :=
    breaks_of_goesOn (goesOn_written contents kinds)
  cases kind with
  | condition => exact ⟨hbreaks, noWordEndsIn_written hlater hreadable⟩
  | _ => exact hbreaks

/-- Clauses in their order are told by their text, one after the other. -/
theorem contents_eq {contents contents' : (kind : ClauseKind) → Option kind.Content}
    {kinds : List ClauseKind} (hsorted : kinds.Pairwise fun kind later => kind.place < later.place)
    (hreadable : ∀ kind ∈ kinds, ∀ content ∈ contents kind, kind.IsReadable content)
    (hreadable' : ∀ kind ∈ kinds, ∀ content ∈ contents' kind, kind.IsReadable content)
    (htext : written contents kinds = written contents' kinds) :
    ∀ kind ∈ kinds, contents kind = contents' kind := by
  induction kinds with
  | nil =>
      intro kind hkind
      cases hkind
  | cons first rest ih =>
      obtain ⟨hlater, hrest⟩ := List.pairwise_cons.mp hsorted
      obtain ⟨hcontent, hcontents⟩ := List.forall_mem_cons.mp hreadable
      obtain ⟨hcontent', hcontents'⟩ := List.forall_mem_cons.mp hreadable'
      have hfirst : first ∉ rest := by
        intro hmem
        exact absurd (hlater first hmem) (Nat.lt_irrefl _)
      -- The first clause is read before the others, which come later and are told from it.
      have hchars := congrArg String.toList htext
      rw [written, written, String.toList_append, String.toList_append] at hchars
      obtain ⟨hsame, hwritten⟩ := read_clause hfirst hcontent hcontent' (goesOn_written _ _)
        (goesOn_written _ _) (follows_written hlater hcontents)
        (follows_written hlater hcontents') hchars
      rw [List.forall_mem_cons]
      constructor
      · exact hsame
      · exact ih hrest hcontents hcontents' (String.toList_inj.mp hwritten)

end ClauseKind

/-- A clause behind its keyword. -/
theorem ClauseKind.clause_some (kind : ClauseKind) (content : kind.Content) :
    spacedClauses [kind.keyword ++ kind.code content] = kind.clause (some content) := by
  have htext : kind.keyword ++ kind.code content ≠ "" := by simp [kind.keyword_ne_empty]
  rw [spacedClauses_singleton htext, clause, opening, String.append_assoc]

/-- A list as something to say: the empty one says nothing. -/
def unlessEmpty {α : Type} (items : List α) : Option (List α) :=
  if items.isEmpty then none else some items

theorem mem_unlessEmpty {α : Type} {items content : List α} (h : content ∈ unlessEmpty items) :
    content = items ∧ content ≠ [] := by
  unfold unlessEmpty at h
  split at h
  · cases h
  · cases h
    exact ⟨rfl, by simp_all⟩

theorem unlessEmpty_inj {α : Type} {items items' : List α}
    (h : unlessEmpty items = unlessEmpty items') : items = items' := by
  cases items <;> cases items' <;> simp_all [unlessEmpty]

namespace Clauses

/-- What clauses with names as they were given have to say in each place. -/
def content? (clauses : Clauses) : (kind : ClauseKind) → Option kind.Content
  | .forceIndex => clauses.forceIndex
  | .condition =>
      if clauses.filter.leaves.isEmpty then none else some (clauses.filter.spelled Value.mark)
  | .groupBy => unlessEmpty clauses.groupBy
  | .orderBy => unlessEmpty clauses.orderBy
  | .limit => clauses.limit
  | .offset => clauses.offset
  | .forUpdate => if clauses.forUpdate then some () else none

/-- The text of one clause. -/
def textOf (clauses : Clauses) : ClauseKind → String
  | .forceIndex => clauses.forceIndexText
  | .condition => clauses.spelledWhere Value.mark
  | .groupBy => clauses.groupByText
  | .orderBy => clauses.orderByText
  | .limit => clauses.limitText
  | .offset => clauses.offsetText
  | .forUpdate => clauses.forUpdateText

/-- The names of one clause, unless it is the condition. -/
def namesOf (clauses : Clauses) : ClauseKind → List String
  | .forceIndex => clauses.forceIndex.toList
  | .groupBy => clauses.groupBy
  | .orderBy => clauses.sortColumns
  | .condition | .limit | .offset | .forUpdate => []

/-- Whether two sequences of clauses say the same in one place. -/
def SameIn (clauses clauses' : Clauses) : ClauseKind → Prop
  | .forceIndex => clauses.forceIndex = clauses'.forceIndex
  | .condition => (clauses.filter.write.run []).1 = (clauses'.filter.write.run []).1
  | .groupBy => clauses.groupBy = clauses'.groupBy
  | .orderBy => clauses.orderBy = clauses'.orderBy
  | .limit => clauses.limit = clauses'.limit
  | .offset => clauses.offset = clauses'.offset
  | .forUpdate => clauses.forUpdate = clauses'.forUpdate

theorem spacedClauses_textOf (clauses : Clauses) (kind : ClauseKind) :
    spacedClauses [clauses.written.textOf kind] = kind.clause (clauses.content? kind) := by
  obtain ⟨filter, groupBy, orderBy, limit, offset, forceIndex, _, forUpdate⟩ := clauses
  cases kind with
  | forceIndex =>
      cases forceIndex with
      | none => rfl
      | some name =>
          have hassoc : "FORCE INDEX (" ++ Identifier.quote name ++ ")" =
              ClauseKind.forceIndex.keyword ++ ClauseKind.forceIndex.code name :=
            String.append_assoc
          exact (congrArg (fun text => spacedClauses [text]) hassoc).trans
            (ClauseKind.forceIndex.clause_some name)
  | condition =>
      cases hleaves : filter.leaves.isEmpty with
      | true =>
          simp only [textOf, spelledWhere, content?, written, hleaves, if_true]
          rfl
      | false =>
          simp only [textOf, spelledWhere, content?, written, hleaves, Bool.false_eq_true, if_false]
          exact ClauseKind.condition.clause_some (filter.spelled Value.mark)
  | groupBy =>
      cases groupBy with
      | nil => rfl
      | cons first rest => exact ClauseKind.groupBy.clause_some (first :: rest)
  | orderBy =>
      simp only [textOf, orderByText, content?, written, unlessEmpty, List.isEmpty_map,
        List.map_map]
      cases orderBy.isEmpty with
      | true => rfl
      | false => exact ClauseKind.orderBy.clause_some orderBy
  | limit =>
      cases limit with
      | none => rfl
      | some count => exact ClauseKind.limit.clause_some count
  | offset =>
      cases offset with
      | none => rfl
      | some count => exact ClauseKind.offset.clause_some count
  | forUpdate => cases forUpdate <;> rfl

theorem spacedClauses_map_textOf (clauses : Clauses) (kinds : List ClauseKind) :
    spacedClauses (kinds.map clauses.written.textOf) =
      ClauseKind.written clauses.content? kinds := by
  induction kinds with
  | nil => rfl
  | cons kind rest ih =>
      rw [List.map_cons, spacedClauses_cons, spacedClauses_textOf, ih, ClauseKind.written]

/-- What a clause has to say can be read when its names are plain. A condition can always be read.
-/
theorem isReadable_content {clauses : Clauses} {kind : ClauseKind}
    (hnames : ∀ name ∈ clauses.namesOf kind, IsPlain name) :
    ∀ content ∈ clauses.content? kind, kind.IsReadable content := by
  intro content hcontent
  cases kind with
  | forceIndex => exact hnames content (by simpa [namesOf, content?] using hcontent)
  | condition =>
      rw [content?] at hcontent
      split at hcontent
      · cases hcontent
      · cases hcontent
        exact Filter.spelled_mark_endsIn (by simp_all)
  | groupBy =>
      obtain ⟨rfl, hne⟩ := mem_unlessEmpty hcontent
      exact ⟨hne, hnames⟩
  | orderBy =>
      obtain ⟨rfl, hne⟩ := mem_unlessEmpty hcontent
      refine ⟨hne, ?_⟩
      intro key hkey
      exact hnames key.column (List.mem_map_of_mem hkey)
  | limit => trivial
  | offset => trivial
  | forUpdate => trivial

theorem sameIn_of_content? {clauses clauses' : Clauses} {kind : ClauseKind}
    (h : clauses.content? kind = clauses'.content? kind) : clauses.SameIn clauses' kind := by
  cases kind with
  | forceIndex => exact h
  | condition =>
      have htext (clauses : Clauses) : (clauses.filter.write.run []).1 =
          (show Option String from clauses.content? .condition).getD "" := by
        rw [Filter.run_write, content?]
        by_cases hleaves : clauses.filter.leaves = []
        · simp [hleaves, Filter.spelled_of_leaves_eq_nil]
        · simp [hleaves]
      have hcontent := congrArg (fun text : Option String => text.getD "") h
      exact (htext clauses).trans (hcontent.trans (htext clauses').symm)
  | groupBy => exact unlessEmpty_inj h
  | orderBy => exact unlessEmpty_inj h
  | limit => exact h
  | offset => exact h
  | forUpdate =>
      have hflag (clauses : Clauses) :
          clauses.forUpdate = (clauses.content? .forUpdate).isSome := by
        cases hupdate : clauses.forUpdate <;> simp [content?, hupdate]
      exact (hflag clauses).trans ((congrArg Option.isSome h).trans (hflag clauses').symm)

end Clauses

end BoundSql
