import BoundSql.Proofs.Record.Columns
import BoundSql.Proofs.Statement.Spelling
import BoundSql.Proofs.Text.Words

/-!
Which columns of a record type are empty. The texts that attributes give are never empty, and a name
keeps its characters in lower or upper case. But the styles that put a name together from its words
have nothing left of a name without letters and digits, such as `__`. Its column is empty, and so is
the item for it in a selection.
-/

namespace BoundSql.Record

open Text Letter

/-- The characters of a name that a style keeps, if not in the same case. -/
def CaseStyle.keeps (style : CaseStyle) (c : Char) : Bool :=
  match style with
  | .lowercase | .uppercase => true
  | .snake | .camel | .pascal | .screamingSnake | .kebab => isAlphanumeric c

/-- A style leaves nothing of a name just when the name has no words. -/
theorem joinWords_eq_empty_iff {form : List Char → List Char}
    (hform : ∀ word, form word = [] ↔ word = []) (separator : List Char) (name : String) :
    joinWords separator form name = "" ↔ words name = [] := by
  rw [joinWords, String.ofList_eq_empty_iff]
  cases hwords : words name with
  | nil => simp [List.intercalate]
  | cons first rest =>
      have hfirst : form first ≠ [] := by
        rw [ne_eq, hform]
        rintro rfl
        exact nil_notMem_words name (by rw [hwords]; exact List.mem_cons_self)
      cases rest with
      | nil => simp [List.intercalate, hfirst]
      | cons second others => simp [List.intercalate, hfirst]

theorem eq_empty_iff_nothing_kept (name : String) :
    name = "" ↔ ∀ c ∈ name.toList, true = false := by
  rw [← String.toList_eq_nil_iff, List.eq_nil_iff_forall_not_mem]
  simp

/-- A name is lost in a style just when the style keeps none of its characters. -/
theorem CaseStyle.apply_eq_empty_iff (style : CaseStyle) (name : String) :
    style.apply name = "" ↔ ∀ c ∈ name.toList, style.keeps c = false := by
  have hnone := eq_empty_iff_nothing_kept name
  cases style with
  | lowercase => exact lowerText_eq_empty_iff.trans hnone
  | uppercase => exact upperText_eq_empty_iff.trans hnone
  | snake =>
      exact (joinWords_eq_empty_iff (fun _ => lowerWord_eq_nil_iff) _ name).trans words_eq_nil_iff
  | screamingSnake =>
      exact (joinWords_eq_empty_iff (fun _ => upperWord_eq_nil_iff) _ name).trans words_eq_nil_iff
  | kebab =>
      exact (joinWords_eq_empty_iff (fun _ => lowerWord_eq_nil_iff) _ name).trans words_eq_nil_iff
  | pascal =>
      exact (joinWords_eq_empty_iff (fun _ => capitalWord_eq_nil_iff) _ name).trans
        words_eq_nil_iff
  | camel =>
      refine Iff.trans ?_ words_eq_nil_iff
      rw [apply]
      cases hwords : words name with
      | nil => simp
      | cons first rest =>
          have hfirst : lowerWord first ≠ [] := by
            rw [ne_eq, lowerWord_eq_nil_iff]
            rintro rfl
            exact nil_notMem_words name (by rw [hwords]; exact List.mem_cons_self)
          simp [hfirst]

/-- The characters of field names that remain in columns, under the items of the type. -/
def keptInColumns (shared : List Item) (c : Char) : Bool :=
  match (lastText "rename_all" shared).bind CaseStyle.ofRule? with
  | some style => style.keeps c
  | none => true

/-- A field whose column comes from its name, while nothing of its name remains. -/
structure Field.Vanishes (field : Field) (type : List Attribute) : Prop where
  kept_in : ¬ hasKey "skip" (readableItems field.attributes)
  untagged : ¬ field.IsTagged
  included : lastText "untagged" (readableItems type) ≠ some "skip"
  nothing_kept : ∀ c ∈ (bareName field.name).toList, keptInColumns (readableItems type) c = false

theorem giving_mem_of_lastText {key content : String} {items : List Item}
    (h : lastText key items = some content) : .giving key content ∈ items := by
  have hmem := List.mem_of_getLast? h
  obtain ⟨item, hitem, htext⟩ := List.mem_filterMap.1 hmem
  rw [Item.textFor?] at htext
  split at htext
  · next text hform =>
      split at htext
      · next hkey =>
          cases htext
          obtain ⟨_, _⟩ := item
          cases hkey
          cases hform
          exact hitem
      · cases htext
  · cases htext

theorem hasKey_of_lastText {key content : String} {items : List Item}
    (h : lastText key items = some content) : hasKey key items := by
  rw [hasKey, List.any_eq_true]
  exact ⟨_, giving_mem_of_lastText h, by simp⟩

theorem Field.column?_of_not_isTagged {field : Field} (h : ¬ field.IsTagged)
    (type : List Attribute) :
    field.column? type = if hasKey "skip" (readableItems field.attributes) then none
      else field.defaultColumn? (readableItems type) := by
  obtain ⟨hcolumn, hexpression⟩ := not_or.mp h
  have hnone {key : String} (hkey : ¬ hasKey key (readableItems field.attributes)) :
      lastText key (readableItems field.attributes) = none := by
    rw [Option.eq_none_iff_forall_ne_some]
    exact fun content htext => hkey (hasKey_of_lastText htext)
  rw [column?, hnone hcolumn, hnone hexpression]
  rfl

/-- The column of a field without a name of its own is empty just when no character of its name is
kept. -/
theorem Field.defaultColumn?_eq_empty_iff (field : Field) (shared : List Item) :
    field.defaultColumn? shared = some "" ↔ lastText "untagged" shared ≠ some "skip" ∧
      ∀ c ∈ (bareName field.name).toList, keptInColumns shared c = false := by
  rw [defaultColumn?]
  by_cases hskip : lastText "untagged" shared = some "skip"
  · simp [hskip]
  · rw [if_neg hskip]
    cases hstyle : (lastText "rename_all" shared).bind CaseStyle.ofRule? with
    | some style =>
        simp only [keptInColumns, hstyle, Option.some.injEq, style.apply_eq_empty_iff, ne_eq, hskip,
          not_false_eq_true, true_and]
    | none =>
        simp only [keptInColumns, hstyle, Option.some.injEq, ne_eq, hskip, not_false_eq_true,
          true_and]
        exact eq_empty_iff_nothing_kept _

theorem Item.OfField.content_ne_empty {key content : String}
    (h : (Item.giving key content).OfField) : content ≠ "" := by
  cases h with
  | column nonempty => exact nonempty
  | expression nonempty => exact nonempty

/-- What a field is told to be called is not empty. -/
theorem Field.column?_ne_empty_of_isTagged {field : Field}
    (hwell : ∀ attr ∈ field.attributes, attr.WellFormed Item.OfField) (htagged : field.IsTagged)
    (type : List Attribute) : field.column? type ≠ some "" := by
  have hfits := fits_of_mem_readableItems hwell
  have hnonempty (key : String) : lastText key (readableItems field.attributes) ≠ some "" := by
    intro htext
    exact (hfits _ (giving_mem_of_lastText htext)).content_ne_empty rfl
  intro hempty
  rw [column?] at hempty
  split at hempty
  · cases hempty
  cases hexpression : lastText "expr" (readableItems field.attributes) with
  | some expression =>
      rw [hexpression] at hempty
      exact hnonempty "expr" (hexpression.trans hempty)
  | none =>
      cases hcolumn : lastText "column" (readableItems field.attributes) with
      | some column =>
          rw [hexpression, hcolumn] at hempty
          exact hnonempty "column" (hcolumn.trans hempty)
      | none =>
          rcases htagged with hkey | hkey
          · obtain ⟨_, htext⟩ := exists_lastText hkey fun item hmem =>
              (hfits item hmem).exists_giving (by decide)
            rw [htext] at hcolumn
            cases hcolumn
          · obtain ⟨_, htext⟩ := exists_lastText hkey fun item hmem =>
              (hfits item hmem).exists_giving (by decide)
            rw [htext] at hexpression
            cases hexpression

/-- The column of a field is empty just when the field vanishes. -/
theorem Field.column?_eq_empty_iff {field : Field}
    (hwell : ∀ attr ∈ field.attributes, attr.WellFormed Item.OfField) (type : List Attribute) :
    field.column? type = some "" ↔ field.Vanishes type := by
  constructor
  · intro hempty
    have huntagged : ¬ field.IsTagged := fun htagged =>
      field.column?_ne_empty_of_isTagged hwell htagged type hempty
    rw [field.column?_of_not_isTagged huntagged] at hempty
    split at hempty
    · cases hempty
    · next hskip =>
        obtain ⟨hincluded, hnothing⟩ := (field.defaultColumn?_eq_empty_iff _).mp hempty
        exact ⟨hskip, huntagged, hincluded, hnothing⟩
  · rintro ⟨hskip, huntagged, hincluded, hnothing⟩
    rw [field.column?_of_not_isTagged huntagged, if_neg hskip]
    exact (field.defaultColumn?_eq_empty_iff _).mpr ⟨hincluded, hnothing⟩

/-- The items of a selection. -/
def selectItems (columns : List String) : List String :=
  if columns.isEmpty then ["*"] else columns.map Identifier.quote

theorem quote_eq_empty_iff {name : String} : Identifier.quote name = "" ↔ name = "" := by
  rw [Identifier.quote]
  split
  · exact Iff.rfl
  · next hquoted =>
      have hname : name ≠ "" := by
        rintro rfl
        simp at hquoted
      simp [hname]

/-- An empty column is an empty item of the selection. -/
theorem empty_mem_selectItems_iff {columns : List String} :
    "" ∈ selectItems columns ↔ "" ∈ columns := by
  rw [selectItems]
  split
  · next hnone => simp [List.isEmpty_iff.mp hnone]
  · simp [quote_eq_empty_iff]

theorem exists_sql_selectRecord (scope : Scope) (columns : List String) :
    ∃ rest, (scope.statement (.selectRecord columns)).sql =
      "SELECT " ++ ", ".intercalate (selectItems columns) ++ " FROM " ++
        Identifier.quote scope.table ++ rest := by
  have hlist : (if columns.isEmpty then "*" else Identifier.quoteList columns) =
      ", ".intercalate (selectItems columns) := by
    rw [selectItems]
    split <;> rfl
  have hsql : (scope.statement (.selectRecord columns)).sql =
      scope.spelled Value.mark (.select columns) := by
    rw [scope.statement_eq]
    rfl
  rw [hsql, Scope.spelled, hlist]
  exact ⟨_, appendClauses_eq _ _⟩

/-- The empty columns of a record type are those of the fields that vanish, and only such a field
leaves an empty item in the selections of the record. -/
theorem empty_columns_iff {declaration : Declaration} {columns : List String}
    (h : declaration.columns = .ok columns) :
    ("" ∈ columns ↔ ∃ field ∈ declaration.fields, field.Vanishes declaration.attributes) ∧
      ("" ∈ selectItems columns ↔
        ∃ field ∈ declaration.fields, field.Vanishes declaration.attributes) ∧
      ∀ scope : Scope, ∃ rest, (scope.statement (.selectRecord columns)).sql =
        "SELECT " ++ ", ".intercalate (selectItems columns) ++ " FROM " ++
          Identifier.quote scope.table ++ rest := by
  have hwell := declaration.wellFormed_iff.mpr ⟨columns, h⟩
  have hcolumns : columns = declaration.fields.filterMap (·.column? declaration.attributes) := by
    rw [Declaration.columns_eq hwell] at h
    exact (Except.ok.inj h).symm
  have hempty : "" ∈ columns ↔
      ∃ field ∈ declaration.fields, field.Vanishes declaration.attributes := by
    rw [hcolumns, List.mem_filterMap]
    constructor
    · rintro ⟨field, hfield, hcolumn⟩
      have hattributes := hwell.ofFields field hfield
      exact ⟨field, hfield, (field.column?_eq_empty_iff hattributes _).mp hcolumn⟩
    · rintro ⟨field, hfield, hvanishes⟩
      have hattributes := hwell.ofFields field hfield
      exact ⟨field, hfield, (field.column?_eq_empty_iff hattributes _).mpr hvanishes⟩
  refine ⟨hempty, empty_mem_selectItems_iff.trans hempty, ?_⟩
  intro scope
  exact exists_sql_selectRecord scope columns

/-- A field of underscores vanishes, unless it says which column it has. -/
theorem empty_columns_of_untagged_underscores :
    let attributes : List Attribute := [⟨attributePath, .list [.giving "rename_all" "kebab-case"]⟩]
    let vanishing : Field := ⟨"__", []⟩
    let tagged : Field := ⟨"___", [⟨attributePath, .list [.giving "column" "rest"]⟩]⟩
    let declaration : Declaration :=
      ⟨.namedFields, attributes, [⟨"user_id", []⟩, vanishing, tagged]⟩
    declaration.columns = .ok ["user-id", "", "rest"] ∧ "" ∈ selectItems ["user-id", "", "rest"] ∧
      ∃ field ∈ declaration.fields, field.Vanishes attributes := by
  intro attributes vanishing tagged declaration
  have hcolumns : declaration.columns = .ok ["user-id", "", "rest"] := by decide +kernel
  obtain ⟨hempty, hitems, _⟩ := empty_columns_iff hcolumns
  have hvanishes := hempty.mp (by simp)
  exact ⟨hcolumns, hitems.mpr hvanishes, hvanishes⟩

/-- The empty text is refused as a column in an attribute, yet a record type can have it. -/
theorem empty_column_in_snake_case :
    let declaration : Declaration :=
      ⟨.namedFields, [⟨attributePath, .list [.giving "rename_all" "snake_case"]⟩], [⟨"__", []⟩]⟩
    let scope : Scope := { table := "t" }
    declaration.columns = .ok [""] ∧
      (scope.statement (.selectRecord [""])).sql = "SELECT  FROM \x60t\x60" := by
  intro declaration scope
  exact ⟨rfl, by decide +kernel⟩

end BoundSql.Record
