import BoundSql.Proofs.Record.Settings
import BoundSql.Record.Columns
import Mathlib.Logic.Relation

/-!
The columns of a well-formed declaration. Each field has a column of its own, or none, by a rule
that reads the items of the field and of the type; the rule does not see what else a declaration
consists of. The same record can be declared in many ways, and all of them have the same columns.
-/

namespace BoundSql.Record

/-- A declaration of named fields whose attributes are all well-formed. -/
structure Declaration.WellFormed (declaration : Declaration) : Prop where
  named : declaration.shape = .namedFields
  ofType : ∀ attr ∈ declaration.attributes, attr.WellFormed Item.OfType
  ofFields : ∀ field ∈ declaration.fields, ∀ attr ∈ field.attributes, attr.WellFormed Item.OfField

theorem Declaration.wellFormed_iff_parts (declaration : Declaration) :
    declaration.WellFormed ↔ declaration.shape = .namedFields ∧
      (∀ attr ∈ declaration.attributes, attr.WellFormed Item.OfType) ∧
        ∀ field ∈ declaration.fields, ∀ attr ∈ field.attributes, attr.WellFormed Item.OfField :=
  ⟨fun h => ⟨h.named, h.ofType, h.ofFields⟩, fun ⟨named, ofType, ofFields⟩ =>
    ⟨named, ofType, ofFields⟩⟩

/-- The column of a field that names none, under the items of its type. -/
def Field.defaultColumn? (field : Field) (shared : List Item) : Option String :=
  if lastText "untagged" shared = some "skip" then none
  else
    match (lastText "rename_all" shared).bind CaseStyle.ofRule? with
    | some style => some (style.apply (bareName field.name))
    | none => some (bareName field.name)

/-- The column of a field, if it has one, under the attributes of its type. -/
def Field.column? (field : Field) (type : List Attribute) : Option String :=
  let own := readableItems field.attributes
  if hasKey "skip" own then none
  else (lastText "expr" own).or <| (lastText "column" own).or <|
    field.defaultColumn? (readableItems type)

/-- A field that names its column or its expression. -/
def Field.IsTagged (field : Field) : Prop :=
  hasKey "column" (readableItems field.attributes) ∨ hasKey "expr" (readableItems field.attributes)

/-- What is read from the items of a field and of its type gives the column of the field. -/
theorem Field.columnOf_told (field : Field) (type : List Attribute) :
    (FieldSettings.told (readableItems field.attributes)).columnOf
      (TypeSettings.told (readableItems type)) field.name = field.column? type := by
  rw [FieldSettings.columnOf, column?]
  -- One case for each place in which a column can be found, in the order of preference.
  by_cases hskip : hasKey "skip" (readableItems field.attributes)
  · rw [if_pos hskip]
    exact if_pos hskip
  rw [if_neg hskip]
  refine (if_neg hskip).trans ?_
  cases hexpression : lastText "expr" (readableItems field.attributes) with
  | some expression => simp [FieldSettings.told, hexpression]
  | none =>
      cases hcolumn : lastText "column" (readableItems field.attributes) with
      | some column => simp [FieldSettings.told, hexpression, hcolumn]
      | none =>
          rw [defaultColumn?]
          by_cases huntagged : lastText "untagged" (readableItems type) = some "skip"
          · simp [FieldSettings.told, TypeSettings.told, hexpression, hcolumn, huntagged]
          · cases hstyle : (lastText "rename_all" (readableItems type)).bind CaseStyle.ofRule? <;>
              simp [FieldSettings.told, TypeSettings.told, hexpression, hcolumn, huntagged, hstyle]

/-- What the type says does not matter to a field that is tagged. -/
theorem Field.column?_of_isTagged {field : Field}
    (hwell : ∀ attr ∈ field.attributes, attr.WellFormed Item.OfField) (htagged : field.IsTagged)
    (type others : List Attribute) : field.column? others = field.column? type := by
  have hfits := fits_of_mem_readableItems hwell
  rw [column?, column?]
  rcases htagged with hcolumn | hexpression
  · obtain ⟨column, htext⟩ := exists_lastText hcolumn fun item hmem =>
      (hfits item hmem).exists_giving (by decide)
    rw [htext]
    rfl
  · obtain ⟨expression, htext⟩ := exists_lastText hexpression fun item hmem =>
      (hfits item hmem).exists_giving (by decide)
    rw [htext]
    rfl

/-- Fields are read one after the other, each by the rule. -/
theorem fieldColumns_told (type : List Attribute) {fields : List Field}
    (hwell : ∀ field ∈ fields, ∀ attr ∈ field.attributes, attr.WellFormed Item.OfField) :
    fieldColumns (TypeSettings.told (readableItems type)) fields =
      .ok (fields.filterMap (·.column? type)) := by
  induction fields with
  | nil => rfl
  | cons field rest ih =>
      obtain ⟨hattributes, hothers⟩ := List.forall_mem_cons.1 hwell
      have hfield := readAttributes_told (fun _ => Item.OfField.ending_eq)
        FieldSettings.readItem_told [] hattributes
      rw [FieldSettings.told_nil, List.nil_append] at hfield
      have hrule := field.columnOf_told type
      rw [fieldColumns, hfield, ih hothers]
      simp only [bind, Except.bind, hrule]
      cases hcolumn : field.column? type <;> simp [hcolumn]

theorem wellFormed_of_fieldColumns {type : TypeSettings} {fields : List Field}
    {list : List String} (hread : fieldColumns type fields = .ok list) :
    ∀ field ∈ fields, ∀ attr ∈ field.attributes, attr.WellFormed Item.OfField := by
  induction fields generalizing list with
  | nil => intro field hmem; cases hmem
  | cons first rest ih =>
      rw [fieldColumns] at hread
      obtain ⟨settings, hfirst, hnext⟩ := exists_of_bind_ok hread
      obtain ⟨columns, hrest, -⟩ := exists_of_bind_ok hnext
      have hwell := wellFormed_of_readAttributes Item.ofField_of_readItem hfirst
      exact List.forall_mem_cons.2 ⟨hwell, ih hrest⟩

/-- A well-formed declaration has the columns of its fields, in the order of the fields. -/
theorem Declaration.columns_eq {declaration : Declaration} (h : declaration.WellFormed) :
    declaration.columns =
      .ok (declaration.fields.filterMap (·.column? declaration.attributes)) := by
  have htype := readAttributes_told (fun _ => Item.OfType.ending_eq)
    TypeSettings.readItem_told [] h.ofType
  rw [TypeSettings.told_nil, List.nil_append] at htype
  rw [columns, h.named, htype]
  exact fieldColumns_told _ h.ofFields

/-- A declaration has columns, and no fault, just when it is well-formed. -/
theorem Declaration.wellFormed_iff (declaration : Declaration) :
    declaration.WellFormed ↔ ∃ list, declaration.columns = .ok list := by
  constructor
  · intro h
    exact ⟨_, columns_eq h⟩
  · rintro ⟨list, hcolumns⟩
    rw [columns] at hcolumns
    cases hshape : declaration.shape with
    | enumeration => rw [hshape] at hcolumns; cases hcolumns
    | union => rw [hshape] at hcolumns; cases hcolumns
    | tuple => rw [hshape] at hcolumns; cases hcolumns
    | unit => rw [hshape] at hcolumns; cases hcolumns
    | namedFields =>
        rw [hshape] at hcolumns
        obtain ⟨type, htype, hfields⟩ := exists_of_bind_ok hcolumns
        exact ⟨hshape, wellFormed_of_readAttributes Item.ofType_of_readItem htype,
          wellFormed_of_fieldColumns hfields⟩

/-- Attributes that say the same: one that is passed over comes in, one that is read is cut in two,
or two neighbouring items of different keys change places. -/
inductive Regrouped : List Attribute → List Attribute → Prop
  | pass (before after : List Attribute) {foreign : Attribute}
      (h : foreign.path ≠ attributePath) :
      Regrouped (before ++ after) (before ++ foreign :: after)
  | split (before after : List Attribute) (first second : List Item) :
      Regrouped (before ++ ⟨attributePath, .list (first ++ second)⟩ :: after)
        (before ++ ⟨attributePath, .list first⟩ :: ⟨attributePath, .list second⟩ :: after)
  | swap (before after : List Attribute) (front back : List Item) {item other : Item}
      (h : item.key ≠ other.key) :
      Regrouped (before ++ ⟨attributePath, .list (front ++ item :: other :: back)⟩ :: after)
        (before ++ ⟨attributePath, .list (front ++ other :: item :: back)⟩ :: after)

/-- Declarations of the same record: the attributes of the type or of one field are regrouped, or
the name of one field is written as a raw identifier. -/
inductive Rewritten : Declaration → Declaration → Prop
  | type {shape : Shape} {attributes others : List Attribute} (fields : List Field)
      (h : Regrouped attributes others) :
      Rewritten ⟨shape, attributes, fields⟩ ⟨shape, others, fields⟩
  | field {shape : Shape} (attributes : List Attribute) (before after : List Field) (name : String)
      {own others : List Attribute} (h : Regrouped own others) :
      Rewritten ⟨shape, attributes, before ++ ⟨name, own⟩ :: after⟩
        ⟨shape, attributes, before ++ ⟨name, others⟩ :: after⟩
  | raw {shape : Shape} (attributes : List Attribute) (before after : List Field)
      (own : List Attribute) {name : String} (h : ¬ "r#".toList <+: name.toList) :
      Rewritten ⟨shape, attributes, before ++ ⟨name, own⟩ :: after⟩
        ⟨shape, attributes, before ++ ⟨"r#" ++ name, own⟩ :: after⟩

/-- However items are grouped, each key has the same items in the same order. -/
theorem Regrouped.sameForEachKey {attributes others : List Attribute}
    (h : Regrouped attributes others) :
    SameForEachKey (readableItems attributes) (readableItems others) := by
  cases h with
  | pass before after hforeign =>
      intro key
      simp [Attribute.items_of_foreign hforeign]
  | split before after first second =>
      intro key
      simp
  | swap before after front back hkeys =>
      simpa using SameForEachKey.swap (readableItems before ++ front)
        (back ++ readableItems after) hkeys

theorem Regrouped.wellFormed_iff {attributes others : List Attribute}
    (h : Regrouped attributes others) (Fits : Item → Prop) :
    (∀ attr ∈ attributes, attr.WellFormed Fits) ↔ ∀ attr ∈ others, attr.WellFormed Fits := by
  cases h with
  | pass before after hforeign =>
      have hwell := Attribute.wellFormed_of_foreign Fits hforeign
      simp only [List.forall_mem_append, List.forall_mem_cons, hwell, true_and]
  | split before after first second =>
      simp only [List.forall_mem_append, List.forall_mem_cons, Attribute.wellFormed_list, and_assoc]
  | swap before after front back hkeys =>
      simp only [List.forall_mem_append, List.forall_mem_cons, Attribute.wellFormed_list,
        and_left_comm]

-- The rule looks at each key by itself, and at no more of a name than is left without its mark.

theorem Field.column?_congr_type (field : Field) {type others : List Attribute}
    (h : SameForEachKey (readableItems type) (readableItems others)) :
    field.column? others = field.column? type := by
  rw [column?, column?, defaultColumn?, defaultColumn?, h.lastText_eq, h.lastText_eq]

/-- Of its own items, a field needs to know nothing but those of each key. -/
theorem Field.column?_congr_own (name : String) {own others : List Attribute}
    (h : SameForEachKey (readableItems own) (readableItems others)) (type : List Attribute) :
    Field.column? ⟨name, others⟩ type = Field.column? ⟨name, own⟩ type := by
  rw [column?, column?, h.lastText_eq, h.lastText_eq, h.hasKey_eq]
  rfl

theorem bareName_raw (name : String) : bareName ("r#" ++ name) = name := by
  rw [bareName, String.toList_append]
  exact String.ofList_toList

theorem bareName_of_not_raw {name : String} (h : ¬ "r#".toList <+: name.toList) :
    bareName name = name := by
  rw [bareName]
  split
  case h_1 rest hname => exact absurd ⟨rest, hname.symm⟩ h
  case h_2 => rfl

/-- A raw name gives the column of the bare one. -/
theorem Field.column?_raw {name : String} (h : ¬ "r#".toList <+: name.toList)
    (own type : List Attribute) :
    Field.column? ⟨"r#" ++ name, own⟩ type = Field.column? ⟨name, own⟩ type := by
  rw [column?, column?, defaultColumn?, defaultColumn?, bareName_raw, bareName_of_not_raw h]

theorem Rewritten.wellFormed_iff {declaration other : Declaration}
    (h : Rewritten declaration other) : declaration.WellFormed ↔ other.WellFormed := by
  cases h with
  | type fields hgroups =>
      have hattributes := hgroups.wellFormed_iff Item.OfType
      exact ⟨fun h => ⟨h.named, hattributes.1 h.ofType, h.ofFields⟩,
        fun h => ⟨h.named, hattributes.2 h.ofType, h.ofFields⟩⟩
  | field attributes before after name hgroups =>
      have hattributes := hgroups.wellFormed_iff Item.OfField
      simp only [Declaration.wellFormed_iff_parts, List.forall_mem_append, List.forall_mem_cons,
        hattributes]
  | raw attributes before after own hname =>
      simp only [Declaration.wellFormed_iff_parts, List.forall_mem_append, List.forall_mem_cons]

/-- A rewrite keeps the columns that the rule gives. -/
theorem Rewritten.rule_eq {declaration other : Declaration} (h : Rewritten declaration other) :
    other.fields.filterMap (·.column? other.attributes) =
      declaration.fields.filterMap (·.column? declaration.attributes) := by
  cases h with
  | type fields hgroups =>
      have hcolumn := fun field => Field.column?_congr_type field hgroups.sameForEachKey
      simp only [hcolumn]
  | field attributes before after name hgroups =>
      have hcolumn := Field.column?_congr_own name hgroups.sameForEachKey
      simp only [List.filterMap_append, List.filterMap_cons, hcolumn]
  | raw attributes before after own hname =>
      have hcolumn := Field.column?_raw hname own
      simp only [List.filterMap_append, List.filterMap_cons, hcolumn]

theorem Rewritten.columns_eq {declaration other : Declaration} (h : Rewritten declaration other)
    (hwell : declaration.WellFormed) : other.columns = declaration.columns := by
  rw [Declaration.columns_eq hwell, Declaration.columns_eq (h.wellFormed_iff.1 hwell), h.rule_eq]

/-- A declaration may be rewritten many times, forwards and backwards. -/
theorem columns_eq_of_eqvGen {declaration other : Declaration}
    (h : Relation.EqvGen Rewritten declaration other) :
    (declaration.WellFormed ↔ other.WellFormed) ∧
      (declaration.WellFormed → other.columns = declaration.columns) := by
  induction h with
  | rel declaration other h => exact ⟨h.wellFormed_iff, h.columns_eq⟩
  | refl declaration => exact ⟨Iff.rfl, fun _ => rfl⟩
  | symm declaration other h ih => exact ⟨ih.1.symm, fun hwell => (ih.2 (ih.1.2 hwell)).symm⟩
  | trans first second third _ _ ih ih' =>
      exact ⟨ih.1.trans ih'.1, fun hwell => (ih'.2 (ih.1.1 hwell)).trans (ih.2 hwell)⟩

/-- The columns of a well-formed declaration are those that the rule gives to its fields, in their
order. So they stay the same when the declaration is rewritten, and when the type says something
else about its fields, what comes from the tagged ones stays the same. -/
theorem columns_of_wellFormed {declaration : Declaration} (h : declaration.WellFormed) :
    declaration.columns =
        .ok (declaration.fields.filterMap (·.column? declaration.attributes)) ∧
      (∀ other, Relation.EqvGen Rewritten declaration other →
        other.columns = declaration.columns) ∧
      ∀ others, (∀ attr ∈ others, attr.WellFormed Item.OfType) →
        { declaration with attributes := others }.columns =
            .ok (declaration.fields.filterMap (·.column? others)) ∧
          ∀ field ∈ declaration.fields, field.IsTagged →
            field.column? others = field.column? declaration.attributes := by
  refine ⟨Declaration.columns_eq h, ?_, ?_⟩
  · intro other hother
    exact (columns_eq_of_eqvGen hother).2 h
  · intro others hothers
    refine ⟨Declaration.columns_eq ⟨h.named, hothers, h.ofFields⟩, ?_⟩
    intro field hfield htagged
    exact field.column?_of_isTagged (h.ofFields field hfield) htagged _ _

/-- Both a column and an expression for one field, a field that is left out, an attribute of another
path and a key of the type with two texts. -/
theorem columns_of_revenue_record :
    let attributes : List Attribute := [
      ⟨attributePath, .list [.giving "untagged" "skip", .giving "rename_all" "camelCase"]⟩,
      ⟨"serde", .absent⟩,
      ⟨attributePath, .list [.giving "untagged" "include"]⟩]
    let tagged : List Field := [
      ⟨"total", [⟨attributePath, .list [.giving "expr" "SUM(total) AS revenue"]⟩,
        ⟨attributePath, .list [.giving "column" "ignored"]⟩]⟩,
      ⟨"inner", [⟨attributePath, .list [⟨"skip", .bare⟩, .giving "column" "inner"]⟩]⟩]
    let declaration : Declaration :=
      ⟨.namedFields, attributes, ⟨"user_id", []⟩ :: ⟨"r#type", []⟩ :: tagged⟩
    declaration.WellFormed ∧
      declaration.columns = .ok ["userId", "type", "SUM(total) AS revenue"] ∧
      (⟨.namedFields, attributes, ⟨"r#user_id", []⟩ :: ⟨"r#type", []⟩ :: tagged⟩ :
        Declaration).columns = declaration.columns ∧
      { declaration with attributes := [] }.columns =
        .ok ["user_id", "type", "SUM(total) AS revenue"] := by
  intro attributes tagged declaration
  have htype : ∀ attr ∈ attributes, attr.WellFormed Item.OfType := by
    have hrule : Item.OfType (.giving "rename_all" "camelCase") := .renamed rfl
    have hserde : Attribute.WellFormed Item.OfType ⟨"serde", .absent⟩ := fun hpath =>
      absurd hpath (by decide)
    simp [attributes, Attribute.wellFormed_list, Item.OfType.included, Item.OfType.excluded, hrule,
      hserde]
  have hfields : ∀ field ∈ declaration.fields, ∀ attr ∈ field.attributes,
      attr.WellFormed Item.OfField := by
    have hexpression : Item.OfField (.giving "expr" "SUM(total) AS revenue") :=
      .expression (by decide)
    have hignored : Item.OfField (.giving "column" "ignored") := .column (by decide)
    have hinner : Item.OfField (.giving "column" "inner") := .column (by decide)
    simp [declaration, tagged, Attribute.wellFormed_list, Item.OfField.skip, hexpression, hignored,
      hinner]
  have hwell : declaration.WellFormed := ⟨rfl, htype, hfields⟩
  obtain ⟨hcolumns, hrewritten, hother⟩ := columns_of_wellFormed hwell
  refine ⟨hwell, hcolumns.trans rfl, hrewritten _ ?_, (hother [] (by simp)).1.trans rfl⟩
  exact .rel _ _ (.raw attributes [] (⟨"r#type", []⟩ :: tagged) [] (by decide))

end BoundSql.Record
