import BoundSql.Proofs.Record.Settings
import BoundSql.Record.Columns
import Mathlib.Logic.Basic

/-!
The faults of a declaration. A declaration is a row of places that can be at fault: its shape, then
the items of its attributes, then those of the attributes of each field. What is wrong with a place
is seen from that place alone, whatever has been read before. A declaration is refused just when one
of its places is at fault, and then with the fault of the first such place.
-/

namespace BoundSql.Record

/-- Whose attributes an item stands in. -/
inductive Role where
  | type : Role
  | field : Role

/-- The keys that are given a text. -/
def Role.textKeys : Role → List String
  | .type => ["untagged", "rename_all"]
  | .field => ["column", "expr"]

/-- All the keys that an item can have. -/
def Role.keys : Role → List String
  | .type => Role.type.textKeys
  | .field => "skip" :: Role.field.textKeys

/-- What is said of an item with any other key. -/
def Role.unknownKey : Role → Fault
  | .type => .unknownTypeKey
  | .field => .unknownFieldKey

/-- The rules for names. -/
def rules : List String :=
  ["lowercase", "UPPERCASE", "snake_case", "camelCase", "PascalCase", "SCREAMING_SNAKE_CASE",
    "kebab-case"]

/-- What can be at fault in a declaration. An item is seen with whether its list ends after it. -/
inductive Place where
  | shape (shape : Shape)
  /-- What an attribute has in place of a list. -/
  | arguments (arguments : Arguments)
  | item (role : Role) (item : Item) (isLast : Bool)

/-- What is wrong with an item in which no text is given to the key. -/
inductive ItemForm.Lacks : ItemForm → (isLast : Bool) → Fault → Prop
  | bare (isLast : Bool) : Lacks .bare isLast .noEqualsSign
  | call (isLast : Bool) : Lacks .call isLast .noEqualsSign
  | integer (n : Int) (isLast : Bool) : Lacks (.assigned (some (.integer n))) isLast .noText
  | boolean (b : Bool) (isLast : Bool) : Lacks (.assigned (some (.boolean b))) isLast .noText
  | atEnd : Lacks (.assigned none) true .nothingAtEnd
  | between : Lacks (.assigned none) false .noText

/-- The text that is given to the key, whatever stands after it. -/
inductive ItemForm.Gives : ItemForm → String → Prop
  | assigned (content : String) : Gives (.assigned (some (.text content))) content
  | overrun (content : String) : Gives (.overrun content) content

/-- What is wrong with a text for a key. -/
inductive Role.Refuses : Role → (key content : String) → Fault → Prop
  | untagged {content : String} (h : content ∉ ["include", "skip"]) :
      Refuses .type "untagged" content .unknownUntagged
  | rule {rule : String} (h : rule ∉ rules) :
      Refuses .type "rename_all" rule (.unknownRule rule)
  | column : Refuses .field "column" "" .emptyColumn
  | expression : Refuses .field "expr" "" .emptyExpression

/-- What is wrong with a place. -/
inductive Place.Offends : Place → Fault → Prop
  | notAStructure {shape : Shape} (h : shape = .enumeration ∨ shape = .union) :
      Offends (.shape shape) .notAStructure
  | noNamedFields {shape : Shape} (h : shape = .tuple ∨ shape = .unit) :
      Offends (.shape shape) .noNamedFields
  | noArguments : Offends (.arguments .absent) .noArguments
  | noParentheses (content : String) : Offends (.arguments (.assigned content)) .noParentheses
  | unknownKey {role : Role} {item : Item} (h : item.key ∉ role.keys) (isLast : Bool) :
      Offends (.item role item isLast) role.unknownKey
  | lacks {role : Role} {item : Item} {isLast : Bool} {fault : Fault}
      (hkey : item.key ∈ role.textKeys) (h : item.form.Lacks isLast fault) :
      Offends (.item role item isLast) fault
  | refused {role : Role} {item : Item} {content : String} {fault : Fault}
      (hgives : item.form.Gives content) (h : role.Refuses item.key content fault)
      (isLast : Bool) : Offends (.item role item isLast) fault
  /-- A text that is not refused, and something other than a comma after it. -/
  | overrun {role : Role} {key content : String} (hkey : key ∈ role.textKeys)
      (h : ∀ fault, ¬ role.Refuses key content fault) (isLast : Bool) :
      Offends (.item role ⟨key, .overrun content⟩ isLast) .noComma
  | afterSkip {form : ItemForm} (h : form ≠ .bare) (isLast : Bool) :
      Offends (.item .field ⟨"skip", form⟩ isLast) .noComma

/-- Nothing is wrong with a place. -/
def Place.Fine (place : Place) : Prop := ∀ fault, ¬ place.Offends fault

/-- The places of the items in a list. -/
def itemPlaces (role : Role) : List Item → List Place
  | [] => []
  | item :: rest => .item role item rest.isEmpty :: itemPlaces role rest

/-- The places of an attribute; one of another path has none. -/
def Attribute.places (role : Role) (attr : Attribute) : List Place :=
  if attr.path = attributePath then
    match attr.arguments with
    | .list items => itemPlaces role items
    | arguments => [.arguments arguments]
  else []

/-- The places of a field, whether or not it is left out. -/
def Field.places (field : Field) : List Place :=
  field.attributes.flatMap (Attribute.places .field)

/-- The places of a declaration in their order: its shape, its attributes, and its fields. -/
def Declaration.places (declaration : Declaration) : List Place :=
  .shape declaration.shape :: (declaration.attributes.flatMap (Attribute.places .type) ++
    declaration.fields.flatMap Field.places)

/-- The first place that is not fine has a fault. -/
def FirstOffence (places : List Place) (fault : Fault) : Prop :=
  ∃ front place back, places = front ++ place :: back ∧ (∀ earlier ∈ front, earlier.Fine) ∧
    place.Offends fault

theorem not_firstOffence_nil (fault : Fault) : ¬ FirstOffence [] fault := by
  rintro ⟨front, place, back, hsplit, _⟩
  exact absurd hsplit.symm (List.append_ne_nil_of_right_ne_nil front (List.cons_ne_nil place back))

/-- The first offence is at the first place, or that place is fine and it is further on. -/
theorem firstOffence_cons {place : Place} {rest : List Place} {fault : Fault} :
    FirstOffence (place :: rest) fault ↔
      place.Offends fault ∨ place.Fine ∧ FirstOffence rest fault := by
  constructor
  · rintro ⟨front, offending, back, hsplit, hfine, hfault⟩
    cases front with
    | nil =>
        obtain ⟨rfl, _⟩ := List.cons.inj hsplit
        exact Or.inl hfault
    | cons earlier front =>
        obtain ⟨rfl, hrest⟩ := List.cons.inj hsplit
        obtain ⟨hearlier, hfront⟩ := List.forall_mem_cons.mp hfine
        exact Or.inr ⟨hearlier, front, offending, back, hrest, hfront, hfault⟩
  · rintro (hfault | ⟨hplace, front, offending, back, rfl, hfine, hfault⟩)
    · exact ⟨[], place, rest, rfl, nofun, hfault⟩
    · exact ⟨place :: front, offending, back, rfl, List.forall_mem_cons.mpr ⟨hplace, hfine⟩, hfault⟩

theorem firstOffence_singleton {place : Place} {fault : Fault} :
    FirstOffence [place] fault ↔ place.Offends fault := by
  simp [firstOffence_cons, not_firstOffence_nil]

theorem firstOffence_append {front back : List Place} {fault : Fault} :
    FirstOffence (front ++ back) fault ↔
      FirstOffence front fault ∨ (∀ place ∈ front, place.Fine) ∧ FirstOffence back fault := by
  induction front with
  | nil => simp [not_firstOffence_nil]
  | cons place rest ih =>
      rw [List.cons_append, firstOffence_cons, firstOffence_cons, ih, List.forall_mem_cons,
        and_or_left, or_assoc, and_assoc]

/-- Where a place is at fault, there is a first one. -/
theorem exists_firstOffence_iff {places : List Place} :
    (∃ fault, FirstOffence places fault) ↔ ∃ place ∈ places, ∃ fault, place.Offends fault := by
  constructor
  · rintro ⟨fault, front, place, back, rfl, _, hfault⟩
    exact ⟨place, List.mem_append_right front List.mem_cons_self, fault, hfault⟩
  · rintro ⟨place, hmem, hfault⟩
    induction places with
    | nil => cases hmem
    | cons first rest ih =>
        by_cases hfirst : first.Fine
        · rcases List.mem_cons.mp hmem with rfl | hrest
          · obtain ⟨fault, hoffends⟩ := hfault
            exact absurd hoffends (hfirst fault)
          · obtain ⟨fault, hoffence⟩ := ih hrest
            exact ⟨fault, firstOffence_cons.mpr (Or.inr ⟨hfirst, hoffence⟩)⟩
        · obtain ⟨fault, hoffends⟩ := not_forall_not.mp hfirst
          exact ⟨fault, firstOffence_cons.mpr (Or.inl hoffends)⟩

/-- All is fine just when there is no first offence. -/
theorem forall_fine_iff {places : List Place} :
    (∀ place ∈ places, place.Fine) ↔ ¬ ∃ fault, FirstOffence places fault := by
  rw [exists_firstOffence_iff]
  simp only [Place.Fine, not_exists, not_and]

/-- A reader that goes through some places: it stops at the first offence, with its fault. -/
def Checks {α : Type} (read : Except Fault α) (places : List Place) : Prop :=
  ∀ fault, read = .error fault ↔ FirstOffence places fault

section Readers

variable {α β : Type}

theorem checks_ok (result : α) : Checks (.ok result) [] := by
  intro fault
  constructor
  · rintro ⟨⟩
  · exact fun h => absurd h (not_firstOffence_nil fault)

theorem error_eq_error_iff {fault other : Fault} :
    (.error fault : Except Fault α) = .error other ↔ other = fault := by
  constructor
  · rintro ⟨⟩
    rfl
  · rintro rfl
    rfl

/-- A reader that stops at a place with the only fault that the place has. -/
theorem checks_error {place : Place} {fault : Fault} (rest : List Place)
    (h : ∀ other, place.Offends other ↔ other = fault) :
    Checks (.error fault : Except Fault α) (place :: rest) := by
  have hplace : ¬ place.Fine := fun hfine => hfine fault ((h fault).mpr rfl)
  intro other
  rw [firstOffence_cons, h, error_eq_error_iff]
  constructor
  · exact Or.inl
  · rintro (heq | ⟨hfine, _⟩)
    · exact heq
    · exact absurd hfine hplace

/-- A reader that gets to the end has found every place fine. -/
theorem Checks.fine {read : Except Fault α} {places : List Place} (h : Checks read places)
    {result : α} (hread : read = .ok result) : ∀ place ∈ places, place.Fine := by
  rw [forall_fine_iff]
  rintro ⟨fault, hoffence⟩
  have herror := (h fault).mpr hoffence
  rw [hread] at herror
  cases herror

/-- What is done in two steps goes through the places of the first step, then of the second. -/
theorem Checks.bind {first : Except Fault α} {next : α → Except Fault β} {front back : List Place}
    (hfirst : Checks first front) (hnext : ∀ middle, Checks (next middle) back) :
    Checks (first >>= next) (front ++ back) := by
  intro fault
  rw [firstOffence_append, ← hfirst fault]
  cases hread : first with
  | error other =>
      have hunfine : ¬ ∀ place ∈ front, place.Fine := by
        rw [forall_fine_iff, not_not]
        exact ⟨other, (hfirst other).mp hread⟩
      constructor
      · intro herror
        exact Or.inl (by cases herror; rfl)
      · rintro (⟨⟨⟩⟩ | ⟨hfine, _⟩)
        · rfl
        · exact absurd hfine hunfine
  | ok middle =>
      have hfine := hfirst.fine hread
      constructor
      · intro herror
        exact Or.inr ⟨hfine, (hnext middle fault).mp herror⟩
      · rintro (⟨⟨⟩⟩ | ⟨_, hoffence⟩)
        exact (hnext middle fault).mpr hoffence

end Readers

theorem CaseStyle.ofRule?_eq_none_iff {rule : String} :
    CaseStyle.ofRule? rule = none ↔ rule ∉ rules := by
  constructor
  · intro hnone hmem
    simp only [rules, List.mem_cons, List.not_mem_nil, or_false] at hmem
    rcases hmem with rfl | rfl | rfl | rfl | rfl | rfl | rfl <;> cases hnone
  · intro hmem
    rw [ofRule?]
    -- Each rule has a style, so the text is none of them.
    all_goals
      rintro rfl
      exact hmem (by simp [rules])

/-- An item has no text just when it lacks one, with the fault of what is missing. -/
theorem ItemForm.text_eq_error_iff {form : ItemForm} {isLast : Bool} {fault : Fault} :
    form.text isLast = .error fault ↔ form.Lacks isLast fault := by
  constructor
  · fun_cases ItemForm.text with
    | case1 => rintro ⟨⟩; exact .bare isLast
    | case2 => rintro ⟨⟩; exact .call isLast
    | case3 content => rintro ⟨⟩
    | case4 content => rintro ⟨⟩
    | case5 literal hliteral =>
        rintro ⟨⟩
        cases literal with
        | text content => exact absurd rfl (hliteral content)
        | integer n => exact .integer n isLast
        | boolean b => exact .boolean b isLast
    | case6 =>
        rintro ⟨⟩
        cases isLast with
        | true => exact .atEnd
        | false => exact .between
  · intro h
    cases h <;> rfl

theorem ItemForm.text_eq_ok_iff {form : ItemForm} {isLast : Bool} {content : String} :
    form.text isLast = .ok content ↔ form.Gives content := by
  constructor
  · intro h
    rcases eq_of_text_ok h with rfl | rfl
    · exact .assigned content
    · exact .overrun content
  · rintro ⟨⟩ <;> rfl

/-- What is done in two steps fails in the first one or in the second. -/
theorem bind_eq_error_iff {α β : Type} {first : Except Fault α} {next : α → Except Fault β}
    {fault : Fault} :
    first >>= next = .error fault ↔
      first = .error fault ∨ ∃ middle, first = .ok middle ∧ next middle = .error fault := by
  cases first with
  | error other =>
      constructor
      · rintro ⟨⟩
        exact Or.inl rfl
      · rintro (⟨⟨⟩⟩ | ⟨_, ⟨⟩, _⟩)
        rfl
  | ok middle =>
      constructor
      · exact fun h => Or.inr ⟨middle, rfl, h⟩
      · rintro (⟨⟨⟩⟩ | ⟨_, ⟨⟩, h⟩)
        exact h

section Reading

variable {α : Type} {readItem : α → Item → Bool → Except Fault α} {role : Role}

/-- Reads an item, and the comma after it. -/
def readWhole (readItem : α → Item → Bool → Except Fault α) (settings : α) (item : Item)
    (isLast : Bool) : Except Fault α := do
  let next ← readItem settings item isLast
  item.form.ending
  .ok next

theorem readItems_cons (settings : α) (item : Item) (rest : List Item) :
    readItems readItem settings (item :: rest) =
      readWhole readItem settings item rest.isEmpty >>= fun next =>
        readItems readItem next rest := by
  simp only [readItems, readWhole, bind_assoc]
  rfl

/-- An item is read before its end is looked at, so its own fault comes first. -/
theorem readWhole_eq_error_iff {settings : α} {item : Item} {isLast : Bool} {fault : Fault} :
    readWhole readItem settings item isLast = .error fault ↔
      readItem settings item isLast = .error fault ∨
        (∃ next, readItem settings item isLast = .ok next) ∧ item.form.ending = .error fault := by
  have hending (next : α) : (item.form.ending >>= fun _ => (.ok next : Except Fault α)) =
      .error fault ↔ item.form.ending = .error fault := by
    rw [bind_eq_error_iff]
    constructor
    · rintro (h | ⟨_, _, ⟨⟩⟩)
      exact h
    · exact Or.inl
  rw [readWhole, bind_eq_error_iff]
  simp only [hending, exists_and_right]

/-- What is wrong with an item whose key is given a text. -/
theorem Place.offends_iff_of_textKey {item : Item} (hkey : item.key ∈ role.textKeys)
    {isLast : Bool} {fault : Fault} :
    (Place.item role item isLast).Offends fault ↔ item.form.Lacks isLast fault ∨
      ∃ content, item.form.Gives content ∧ (role.Refuses item.key content fault ∨
        (∀ other, ¬ role.Refuses item.key content other) ∧
          item.form.ending = .error fault) := by
  constructor
  · intro h
    cases h with
    | unknownKey h =>
        refine absurd ?_ h
        cases role with
        | type => exact hkey
        | field => exact List.mem_cons_of_mem _ hkey
    | lacks _ h => exact Or.inl h
    | refused hgives h => exact Or.inr ⟨_, hgives, Or.inl h⟩
    | overrun _ h => exact Or.inr ⟨_, .overrun _, Or.inr ⟨h, rfl⟩⟩
    | afterSkip => simp [Role.textKeys] at hkey
  · rintro (h | ⟨content, hgives, h | ⟨haccepted, hending⟩⟩)
    · exact .lacks hkey h
    · exact .refused hgives h isLast
    · obtain ⟨key, form⟩ := item
      cases hgives with
      | assigned => cases hending
      | overrun =>
          cases hending
          exact .overrun hkey haccepted isLast

/-- The reader of an item whose key is given a text, seen from what it does with the text. -/
theorem checks_readWhole {settings : α} {item : Item} {isLast : Bool}
    (hkey : item.key ∈ role.textKeys) {accept : String → Except Fault α}
    (hread : readItem settings item isLast = item.form.text isLast >>= accept)
    (haccept : ∀ content fault, accept content = .error fault ↔
      role.Refuses item.key content fault) :
    Checks (readWhole readItem settings item isLast) [.item role item isLast] := by
  intro fault
  rw [firstOffence_singleton, Place.offends_iff_of_textKey hkey, readWhole_eq_error_iff, hread]
  constructor
  · rintro (herror | ⟨⟨next, hok⟩, hending⟩)
    · rcases bind_eq_error_iff.mp herror with htext | ⟨content, htext, hnext⟩
      · exact Or.inl (ItemForm.text_eq_error_iff.mp htext)
      · have hgives := ItemForm.text_eq_ok_iff.mp htext
        exact Or.inr ⟨content, hgives, Or.inl ((haccept content fault).mp hnext)⟩
    · obtain ⟨content, htext, hnext⟩ := exists_of_bind_ok hok
      refine Or.inr ⟨content, ItemForm.text_eq_ok_iff.mp htext, Or.inr ⟨?_, hending⟩⟩
      intro other hrefuses
      have herror := (haccept content other).mpr hrefuses
      rw [hnext] at herror
      cases herror
  · rintro (hlacks | ⟨content, hgives, hrefuses | ⟨haccepted, hending⟩⟩)
    · exact Or.inl (bind_eq_error_iff.mpr (Or.inl (ItemForm.text_eq_error_iff.mpr hlacks)))
    · have htext : item.form.text isLast = .ok content := ItemForm.text_eq_ok_iff.mpr hgives
      have hnext := (haccept content fault).mpr hrefuses
      exact Or.inl (bind_eq_error_iff.mpr (Or.inr ⟨content, htext, hnext⟩))
    · cases hnext : accept content with
      | error other => exact absurd ((haccept content other).mp hnext) (haccepted other)
      | ok next =>
          refine Or.inr ⟨⟨next, ?_⟩, hending⟩
          rw [ItemForm.text_eq_ok_iff.mpr hgives]
          exact hnext

end Reading

-- What each key refuses. Case analysis does not tell two texts apart, so the keys are compared
-- before it.

theorem Role.refuses_untagged_iff {content : String} {fault : Fault} :
    Role.type.Refuses "untagged" content fault ↔
      content ∉ ["include", "skip"] ∧ fault = .unknownUntagged := by
  constructor
  · intro h
    generalize hkey : "untagged" = key at h
    cases h with
    | untagged h => exact ⟨h, rfl⟩
    | rule => simp at hkey
  · rintro ⟨h, rfl⟩
    exact .untagged h

theorem Role.refuses_rule_iff {rule : String} {fault : Fault} :
    Role.type.Refuses "rename_all" rule fault ↔ rule ∉ rules ∧ fault = .unknownRule rule := by
  constructor
  · intro h
    generalize hkey : "rename_all" = key at h
    cases h with
    | untagged => simp at hkey
    | rule h => exact ⟨h, rfl⟩
  · rintro ⟨h, rfl⟩
    exact .rule h

theorem Role.refuses_column_iff {content : String} {fault : Fault} :
    Role.field.Refuses "column" content fault ↔ content = "" ∧ fault = .emptyColumn := by
  constructor
  · intro h
    generalize hkey : "column" = key at h
    cases h with
    | column => exact ⟨rfl, rfl⟩
    | expression => simp at hkey
  · rintro ⟨rfl, rfl⟩
    exact .column

theorem Role.refuses_expression_iff {content : String} {fault : Fault} :
    Role.field.Refuses "expr" content fault ↔ content = "" ∧ fault = .emptyExpression := by
  constructor
  · intro h
    generalize hkey : "expr" = key at h
    cases h with
    | column => simp at hkey
    | expression => exact ⟨rfl, rfl⟩
  · rintro ⟨rfl, rfl⟩
    exact .expression

theorem Role.Refuses.mem_textKeys {role : Role} {key content : String} {fault : Fault}
    (h : role.Refuses key content fault) : key ∈ role.textKeys := by
  cases h <;> simp [Role.textKeys]

/-- An item with a key that is not known is refused for its key alone. -/
theorem Place.offends_iff_of_unknownKey {role : Role} {item : Item} (hkey : item.key ∉ role.keys)
    {isLast : Bool} {fault : Fault} :
    (Place.item role item isLast).Offends fault ↔ fault = role.unknownKey := by
  have htext : item.key ∉ role.textKeys := by
    cases role with
    | type => exact hkey
    | field => exact fun hmem => hkey (List.mem_cons_of_mem _ hmem)
  constructor
  · intro h
    cases h with
    | unknownKey => rfl
    | lacks hmem => exact absurd hmem htext
    | refused _ h => exact absurd h.mem_textKeys htext
    | overrun hmem => exact absurd hmem htext
    | afterSkip => exact absurd List.mem_cons_self hkey
  · rintro rfl
    exact .unknownKey hkey isLast

theorem checks_readWhole_of_unknownKey {α : Type} {readItem : α → Item → Bool → Except Fault α}
    {role : Role} {settings : α} {item : Item} {isLast : Bool} (hkey : item.key ∉ role.keys)
    (hread : readItem settings item isLast = .error role.unknownKey) :
    Checks (readWhole readItem settings item isLast) [.item role item isLast] := by
  rw [readWhole, hread]
  apply checks_error
  intro other
  exact Place.offends_iff_of_unknownKey hkey

theorem TypeSettings.checks_readItem (settings : TypeSettings) (item : Item) (isLast : Bool) :
    Checks (readWhole readItem settings item isLast) [.item .type item isLast] := by
  obtain ⟨key, form⟩ := item
  by_cases huntagged : key = "untagged"
  · subst huntagged
    have hread : settings.readItem ⟨"untagged", form⟩ isLast = form.text isLast >>= _ := rfl
    refine checks_readWhole List.mem_cons_self hread ?_
    intro content fault
    rw [Role.refuses_untagged_iff]
    split
    · simp
    · simp
    · next hinclude hskip =>
        have hmem : content ∉ ["include", "skip"] := by
          simp only [List.mem_cons, List.not_mem_nil, or_false, not_or]
          exact ⟨hinclude, hskip⟩
        simp only [error_eq_error_iff, hmem, not_false_eq_true, true_and]
  by_cases hrule : key = "rename_all"
  · subst hrule
    have hread : settings.readItem ⟨"rename_all", form⟩ isLast = form.text isLast >>= _ := rfl
    refine checks_readWhole (List.mem_cons_of_mem _ List.mem_cons_self) hread ?_
    intro rule fault
    rw [Role.refuses_rule_iff, ← CaseStyle.ofRule?_eq_none_iff]
    cases hstyle : CaseStyle.ofRule? rule with
    | some style => simp
    | none => simp only [error_eq_error_iff, true_and]
  · apply checks_readWhole_of_unknownKey
    · simp [Role.keys, Role.textKeys, huntagged, hrule]
    · unfold readItem
      split
      · next hkey => exact absurd hkey huntagged
      · next hkey => exact absurd hkey hrule
      · rfl

/-- The key of a field that is left out is followed by nothing but a comma. -/
theorem Place.offends_iff_of_skip {form : ItemForm} {isLast : Bool} {fault : Fault} :
    (Place.item .field ⟨"skip", form⟩ isLast).Offends fault ↔
      form ≠ .bare ∧ fault = .noComma := by
  have htext : "skip" ∉ Role.field.textKeys := by simp [Role.textKeys]
  constructor
  · intro h
    cases h with
    | unknownKey h => exact absurd List.mem_cons_self h
    | lacks hmem => exact absurd hmem htext
    | refused _ h => exact absurd h.mem_textKeys htext
    | overrun hmem => exact absurd hmem htext
    | afterSkip h => exact ⟨h, rfl⟩
  · rintro ⟨h, rfl⟩
    exact .afterSkip h isLast

/-- The keys of a field that are given a text take every text that is not empty. -/
theorem FieldSettings.checks_readWhole_of_nonempty {settings : FieldSettings} {item : Item}
    {isLast : Bool} (hkey : item.key ∈ Role.field.textKeys) {empty : Fault}
    {next : String → FieldSettings}
    (hread : settings.readItem item isLast = item.form.text isLast >>= fun content =>
      if content.isEmpty then .error empty else .ok (next content))
    (hrefuses : ∀ content fault, Role.field.Refuses item.key content fault ↔
      content = "" ∧ fault = empty) :
    Checks (readWhole readItem settings item isLast) [.item .field item isLast] := by
  refine checks_readWhole hkey hread ?_
  intro content fault
  rw [hrefuses, ← String.isEmpty_iff]
  split
  · next hempty => simp only [error_eq_error_iff, hempty, true_and]
  · next hempty => simp [hempty]

/-- A reader of items stops where an item offends, with the fault of that item. -/
theorem FieldSettings.checks_readItem (settings : FieldSettings) (item : Item) (isLast : Bool) :
    Checks (readWhole readItem settings item isLast) [.item .field item isLast] := by
  obtain ⟨key, form⟩ := item
  by_cases hskip : key = "skip"
  · subst hskip
    intro fault
    rw [firstOffence_singleton, Place.offends_iff_of_skip]
    cases form with
    | bare =>
        constructor
        · rintro ⟨⟩
        · rintro ⟨h, _⟩
          exact absurd rfl h
    | _ =>
        constructor
        · rintro ⟨⟩
          constructor
          · intro h
            cases h
          · rfl
        · rintro ⟨_, rfl⟩
          rfl
  by_cases hcolumn : key = "column"
  · subst hcolumn
    have hread : settings.readItem ⟨"column", form⟩ isLast = form.text isLast >>= _ := rfl
    exact checks_readWhole_of_nonempty List.mem_cons_self hread
      fun _ _ => Role.refuses_column_iff
  by_cases hexpression : key = "expr"
  · subst hexpression
    have hread : settings.readItem ⟨"expr", form⟩ isLast = form.text isLast >>= _ := rfl
    exact checks_readWhole_of_nonempty (List.mem_cons_of_mem _ List.mem_cons_self) hread
      fun _ _ => Role.refuses_expression_iff
  · apply checks_readWhole_of_unknownKey
    · simp [Role.keys, Role.textKeys, hskip, hcolumn, hexpression]
    · unfold readItem
      split
      · next hkey => exact absurd hkey hskip
      · next hkey => exact absurd hkey hcolumn
      · next hkey => exact absurd hkey hexpression
      · rfl

section Attributes

variable {α : Type} {readItem : α → Item → Bool → Except Fault α} {role : Role}

/-- From one item to a list of them: the reader stops at the first that offends. -/
theorem checks_readItems
    (hstep : ∀ settings item isLast,
      Checks (readWhole readItem settings item isLast) [.item role item isLast])
    (settings : α) (items : List Item) :
    Checks (readItems readItem settings items) (itemPlaces role items) := by
  induction items generalizing settings with
  | nil => exact checks_ok settings
  | cons item rest ih =>
      have hitem := hstep settings item rest.isEmpty
      rw [readItems_cons]
      exact hitem.bind ih

/-- From the items of one attribute to a list of attributes. -/
theorem checks_readAttributes
    (hstep : ∀ settings item isLast,
      Checks (readWhole readItem settings item isLast) [.item role item isLast])
    (settings : α) (attributes : List Attribute) :
    Checks (readAttributes readItem settings attributes)
      (attributes.flatMap (Attribute.places role)) := by
  induction attributes generalizing settings with
  | nil => exact checks_ok settings
  | cons first rest ih =>
      rw [List.flatMap_cons, readAttributes, Attribute.places]
      by_cases hpath : first.path = attributePath
      · rw [if_pos hpath, if_pos hpath]
        cases harguments : first.arguments with
        | absent =>
            apply checks_error
            intro fault
            constructor
            · rintro ⟨⟩
              rfl
            · rintro rfl
              exact .noArguments
        | assigned content =>
            apply checks_error
            intro fault
            constructor
            · rintro ⟨⟩
              rfl
            · rintro rfl
              exact .noParentheses content
        | list items => exact (checks_readItems hstep settings items).bind ih
      · rw [if_neg hpath, if_neg hpath]
        exact (checks_ok settings).bind ih

end Attributes

theorem checks_fieldColumns (type : TypeSettings) (fields : List Field) :
    Checks (fieldColumns type fields) (fields.flatMap Field.places) := by
  induction fields with
  | nil => exact checks_ok []
  | cons field rest ih =>
      have hfield := checks_readAttributes FieldSettings.checks_readItem {} field.attributes
      rw [fieldColumns, List.flatMap_cons]
      refine hfield.bind fun settings => ?_
      rw [← List.append_nil (rest.flatMap Field.places)]
      exact ih.bind fun columns => checks_ok _

/-- A shape that has no columns is one fault, and ends the reading. -/
theorem offends_shape_iff {shape : Shape} {fault : Fault} :
    (Place.shape shape).Offends fault ↔
      (shape = .enumeration ∨ shape = .union) ∧ fault = .notAStructure ∨
        (shape = .tuple ∨ shape = .unit) ∧ fault = .noNamedFields := by
  constructor
  · intro h
    cases h with
    | notAStructure h => exact Or.inl ⟨h, rfl⟩
    | noNamedFields h => exact Or.inr ⟨h, rfl⟩
  · rintro (⟨h, rfl⟩ | ⟨h, rfl⟩)
    · exact .notAStructure h
    · exact .noNamedFields h

/-- A declaration is refused with the fault of its first offence. -/
theorem Declaration.checks_columns (declaration : Declaration) :
    Checks declaration.columns declaration.places := by
  obtain ⟨shape, attributes, fields⟩ := declaration
  have htype := checks_readAttributes TypeSettings.checks_readItem {} attributes
  cases shape with
  | namedFields =>
      intro fault
      have hshape : (Place.shape .namedFields).Fine := by
        intro fault h
        rw [offends_shape_iff] at h
        simp at h
      have hrest := htype.bind (checks_fieldColumns · fields)
      rw [places, firstOffence_cons, ← hrest fault]
      simp only [hshape fault, hshape, true_and, false_or]
      rfl
  | _ =>
      apply checks_error
      intro fault
      rw [offends_shape_iff]
      simp

end BoundSql.Record
