import BoundSql.Proofs.Record.Faults
import Mathlib.Data.List.Basic

/-!
Which declarations are refused, and what their refusal depends on. A declaration is refused just
when its shape has no columns, or an attribute that is read is faulty: those of the type are read,
and those of every field, also of one that is left out. It is refused for its first offence, and
whatever is written behind that offence may be revised without any effect, except that a text which
is missing after an equals sign is missed in other words when an item follows.
-/

namespace BoundSql.Record

/-- An item that cannot be taken, wherever it stands. -/
inductive Item.Malformed (role : Role) (item : Item) : Prop
  | unknownKey (h : item.key ∉ role.keys)
  | noText (hkey : item.key ∈ role.textKeys) (h : ∀ content, ¬ item.form.Gives content)
  | refused {content : String} {fault : Fault} (hgives : item.form.Gives content)
      (h : role.Refuses item.key content fault)
  | overrun (hkey : item.key ∈ role.textKeys) {content : String} (h : item.form = .overrun content)
  | afterSkip (hrole : role = .field) (hkey : item.key = "skip") (h : item.form ≠ .bare)

/-- An attribute that is read and has no list, or a malformed item in it. -/
def Attribute.Faulty (role : Role) (attr : Attribute) : Prop :=
  attr.path = attributePath ∧
    ∀ items, attr.arguments = .list items → ∃ item ∈ items, item.Malformed role

theorem ItemForm.Lacks.not_gives {form : ItemForm} {isLast : Bool} {fault : Fault}
    (h : form.Lacks isLast fault) (content : String) : ¬ form.Gives content := by
  intro hgives
  cases h <;> cases hgives

/-- What gives no content lacks something that can be told. -/
theorem ItemForm.exists_lacks {form : ItemForm} (h : ∀ content, ¬ form.Gives content)
    (isLast : Bool) : ∃ fault, form.Lacks isLast fault := by
  cases htext : form.text isLast with
  | error fault => exact ⟨fault, text_eq_error_iff.mp htext⟩
  | ok content => exact absurd (text_eq_ok_iff.mp htext) (h content)

/-- Whether an item is at fault does not depend on what stands behind it. -/
theorem Item.malformed_iff {role : Role} {item : Item} (isLast : Bool) :
    item.Malformed role ↔ ∃ fault, (Place.item role item isLast).Offends fault := by
  constructor
  · rintro (h | ⟨hkey, h⟩ | ⟨hgives, h⟩ | ⟨hkey, h⟩ | ⟨rfl, hkey, h⟩)
    · exact ⟨role.unknownKey, .unknownKey h isLast⟩
    · obtain ⟨fault, hlacks⟩ := ItemForm.exists_lacks h isLast
      exact ⟨fault, .lacks hkey hlacks⟩
    · exact ⟨_, .refused hgives h isLast⟩
    · rename_i content
      obtain ⟨key, form⟩ := item
      obtain rfl : form = .overrun content := h
      by_cases hrefused : ∃ fault, role.Refuses key content fault
      · obtain ⟨fault, hrefuses⟩ := hrefused
        exact ⟨fault, .refused (.overrun content) hrefuses isLast⟩
      · exact ⟨_, .overrun hkey (not_exists.mp hrefused) isLast⟩
    · obtain ⟨key, form⟩ := item
      obtain rfl : key = "skip" := hkey
      exact ⟨_, .afterSkip h isLast⟩
  · rintro ⟨fault, h⟩
    cases h with
    | unknownKey h => exact .unknownKey h
    | lacks hkey h => exact .noText hkey h.not_gives
    | refused hgives h => exact .refused hgives h
    | overrun hkey => exact .overrun hkey rfl
    | afterSkip h => exact .afterSkip rfl rfl h

/-- Some place of a list of items offends just when one of the items is malformed. -/
theorem exists_offends_itemPlaces_iff {role : Role} {items : List Item} :
    (∃ place ∈ itemPlaces role items, ∃ fault, place.Offends fault) ↔
      ∃ item ∈ items, item.Malformed role := by
  induction items with
  | nil => simp [itemPlaces]
  | cons item rest ih =>
      rw [itemPlaces, List.exists_mem_cons_iff, List.exists_mem_cons_iff, ih,
        item.malformed_iff rest.isEmpty]

theorem Attribute.faulty_iff {role : Role} {attr : Attribute} :
    attr.Faulty role ↔ ∃ place ∈ attr.places role, ∃ fault, place.Offends fault := by
  obtain ⟨path, arguments⟩ := attr
  by_cases hpath : path = attributePath
  · subst hpath
    cases arguments with
    | absent =>
        constructor
        · intro _
          exact ⟨.arguments .absent, List.mem_cons_self, _, .noArguments⟩
        · intro _
          refine ⟨rfl, ?_⟩
          rintro items ⟨⟩
    | assigned content =>
        constructor
        · intro _
          exact ⟨.arguments (.assigned content), List.mem_cons_self, _, .noParentheses content⟩
        · intro _
          refine ⟨rfl, ?_⟩
          rintro items ⟨⟩
    | list items =>
        have hplaces : places role ⟨attributePath, .list items⟩ = itemPlaces role items := rfl
        rw [hplaces, exists_offends_itemPlaces_iff]
        constructor
        · rintro ⟨_, hmalformed⟩
          exact hmalformed items rfl
        · intro hmalformed
          refine ⟨rfl, ?_⟩
          rintro _ ⟨⟩
          exact hmalformed
  · simp [Faulty, places, hpath]

theorem exists_mem_flatMap_iff {α β : Type} {list : List α} {places : α → List β}
    {Holds : β → Prop} :
    (∃ place ∈ list.flatMap places, Holds place) ↔
      ∃ source ∈ list, ∃ place ∈ places source, Holds place := by
  simp only [List.mem_flatMap]
  constructor
  · rintro ⟨place, ⟨source, hsource, hplace⟩, hholds⟩
    exact ⟨source, hsource, place, hplace, hholds⟩
  · rintro ⟨source, hsource, place, hplace, hholds⟩
    exact ⟨place, ⟨source, hsource, hplace⟩, hholds⟩

theorem exists_offends_shape_iff {shape : Shape} :
    (∃ fault, (Place.shape shape).Offends fault) ↔ shape ≠ .namedFields := by
  simp only [offends_shape_iff]
  cases shape <;> simp

theorem Attribute.exists_faulty_iff {role : Role} {attributes : List Attribute} :
    (∃ attr ∈ attributes, attr.Faulty role) ↔
      ∃ place ∈ attributes.flatMap (places role), ∃ fault, place.Offends fault := by
  rw [exists_mem_flatMap_iff]
  simp only [faulty_iff]

/-- A declaration offends in its shape, in an attribute of its own or in one of a field. -/
theorem Declaration.exists_offends_iff {declaration : Declaration} :
    (∃ place ∈ declaration.places, ∃ fault, place.Offends fault) ↔
      declaration.shape ≠ .namedFields ∨
        (∃ attr ∈ declaration.attributes, attr.Faulty .type) ∨
          ∃ field ∈ declaration.fields, ∃ attr ∈ field.attributes, attr.Faulty .field := by
  have hfields : (∃ field ∈ declaration.fields, ∃ attr ∈ field.attributes, attr.Faulty .field) ↔
      ∃ place ∈ declaration.fields.flatMap Field.places, ∃ fault, place.Offends fault := by
    rw [exists_mem_flatMap_iff]
    simp only [Attribute.exists_faulty_iff]
    rfl
  rw [hfields, Attribute.exists_faulty_iff, places, List.exists_mem_cons_iff,
    exists_offends_shape_iff]
  simp only [List.mem_append, or_and_right, exists_or]

/-- Attributes that are revised behind a place. With them go the places before it, and the place as
it stands in the one list and in the other. -/
inductive Attribute.Revised (role : Role) :
    List Place → Place → Place → List Attribute → List Attribute → Prop
  | arguments (before after after' : List Attribute) {arguments : Arguments}
      (h : ∀ items, arguments ≠ .list items) :
      Revised role (before.flatMap (places role)) (.arguments arguments) (.arguments arguments)
        (before ++ ⟨attributePath, arguments⟩ :: after)
        (before ++ ⟨attributePath, arguments⟩ :: after')
  | item (before after after' : List Attribute) (front back back' : List Item) (item : Item) :
      Revised role (before.flatMap (places role) ++ front.map (.item role · false))
        (.item role item back.isEmpty) (.item role item back'.isEmpty)
        (before ++ ⟨attributePath, .list (front ++ item :: back)⟩ :: after)
        (before ++ ⟨attributePath, .list (front ++ item :: back')⟩ :: after')

/-- Declarations that are revised behind a place: later items, attributes and fields are changed,
added or taken away. -/
inductive Declaration.Revised : List Place → Place → Place → Declaration → Declaration → Prop
  | shape (shape : Shape) (attributes attributes' : List Attribute) (fields fields' : List Field) :
      Revised [] (.shape shape) (.shape shape) ⟨shape, attributes, fields⟩
        ⟨shape, attributes', fields'⟩
  | type (shape : Shape) (fields fields' : List Field) {seen : List Place} {place place' : Place}
      {attributes attributes' : List Attribute}
      (h : Attribute.Revised .type seen place place' attributes attributes') :
      Revised (.shape shape :: seen) place place' ⟨shape, attributes, fields⟩
        ⟨shape, attributes', fields'⟩
  | field (shape : Shape) (attributes : List Attribute) (before after after' : List Field)
      (name : String) {seen : List Place} {place place' : Place} {own own' : List Attribute}
      (h : Attribute.Revised .field seen place place' own own') :
      Revised
        (.shape shape :: (attributes.flatMap (Attribute.places .type) ++
          (before.flatMap Field.places ++ seen))) place place'
        ⟨shape, attributes, before ++ ⟨name, own⟩ :: after⟩
        ⟨shape, attributes, before ++ ⟨name, own'⟩ :: after'⟩

/-- An item whose key lacks a text after an equals sign. -/
def Place.Unfinished : Place → Prop
  | .item role unfinished _ =>
      unfinished.key ∈ role.textKeys ∧ unfinished.form = .assigned none
  | _ => False

/-- Whether a list of items ends after a place. -/
def Place.isLast : Place → Bool
  | .item _ _ isLast => isLast
  | _ => false

/-- What is said of an item that is not finished. -/
def missingText (isLast : Bool) : Fault := if isLast then .nothingAtEnd else .noText

section Revisions

variable {seen : List Place} {place place' : Place}

/-- Only the last item of a list is followed by nothing. -/
theorem itemPlaces_append_cons (role : Role) (front back : List Item) (item : Item) :
    itemPlaces role (front ++ item :: back) =
      front.map (.item role · false) ++ .item role item back.isEmpty :: itemPlaces role back := by
  induction front with
  | nil => rfl
  | cons first rest ih =>
      have hempty : (rest ++ item :: back).isEmpty = false := by simp
      rw [List.cons_append, itemPlaces, ih, hempty]
      rfl

theorem Attribute.places_of_no_list {role : Role} {arguments : Arguments}
    (h : ∀ items, arguments ≠ .list items) :
    places role ⟨attributePath, arguments⟩ = [.arguments arguments] := by
  cases arguments with
  | list items => exact absurd rfl (h items)
  | _ => rfl

theorem Attribute.Revised.symm {role : Role} {attributes attributes' : List Attribute}
    (h : Attribute.Revised role seen place place' attributes attributes') :
    Attribute.Revised role seen place' place attributes' attributes := by
  cases h with
  | arguments before after after' h => exact .arguments before after' after h
  | item before after after' front back back' item =>
      exact .item before after' after front back' back item

/-- A revision can be taken back. -/
theorem Declaration.Revised.symm {declaration other : Declaration}
    (h : Declaration.Revised seen place place' declaration other) :
    Declaration.Revised seen place' place other declaration := by
  cases h with
  | shape shape attributes attributes' fields fields' =>
      exact .shape shape attributes' attributes fields' fields
  | type shape fields fields' h => exact .type shape fields' fields h.symm
  | field shape attributes before after after' name h =>
      exact .field shape attributes before after' after name h.symm

theorem Attribute.Revised.places_eq {role : Role} {attributes attributes' : List Attribute}
    (h : Attribute.Revised role seen place place' attributes attributes') :
    ∃ back, attributes.flatMap (places role) = seen ++ place :: back := by
  cases h with
  | @arguments before after _ arguments h =>
      refine ⟨after.flatMap (places role), ?_⟩
      rw [List.flatMap_append, List.flatMap_cons, places_of_no_list h]
      rfl
  | item before after _ front back _ item =>
      have hplaces : places role ⟨attributePath, .list (front ++ item :: back)⟩ =
          itemPlaces role (front ++ item :: back) := rfl
      refine ⟨itemPlaces role back ++ after.flatMap (places role), ?_⟩
      rw [List.flatMap_append, List.flatMap_cons, hplaces, itemPlaces_append_cons]
      simp only [List.append_assoc, List.cons_append]

/-- The places before the one that is revised behind are the first of the declaration. -/
theorem Declaration.Revised.places_eq {declaration other : Declaration}
    (h : Declaration.Revised seen place place' declaration other) :
    ∃ back, declaration.places = seen ++ place :: back := by
  cases h with
  | shape => exact ⟨_, rfl⟩
  | type shape fields _ h =>
      obtain ⟨back, hback⟩ := h.places_eq
      refine ⟨back ++ fields.flatMap Field.places, ?_⟩
      rw [places, hback]
      simp only [List.append_assoc, List.cons_append]
  | @field shape attributes before after _ name front _ _ own _ h =>
      obtain ⟨back, hback⟩ := h.places_eq
      have hown : Field.places ⟨name, own⟩ = front ++ place :: back := hback
      refine ⟨back ++ after.flatMap Field.places, ?_⟩
      rw [places, List.flatMap_append, List.flatMap_cons, hown]
      simp only [List.append_assoc, List.cons_append]

/-- A place is at fault whatever stands behind it, but a missing text is missed in two ways. -/
theorem Place.Offends.withLast {role : Role} {item : Item} {isLast : Bool} {fault : Fault}
    (h : (Place.item role item isLast).Offends fault) (isLast' : Bool) :
    (¬ (Place.item role item isLast).Unfinished → (Place.item role item isLast').Offends fault) ∧
      ((Place.item role item isLast).Unfinished →
        (Place.item role item isLast').Offends (missingText isLast')) := by
  constructor
  · intro hfinished
    cases h with
    | unknownKey h => exact .unknownKey h isLast'
    | lacks hkey h =>
        refine .lacks hkey ?_
        obtain ⟨key, form⟩ := item
        cases h with
        | bare => exact .bare isLast'
        | call => exact .call isLast'
        | integer n => exact .integer n isLast'
        | boolean b => exact .boolean b isLast'
        | atEnd => exact absurd ⟨hkey, rfl⟩ hfinished
        | between => exact absurd ⟨hkey, rfl⟩ hfinished
    | refused hgives h => exact .refused hgives h isLast'
    | overrun hkey h => exact .overrun hkey h isLast'
    | afterSkip h => exact .afterSkip h isLast'
  · rintro ⟨hkey, hform⟩
    refine .lacks hkey ?_
    rw [hform]
    cases isLast' with
    | true => exact .atEnd
    | false => exact .between

theorem Attribute.Revised.offends {role : Role} {attributes attributes' : List Attribute}
    (h : Attribute.Revised role seen place place' attributes attributes') {fault : Fault}
    (hfault : place.Offends fault) :
    (¬ place.Unfinished → place'.Offends fault) ∧
      (place.Unfinished → place'.Offends (missingText place'.isLast)) := by
  cases h with
  | arguments => exact ⟨fun _ => hfault, False.elim⟩
  | item _ _ _ _ _ back' => exact hfault.withLast back'.isEmpty

/-- An offence stays behind a revision, with its fault unless the item breaks off: then the fault
tells whether anything follows. -/
theorem Declaration.Revised.offends {declaration other : Declaration}
    (h : Declaration.Revised seen place place' declaration other) {fault : Fault}
    (hfault : place.Offends fault) :
    (¬ place.Unfinished → place'.Offends fault) ∧
      (place.Unfinished → place'.Offends (missingText place'.isLast)) := by
  cases h with
  | shape => exact ⟨fun _ => hfault, False.elim⟩
  | type _ _ _ h => exact h.offends hfault
  | field _ _ _ _ _ _ h => exact h.offends hfault

end Revisions

/-- A member of two lists in a row lies in the first one or in the second. -/
theorem split_or_split_of_append_eq {α : Type} {first second front back : List α} {member : α}
    (h : first ++ second = front ++ member :: back) :
    (∃ rest, first = front ++ member :: rest) ∨
      ∃ inner, front = first ++ inner ∧ second = inner ++ member :: back := by
  rcases List.append_eq_append_iff.mp h with ⟨inner, hfront, hsecond⟩ | ⟨rest, hfirst, hback⟩
  · exact Or.inr ⟨inner, hfront, hsecond⟩
  · cases rest with
    | nil => exact Or.inr ⟨[], by simp [hfirst], hback.symm⟩
    | cons other rest =>
        obtain ⟨rfl, _⟩ := List.cons.inj hback
        exact Or.inl ⟨rest, hfirst⟩

/-- What lies among the places of a row of sources lies among the places of one of them. -/
theorem exists_source_of_flatMap_eq {α : Type} {places : α → List Place} {list : List α}
    {front : List Place} {place : Place} {back : List Place}
    (h : list.flatMap places = front ++ place :: back) :
    ∃ before source after inner rest, list = before ++ source :: after ∧
      front = before.flatMap places ++ inner ∧ places source = inner ++ place :: rest := by
  induction list generalizing front with
  | nil => exact absurd h.symm (List.append_ne_nil_of_right_ne_nil front (List.cons_ne_nil _ _))
  | cons first others ih =>
      rw [List.flatMap_cons] at h
      rcases split_or_split_of_append_eq h with ⟨rest, hfirst⟩ | ⟨inner, rfl, hothers⟩
      · exact ⟨[], first, others, front, rest, rfl, rfl, hfirst⟩
      · obtain ⟨before, source, after, deeper, rest, rfl, rfl, hsource⟩ := ih hothers
        refine ⟨first :: before, source, after, deeper, rest, rfl, ?_, hsource⟩
        rw [List.flatMap_cons, List.append_assoc]

theorem exists_item_of_itemPlaces_eq {role : Role} {items : List Item} {front : List Place}
    {place : Place} {back : List Place} (h : itemPlaces role items = front ++ place :: back) :
    ∃ before item after, items = before ++ item :: after ∧
      front = before.map (.item role · false) ∧ place = .item role item after.isEmpty := by
  induction items generalizing front with
  | nil => exact absurd h.symm (List.append_ne_nil_of_right_ne_nil front (List.cons_ne_nil _ _))
  | cons first others ih =>
      cases front with
      | nil =>
          obtain ⟨rfl, _⟩ := List.cons.inj h
          exact ⟨[], first, others, rfl, rfl, rfl⟩
      | cons earlier front =>
          obtain ⟨rfl, hothers⟩ := List.cons.inj h
          obtain ⟨before, item, after, rfl, rfl, rfl⟩ := ih hothers
          have hempty : (before ++ item :: after).isEmpty = false := by simp
          rw [hempty]
          exact ⟨first :: before, item, after, rfl, rfl, rfl⟩

theorem Attribute.revised_self {role : Role} {attributes : List Attribute} {seen : List Place}
    {place : Place} {back : List Place}
    (h : attributes.flatMap (places role) = seen ++ place :: back) :
    Attribute.Revised role seen place place attributes attributes := by
  obtain ⟨before, ⟨path, arguments⟩, after, inner, rest, rfl, rfl, hattr⟩ :=
    exists_source_of_flatMap_eq h
  have hpath : path = attributePath := by
    by_contra hforeign
    rw [places, if_neg hforeign] at hattr
    exact absurd hattr.symm
      (List.append_ne_nil_of_right_ne_nil inner (List.cons_ne_nil place rest))
  subst hpath
  by_cases hlist : ∃ items, arguments = .list items
  · obtain ⟨items, rfl⟩ := hlist
    obtain ⟨front, item, back, rfl, rfl, rfl⟩ := exists_item_of_itemPlaces_eq hattr
    exact .item before after after front back back item
  · have hnone := not_exists.mp hlist
    rw [places_of_no_list hnone] at hattr
    rcases List.singleton_eq_append_iff.mp hattr with ⟨rfl, hplace⟩ | ⟨_, ⟨⟩⟩
    obtain ⟨rfl, _⟩ := List.cons.inj hplace
    rw [List.append_nil]
    exact .arguments before after after hnone

/-- Every place of a declaration is one behind which it can be revised. -/
theorem Declaration.revised_self {declaration : Declaration} {seen : List Place} {place : Place}
    {back : List Place} (h : declaration.places = seen ++ place :: back) :
    Declaration.Revised seen place place declaration declaration := by
  obtain ⟨shape, attributes, fields⟩ := declaration
  cases seen with
  | nil =>
      obtain ⟨rfl, _⟩ := List.cons.inj h
      exact .shape shape attributes attributes fields fields
  | cons first seen =>
      obtain ⟨rfl, hplaces⟩ := List.cons.inj h
      rcases split_or_split_of_append_eq hplaces with ⟨rest, htype⟩ | ⟨inner, rfl, hfields⟩
      · exact .type shape fields fields (Attribute.revised_self htype)
      · obtain ⟨before, field, after, own, rest, rfl, rfl, hfield⟩ :=
          exists_source_of_flatMap_eq hfields
        exact .field shape attributes before after after field.name (Attribute.revised_self hfield)

/-- A place that is revised behind is the first offence before and after. -/
theorem Declaration.Revised.columns_eq {declaration other : Declaration} {seen : List Place}
    {place place' : Place} (h : Declaration.Revised seen place place' declaration other)
    (hseen : ∀ earlier ∈ seen, earlier.Fine) {fault : Fault} (hfault : place'.Offends fault) :
    other.columns = .error fault := by
  obtain ⟨back, hplaces⟩ := h.symm.places_eq
  apply (other.checks_columns fault).mpr
  exact ⟨seen, place', back, hplaces, hseen, hfault⟩

/-- A declaration is refused just when its shape has no columns or one of its attributes is faulty,
and then with the fault of its first offence. The declaration can be revised behind that offence,
and every revision is refused with the same fault; only a text that is missing after an equals sign
is missed in words that tell whether an item follows. -/
theorem columns_refused_at_first_offence (declaration : Declaration) :
    ((∃ fault, declaration.columns = .error fault) ↔
      declaration.shape ≠ .namedFields ∨
        (∃ attr ∈ declaration.attributes, attr.Faulty .type) ∨
          ∃ field ∈ declaration.fields, ∃ attr ∈ field.attributes, attr.Faulty .field) ∧
      (∀ fault, declaration.columns = .error fault ↔ FirstOffence declaration.places fault) ∧
      ∀ seen place back fault, declaration.places = seen ++ place :: back →
        (∀ earlier ∈ seen, earlier.Fine) → place.Offends fault →
        Declaration.Revised seen place place declaration declaration ∧
          ∀ other place', Declaration.Revised seen place place' declaration other →
            (¬ place.Unfinished → other.columns = .error fault) ∧
              (place.Unfinished → other.columns = .error (missingText place'.isLast)) := by
  have hcolumns := declaration.checks_columns
  refine ⟨?_, hcolumns, ?_⟩
  · rw [← Declaration.exists_offends_iff, ← exists_firstOffence_iff]
    exact exists_congr hcolumns
  · intro seen place back fault hplaces hseen hfault
    refine ⟨Declaration.revised_self hplaces, ?_⟩
    intro other place' hrevised
    obtain ⟨hsame, hmissing⟩ := hrevised.offends hfault
    constructor
    · intro hfinished
      exact hrevised.columns_eq hseen (hsame hfinished)
    · intro hunfinished
      exact hrevised.columns_eq hseen (hmissing hunfinished)

/-- A field is read although it is left out. When an item comes in behind the unfinished one and the
next field goes, the declaration is refused for the same item in other words. -/
theorem columns_refused_at_unfinished_column :
    let unfinished : Item := ⟨"column", .assigned none⟩
    let declaration : Declaration := ⟨.namedFields, [⟨"serde", .absent⟩], [
      ⟨"inner", [⟨attributePath, .list [⟨"skip", .bare⟩, unfinished]⟩]⟩,
      ⟨"outer", [⟨attributePath, .absent⟩]⟩]⟩
    let other : Declaration := ⟨.namedFields, [⟨"serde", .absent⟩], [
      ⟨"inner", [⟨attributePath, .list [⟨"skip", .bare⟩, unfinished, .giving "expr" ""]⟩]⟩]⟩
    declaration.places = [.shape .namedFields, .item .field ⟨"skip", .bare⟩ false,
        .item .field unfinished true, .arguments .absent] ∧
      FirstOffence declaration.places .nothingAtEnd ∧ other.columns = .error .noText := by
  intro unfinished declaration other
  obtain ⟨_, hfirst, hrevised⟩ := columns_refused_at_first_offence declaration
  have hrefused : declaration.columns = .error .nothingAtEnd := rfl
  have hseen : ∀ earlier ∈ [Place.shape .namedFields, .item .field ⟨"skip", .bare⟩ false],
      earlier.Fine := by
    have hshape : (Place.shape .namedFields).Fine := fun fault h =>
      exists_offends_shape_iff.mp ⟨fault, h⟩ rfl
    have hskip : (Place.item .field ⟨"skip", .bare⟩ false).Fine := fun fault h =>
      (Place.offends_iff_of_skip.mp h).1 rfl
    simp only [List.forall_mem_cons, hshape, hskip, true_and]
    exact nofun
  have hfault : (Place.item .field unfinished true).Offends .nothingAtEnd :=
    .lacks List.mem_cons_self .atEnd
  have hother : Declaration.Revised [.shape .namedFields, .item .field ⟨"skip", .bare⟩ false]
      (.item .field unfinished true) (.item .field unfinished false) declaration other :=
    .field .namedFields [⟨"serde", .absent⟩] [] [⟨"outer", [⟨attributePath, .absent⟩]⟩] [] "inner"
      (.item [] [] [] [⟨"skip", .bare⟩] [] [.giving "expr" ""] unfinished)
  have hlater := hrevised _ _ _ _ rfl hseen hfault
  exact ⟨rfl, (hfirst _).mp hrefused, (hlater.2 other _ hother).2 ⟨List.mem_cons_self, rfl⟩⟩

end BoundSql.Record
