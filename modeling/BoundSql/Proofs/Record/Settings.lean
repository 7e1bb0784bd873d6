import BoundSql.Record.Settings

/-!
What the attributes of a declaration say, told from their items alone. A well-formed item is one
that the reader can take, and from well-formed items the reader learns no more than which text was
last given to each key and whether a field is skipped. So it does not matter how the items are
spread over attributes, nor in which order items of different keys stand.
-/

namespace BoundSql.Record

/-- The item that gives a text to a key. -/
def Item.giving (key content : String) : Item := ⟨key, .assigned (some (.text content))⟩

/-- The text that an item gives to a key. -/
def Item.textFor? (key : String) (item : Item) : Option String :=
  match item.form with
  | .assigned (some (.text content)) => if item.key = key then some content else none
  | _ => none

/-- The last text that items give to a key. -/
def lastText (key : String) (items : List Item) : Option String :=
  (items.filterMap (Item.textFor? key)).getLast?

/-- Whether one of the items has a key. -/
def hasKey (key : String) (items : List Item) : Bool := items.any (·.key = key)

/-- The items of an attribute, if they are read. -/
def Attribute.items (attr : Attribute) : List Item :=
  match attr.arguments with
  | .list items => if attr.path = attributePath then items else []
  | _ => []

/-- All items of some attributes that are read, in their order. -/
def readableItems (attributes : List Attribute) : List Item := attributes.flatMap Attribute.items

/-- The last text of a key is that of the last item, if the item has one for it. -/
theorem lastText_concat (key : String) (before : List Item) (item : Item) :
    lastText key (before ++ [item]) = (item.textFor? key).or (lastText key before) := by
  rw [lastText, List.filterMap_append, List.getLast?_append]
  cases h : item.textFor? key <;> simp [h, lastText]

@[simp] theorem Item.textFor?_giving (key other content : String) :
    (Item.giving key content).textFor? other = if key = other then some content else none := rfl

theorem Item.textFor?_of_ne {key : String} {item : Item} (h : item.key ≠ key) :
    item.textFor? key = none := by
  rw [textFor?]
  split
  · exact if_neg h
  · rfl

theorem hasKey_concat (key : String) (before : List Item) (item : Item) :
    hasKey key (before ++ [item]) = (hasKey key before || item.key = key) := by
  simp [hasKey]

@[simp] theorem Item.key_giving (key content : String) : (Item.giving key content).key = key := rfl

theorem Attribute.items_of_foreign {attr : Attribute} (h : attr.path ≠ attributePath) :
    attr.items = [] := by
  rw [items]
  split
  · rw [if_neg h]
  · rfl

theorem Attribute.items_of_list {attr : Attribute} {items : List Item}
    (hpath : attr.path = attributePath) (hitems : attr.arguments = .list items) :
    attr.items = items := by
  rw [Attribute.items, hitems]
  exact if_pos hpath

@[simp] theorem Attribute.items_list (items : List Item) :
    Attribute.items ⟨attributePath, .list items⟩ = items := items_of_list rfl rfl

@[simp] theorem readableItems_cons (first : Attribute) (rest : List Attribute) :
    readableItems (first :: rest) = first.items ++ readableItems rest := List.flatMap_cons

@[simp] theorem readableItems_append (before after : List Attribute) :
    readableItems (before ++ after) = readableItems before ++ readableItems after :=
  List.flatMap_append

/-- A key that items have is given a text by them, if every item that has it gives one. -/
theorem exists_lastText {key : String} {items : List Item} (h : hasKey key items)
    (hgiving : ∀ item ∈ items, item.key = key → ∃ content, item = .giving key content) :
    ∃ content, lastText key items = some content := by
  rw [hasKey, List.any_eq_true] at h
  obtain ⟨item, hmem, hkey⟩ := h
  obtain ⟨content, hcontent⟩ := hgiving item hmem (of_decide_eq_true hkey)
  have htext : content ∈ items.filterMap (Item.textFor? key) := by
    refine List.mem_filterMap.2 ⟨item, hmem, ?_⟩
    rw [hcontent, Item.textFor?_giving, if_pos rfl]
  exact ⟨_, List.getLast?_eq_some_getLast (List.ne_nil_of_mem htext)⟩

/-- Items among which each key has the same items in the same order. -/
def SameForEachKey (items others : List Item) : Prop :=
  ∀ key, items.filter (·.key = key) = others.filter (·.key = key)

/-- The last text of a key depends on the items of that key alone. -/
theorem SameForEachKey.lastText_eq {items others : List Item} (h : SameForEachKey items others)
    (key : String) : lastText key items = lastText key others := by
  have hother : ∀ all : List Item,
      (all.filter (·.key = key)).filterMap (Item.textFor? key) =
        all.filterMap (Item.textFor? key) := by
    intro all
    rw [List.filterMap_filter]
    congr 1
    funext item
    by_cases hkey : item.key = key
    · simp [hkey]
    · simp [hkey, Item.textFor?_of_ne hkey]
  rw [lastText, lastText, ← hother items, h key, hother others]

theorem SameForEachKey.hasKey_eq {items others : List Item} (h : SameForEachKey items others)
    (key : String) : hasKey key items = hasKey key others := by
  have hkey : ∀ all : List Item, hasKey key all = (all.filter (·.key = key)).any fun _ => true := by
    intro all
    rw [hasKey, List.any_filter]
    simp only [Bool.and_true]
  rw [hkey, hkey, h key]

/-- Items of different keys may change places. -/
theorem SameForEachKey.swap (front back : List Item) {item other : Item}
    (h : item.key ≠ other.key) :
    SameForEachKey (front ++ item :: other :: back) (front ++ other :: item :: back) := by
  intro key
  by_cases hkey : item.key = key
  · subst hkey
    simp [h.symm]
  · simp [List.filter_cons, hkey]

/-- The items that a type can have. -/
inductive Item.OfType : Item → Prop
  | included : OfType (.giving "untagged" "include")
  | excluded : OfType (.giving "untagged" "skip")
  | renamed {rule : String} (known : (CaseStyle.ofRule? rule).isSome) :
      OfType (.giving "rename_all" rule)

/-- The items that a field can have. -/
inductive Item.OfField : Item → Prop
  | skip : OfField ⟨"skip", .bare⟩
  | column {content : String} (nonempty : content ≠ "") : OfField (.giving "column" content)
  | expression {content : String} (nonempty : content ≠ "") : OfField (.giving "expr" content)

/-- An attribute that is passed over, or has a list of items that fit. -/
def Attribute.WellFormed (Fits : Item → Prop) (attr : Attribute) : Prop :=
  attr.path = attributePath →
    ∃ items, attr.arguments = .list items ∧ ∀ item ∈ items, Fits item

/-- All keys of a field but one have a text. -/
theorem Item.OfField.exists_giving {item : Item} (h : item.OfField) {key : String}
    (hskip : key ≠ "skip") (hkey : item.key = key) : ∃ content, item = .giving key content := by
  subst hkey
  cases h with
  | skip => exact absurd rfl hskip
  | @column content => exact ⟨content, rfl⟩
  | @expression content => exact ⟨content, rfl⟩

theorem Item.OfType.ending_eq {item : Item} (h : item.OfType) : item.form.ending = .ok () := by
  cases h <;> rfl

theorem Item.OfField.ending_eq {item : Item} (h : item.OfField) : item.form.ending = .ok () := by
  cases h <;> rfl

theorem fits_of_mem_readableItems {Fits : Item → Prop} {attributes : List Attribute}
    (hwell : ∀ attr ∈ attributes, attr.WellFormed Fits) : ∀ item ∈ readableItems attributes,
      Fits item := by
  intro item hmem
  obtain ⟨attr, hattr, hitem⟩ := List.mem_flatMap.1 hmem
  by_cases hpath : attr.path = attributePath
  · obtain ⟨items, hitems, hfits⟩ := hwell attr hattr hpath
    rw [Attribute.items_of_list hpath hitems] at hitem
    exact hfits item hitem
  · rw [Attribute.items_of_foreign hpath] at hitem
    cases hitem

theorem Attribute.wellFormed_of_foreign (Fits : Item → Prop) {attr : Attribute}
    (h : attr.path ≠ attributePath) : attr.WellFormed Fits := fun hpath => absurd hpath h

theorem Attribute.wellFormed_list {Fits : Item → Prop} (items : List Item) :
    Attribute.WellFormed Fits ⟨attributePath, .list items⟩ ↔ ∀ item ∈ items, Fits item := by
  simp [WellFormed]

/-- What is done in two steps goes well in both. -/
theorem exists_of_bind_ok {α β : Type} {first : Except Fault α} {next : α → Except Fault β}
    {result : β} (h : first >>= next = .ok result) :
    ∃ middle, first = .ok middle ∧ next middle = .ok result := by
  cases first with
  | error fault => cases h
  | ok middle => exact ⟨middle, rfl, h⟩

section Reading

variable {α : Type} {readItem : α → Item → Bool → Except Fault α} {Fits : Item → Prop}

/-- A reader that keeps up with the items when it takes one more keeps up with all of them. -/
theorem readItems_told {told : List Item → α}
    (hending : ∀ item, Fits item → item.form.ending = .ok ())
    (hstep : ∀ before item isLast, Fits item →
      readItem (told before) item isLast = .ok (told (before ++ [item])))
    (before : List Item) {items : List Item} (hfits : ∀ item ∈ items, Fits item) :
    readItems readItem (told before) items = .ok (told (before ++ items)) := by
  -- The items that are read join the items before, which stay general for that.
  induction items generalizing before with
  | nil => rw [readItems, List.append_nil]
  | cons item rest ih =>
      obtain ⟨hitem, hothers⟩ := List.forall_mem_cons.1 hfits
      have hfirst := hstep before item rest.isEmpty hitem
      have hrest := ih (before ++ [item]) hothers
      rw [List.append_assoc] at hrest
      rw [readItems, hfirst, hending item hitem]
      exact hrest

/-- The same for the items of several attributes. -/
theorem readAttributes_told {told : List Item → α}
    (hending : ∀ item, Fits item → item.form.ending = .ok ())
    (hstep : ∀ before item isLast, Fits item →
      readItem (told before) item isLast = .ok (told (before ++ [item])))
    (before : List Item) {attributes : List Attribute}
    (hwell : ∀ attr ∈ attributes, attr.WellFormed Fits) :
    readAttributes readItem (told before) attributes =
      .ok (told (before ++ readableItems attributes)) := by
  induction attributes generalizing before with
  | nil => rw [readAttributes]; simp [readableItems]
  | cons first rest ih =>
      obtain ⟨hattr, hothers⟩ := List.forall_mem_cons.1 hwell
      rw [readAttributes, readableItems_cons]
      by_cases hpath : first.path = attributePath
      · obtain ⟨items, hitems, hfits⟩ := hattr hpath
        have hfirst := readItems_told hending hstep before hfits
        have hrest := ih (before ++ items) hothers
        rw [if_pos hpath, hitems, Attribute.items_of_list hpath hitems, ← List.append_assoc,
          ← hrest]
        exact congrArg (· >>= _) hfirst
      · have hrest := ih before hothers
        rw [if_neg hpath, Attribute.items_of_foreign hpath, List.nil_append, ← hrest]
        rfl

/-- What is read to the end without a fault fits, item by item. -/
theorem fits_of_readItems
    (hstep : ∀ settings item isLast next, readItem settings item isLast = .ok next →
      item.form.ending = .ok () → Fits item)
    {settings next : α} {items : List Item}
    (hread : readItems readItem settings items = .ok next) : ∀ item ∈ items, Fits item := by
  induction items generalizing settings with
  | nil => intro item hmem; cases hmem
  | cons first rest ih =>
      rw [readItems] at hread
      obtain ⟨middle, hfirst, hnext⟩ := exists_of_bind_ok hread
      obtain ⟨_, hending, hrest⟩ := exists_of_bind_ok hnext
      exact List.forall_mem_cons.2 ⟨hstep _ _ _ _ hfirst hending, ih hrest⟩

/-- Nothing but well-formed attributes is read without a fault. -/
theorem wellFormed_of_readAttributes
    (hstep : ∀ settings item isLast next, readItem settings item isLast = .ok next →
      item.form.ending = .ok () → Fits item)
    {settings next : α} {attributes : List Attribute}
    (hread : readAttributes readItem settings attributes = .ok next) :
    ∀ attr ∈ attributes, attr.WellFormed Fits := by
  induction attributes generalizing settings with
  | nil => intro attr hmem; cases hmem
  | cons first rest ih =>
      rw [readAttributes] at hread
      refine List.forall_mem_cons.2 ?_
      by_cases hpath : first.path = attributePath
      · rw [if_pos hpath] at hread
        cases hitems : first.arguments with
        | absent => rw [hitems] at hread; cases hread
        | assigned content => rw [hitems] at hread; cases hread
        | list items =>
            rw [hitems] at hread
            obtain ⟨middle, hfirst, hrest⟩ := exists_of_bind_ok hread
            have hfits := fits_of_readItems hstep hfirst
            exact ⟨fun _ => ⟨items, hitems, hfits⟩, ih hrest⟩
      · rw [if_neg hpath] at hread
        exact ⟨fun h => absurd h hpath, ih hread⟩

end Reading

/-- What the items of a type say to its reader. -/
def TypeSettings.told (items : List Item) : TypeSettings where
  includeUntagged := lastText "untagged" items ≠ some "skip"
  style := (lastText "rename_all" items).bind CaseStyle.ofRule?

/-- What the items of a field say to its reader. -/
def FieldSettings.told (items : List Item) : FieldSettings where
  column := lastText "column" items
  expression := lastText "expr" items
  skipped := hasKey "skip" items

/-- A reader starts with what is said by no items. -/
theorem TypeSettings.told_nil : told [] = {} := rfl

theorem FieldSettings.told_nil : told [] = {} := rfl

theorem TypeSettings.readItem_told (before : List Item) {item : Item} (isLast : Bool)
    (h : item.OfType) : readItem (told before) item isLast = .ok (told (before ++ [item])) := by
  cases h with
  | included =>
      have hread : readItem (told before) (.giving "untagged" "include") isLast =
          .ok { told before with includeUntagged := true } := rfl
      rw [hread]
      simp [told, lastText_concat]
  | excluded =>
      have hread : readItem (told before) (.giving "untagged" "skip") isLast =
          .ok { told before with includeUntagged := false } := rfl
      rw [hread]
      simp [told, lastText_concat]
  | @renamed rule known =>
      obtain ⟨style, hstyle⟩ := Option.isSome_iff_exists.1 known
      have hread : readItem (told before) (.giving "rename_all" rule) isLast =
          .ok { told before with style := some style } := by
        simp only [readItem, Item.giving, ItemForm.text, bind, Except.bind, hstyle]
      rw [hread]
      simp [told, lastText_concat, hstyle]

/-- Reading one more item tells what the items up to it tell. -/
theorem FieldSettings.readItem_told (before : List Item) {item : Item} (isLast : Bool)
    (h : item.OfField) : readItem (told before) item isLast = .ok (told (before ++ [item])) := by
  cases h with
  | skip =>
      have hread : readItem (told before) ⟨"skip", .bare⟩ isLast =
          .ok { told before with skipped := true } := rfl
      rw [hread]
      simp [told, lastText_concat, hasKey_concat, Item.textFor?]
  | @column content nonempty =>
      have hread : readItem (told before) (.giving "column" content) isLast =
          .ok { told before with column := some content } := by
        have htext : ¬ content.isEmpty := by simpa using nonempty
        exact if_neg htext
      rw [hread]
      simp [told, lastText_concat, hasKey_concat]
  | @expression content nonempty =>
      have hread : readItem (told before) (.giving "expr" content) isLast =
          .ok { told before with expression := some content } := by
        have htext : ¬ content.isEmpty := by simpa using nonempty
        exact if_neg htext
      rw [hread]
      simp [told, lastText_concat, hasKey_concat]

theorem ItemForm.eq_of_text_ok {form : ItemForm} {isLast : Bool} {content : String}
    (h : form.text isLast = .ok content) :
    form = .assigned (some (.text content)) ∨ form = .overrun content := by
  revert h
  fun_cases ItemForm.text with
  | case3 content => rintro ⟨⟩; exact Or.inl rfl
  | case4 content => rintro ⟨⟩; exact Or.inr rfl
  | _ => rintro ⟨⟩

/-- An item that gives a text and ends there. -/
theorem ItemForm.eq_assigned {form : ItemForm} {isLast : Bool} {content : String}
    (htext : form.text isLast = .ok content) (hending : form.ending = .ok ()) :
    form = .assigned (some (.text content)) := by
  rcases eq_of_text_ok htext with rfl | rfl
  · rfl
  · cases hending

theorem Item.ofType_of_readItem (settings : TypeSettings) (item : Item) (isLast : Bool)
    (next : TypeSettings) (h : settings.readItem item isLast = .ok next)
    (hending : item.form.ending = .ok ()) : item.OfType := by
  obtain ⟨key, form⟩ := item
  rw [TypeSettings.readItem] at h
  split at h
  case h_1 hkey =>
    obtain ⟨content, htext, hnext⟩ := exists_of_bind_ok h
    obtain rfl := ItemForm.eq_assigned htext hending
    subst hkey
    split at hnext
    · exact .included
    · exact .excluded
    · cases hnext
  case h_2 hkey =>
    obtain ⟨rule, htext, hnext⟩ := exists_of_bind_ok h
    obtain rfl := ItemForm.eq_assigned htext hending
    subst hkey
    split at hnext
    · next style hstyle => exact .renamed (Option.isSome_of_eq_some hstyle)
    · cases hnext
  case h_3 => cases h

/-- An item that is read without a fault and ends well is one of a field. -/
theorem Item.ofField_of_readItem (settings : FieldSettings) (item : Item) (isLast : Bool)
    (next : FieldSettings) (h : settings.readItem item isLast = .ok next)
    (hending : item.form.ending = .ok ()) : item.OfField := by
  obtain ⟨key, form⟩ := item
  rw [FieldSettings.readItem] at h
  split at h
  case h_1 hkey =>
    subst hkey
    cases form with
    | bare => exact .skip
    | assigned literal => cases h
    | call => cases h
    | overrun content => cases h
  case h_2 hkey =>
    obtain ⟨content, htext, hnext⟩ := exists_of_bind_ok h
    obtain rfl := ItemForm.eq_assigned htext hending
    subst hkey
    split at hnext
    · cases hnext
    · next hempty => exact .column (by simpa using hempty)
  case h_3 hkey =>
    obtain ⟨content, htext, hnext⟩ := exists_of_bind_ok h
    obtain rfl := ItemForm.eq_assigned htext hending
    subst hkey
    split at hnext
    · cases hnext
    · next hempty => exact .expression (by simpa using hempty)
  case h_4 => cases h

end BoundSql.Record
