import BoundSql.Identifier
import BoundSql.Proofs.Text.Reading

/-!
Quoted names. A name is written between marks unless it is empty or an expression. Quoting adds
nothing to a name but its marks, and a plain name stands between two of them unchanged.
-/

namespace BoundSql.Identifier

/-- A name that is quoted as it stands: it is no expression, and no mark is in it. -/
structure IsPlain (name : String) : Prop where
  nonempty : name ≠ ""
  not_star : name ≠ "*"
  no_mark : mark ∉ name.toList
  no_space : ' ' ∉ name.toList
  no_parenthesis : '(' ∉ name.toList

instance (name : String) : Decidable (IsPlain name) :=
  decidable_of_iff (name ≠ "" ∧ name ≠ "*" ∧ mark ∉ name.toList ∧ ' ' ∉ name.toList ∧
    '(' ∉ name.toList)
    ⟨fun ⟨h₁, h₂, h₃, h₄, h₅⟩ => ⟨h₁, h₂, h₃, h₄, h₅⟩,
      fun ⟨h₁, h₂, h₃, h₄, h₅⟩ => ⟨h₁, h₂, h₃, h₄, h₅⟩⟩

/-- A name that is written between marks: it is not empty, and it is no expression. -/
structure IsQuoted (name : String) : Prop where
  nonempty : name ≠ ""
  not_star : name ≠ "*"
  no_space : ' ' ∉ name.toList
  no_parenthesis : '(' ∉ name.toList

theorem isQuoted_iff {name : String} :
    IsQuoted name ↔ (name.isEmpty || isExpression name) = false := by
  simp only [isExpression, Bool.or_eq_false_iff, String.isEmpty_eq_false_iff, beq_eq_false_iff_ne,
    List.contains_eq_mem, decide_eq_false_iff_not]
  constructor
  · rintro ⟨hne, hstar, hspace, hparenthesis⟩
    exact ⟨hne, ⟨hstar, hparenthesis⟩, hspace⟩
  · rintro ⟨hne, ⟨hstar, hparenthesis⟩, hspace⟩
    exact ⟨hne, hstar, hspace, hparenthesis⟩

instance (name : String) : Decidable (IsQuoted name) :=
  decidable_of_iff _ isQuoted_iff.symm

theorem IsPlain.isQuoted {name : String} (h : IsPlain name) : IsQuoted name :=
  ⟨h.nonempty, h.not_star, h.no_space, h.no_parenthesis⟩

theorem quote_of_isQuoted {name : String} (h : IsQuoted name) :
    quote name =
      String.singleton mark ++ Text.trimEnds (· == mark) name ++ String.singleton mark := by
  rw [quote, isQuoted_iff.mp h]
  rfl

/-- The empty name and an expression are written as they stand. -/
theorem quote_of_not_isQuoted {name : String} (h : ¬ IsQuoted name) : quote name = name := by
  rw [isQuoted_iff, Bool.not_eq_false] at h
  rw [quote, if_pos h]

/-- Quoting adds marks and nothing else. -/
theorem mem_quote {name : String} {c : Char} (h : c ∈ (quote name).toList) :
    c ∈ name.toList ∨ c = mark := by
  unfold quote at h
  split at h
  · exact Or.inl h
  · simp only [String.toList_append, String.toList_singleton, List.mem_append,
      List.mem_singleton] at h
    rcases h with (hfront | hname) | hback
    · exact Or.inr hfront
    · exact Or.inl (Text.mem_of_mem_trimEnds hname)
    · exact Or.inr hback

/-- A plain name stands between two marks. -/
theorem quote_of_isPlain {name : String} (h : IsPlain name) :
    quote name = String.singleton mark ++ name ++ String.singleton mark := by
  have hkeep : ∀ c ∈ name.toList, (c == mark) = false := by
    intro c hc
    rw [beq_eq_false_iff_ne]
    rintro rfl
    exact h.no_mark hc
  have htrim : Text.trimEnds (· == mark) name = name :=
    Text.trimEnds_eq_self (fun c hc => hkeep c (List.mem_of_mem_head? hc))
      (fun c hc => hkeep c (List.mem_of_getLast? hc))
  rw [quote_of_isQuoted h.isQuoted, htrim]

theorem toList_quote_of_isPlain {name : String} (h : IsPlain name) (rest : List Char) :
    (quote name).toList ++ rest = mark :: (name.toList ++ mark :: rest) := by
  rw [quote_of_isPlain h]
  simp

/-- Two plain names are told apart by their written forms, whatever follows them. -/
theorem read_quote {name name' : String} {rest rest' : List Char} (hname : IsPlain name)
    (hname' : IsPlain name') (h : (quote name).toList ++ rest = (quote name').toList ++ rest') :
    name = name' ∧ rest = rest' := by
  rw [toList_quote_of_isPlain hname, toList_quote_of_isPlain hname'] at h
  obtain ⟨hchars, hrest⟩ := Text.read_until hname.no_mark hname'.no_mark (List.cons.inj h).2
  exact ⟨String.toList_inj.mp hchars, hrest⟩

/-- A plain name ends at the next mark. -/
theorem selfDelimiting_quote : Text.SelfDelimiting IsPlain quote := by
  intro name name' rest rest' hname hname' _ _ htext
  exact read_quote hname hname' htext

theorem readsBefore_quoteList :
    Text.ReadsBefore Text.Breaks (fun names => names ≠ [] ∧ ∀ name ∈ names, IsPlain name)
      quoteList := by
  exact selfDelimiting_quote.separated rfl (by decide)

theorem head?_quoteList {names : List String} (hne : names ≠ [])
    (hplain : ∀ name ∈ names, IsPlain name) : (quoteList names).toList.head? = some mark := by
  obtain ⟨first, rest, rfl⟩ := List.exists_cons_of_ne_nil hne
  have hfirst := toList_quote_of_isPlain (hplain first List.mem_cons_self)
  rw [quoteList, List.map_cons, Text.toList_intercalate_cons, hfirst]
  rfl

end BoundSql.Identifier
