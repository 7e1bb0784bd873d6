import BoundSql.Value

/-!
SQL text with placeholders. Whatever is written, the values for its placeholders are kept beside it
in the order of the placeholders.
-/

namespace BoundSql

/-- Of two actions in a row, the second starts in the state in which the first has ended. -/
theorem run_bind {σ α β : Type} (first : StateM σ α) (next : α → StateM σ β) (state : σ) :
    (first >>= next).run state = (next (first.run state).1).run (first.run state).2 := rfl

/-- Writing a piece of SQL text, where the values bound so far are carried along. -/
abbrev Binding := StateM (List Value)

namespace Binding

/-- Binds a value and writes its placeholder. -/
def placeholder (value : Value) : Binding String := do
  modify (· ++ [value])
  pure "?"

/-- Binds several values and writes their placeholders, separated by commas. -/
def placeholders (values : List Value) : Binding String := do
  pure (",".intercalate (← values.mapM placeholder))

theorem run_placeholder (value : Value) (bound : List Value) :
    (placeholder value).run bound = ("?", bound ++ [value]) := rfl

theorem run_mapM_placeholder (values bound : List Value) :
    (values.mapM placeholder).run bound =
      (List.replicate values.length "?", bound ++ values) := by
  induction values generalizing bound with
  | nil =>
      rw [List.append_nil]
      rfl
  | cons value rest ih =>
      rw [List.mapM_cons, run_bind, run_placeholder, run_bind, ih, List.append_assoc]
      rfl

/-- As many placeholders are written as values are bound. -/
theorem run_placeholders (values bound : List Value) :
    (placeholders values).run bound =
      (",".intercalate (List.replicate values.length "?"), bound ++ values) := by
  rw [placeholders, run_bind, run_mapM_placeholder]
  rfl

end Binding

end BoundSql
