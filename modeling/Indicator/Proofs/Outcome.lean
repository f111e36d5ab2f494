/-!
# Outcomes

When an outcome that is put together from others is a success, and what it is otherwise.
-/

namespace Indicator

variable {ε ε' α β : Type}

theorem bind_eq_ok {a : Except ε α} {f : α → Except ε β} {b : β} :
    (a >>= f) = .ok b ↔ ∃ c, a = .ok c ∧ f c = .ok b := by
  cases a with
  | error what => simp [bind, Except.bind]
  | ok c => simp [bind, Except.bind]

theorem map_eq_ok {a : Except ε α} {f : α → β} {b : β} :
    a.map f = .ok b ↔ ∃ c, a = .ok c ∧ f c = b := by
  cases a with
  | error what => simp [Except.map]
  | ok c => simp [Except.map]

theorem mapError_eq_ok {a : Except ε α} {f : ε → ε'} {c : α} :
    a.mapError f = .ok c ↔ a = .ok c := by
  cases a with
  | error what =>
    show (.error (f what) : Except ε' α) = .ok c ↔ (.error what : Except ε α) = .ok c
    simp
  | ok found =>
    show (.ok found : Except ε' α) = .ok c ↔ (.ok found : Except ε α) = .ok c
    simp

theorem toOption_eq_some {a : Except ε α} {c : α} : a.toOption = some c ↔ a = .ok c := by
  cases a with
  | error what => simp [Except.toOption]
  | ok c => simp [Except.toOption]

/-- What an outcome without a success is. -/
def errorOf? : Except ε α → Option ε
  | .error what => some what
  | .ok _ => none

theorem errorOf?_eq_some {a : Except ε α} {what : ε} :
    errorOf? a = some what ↔ a = .error what := by
  cases a with
  | error what => simp [errorOf?]
  | ok c => simp [errorOf?]

end Indicator
