import Mathlib.Tactic.Basic

/-!
# Computations which may return early

Early returns of errors, and what a successful `Except` computation says about
its parts. A computation which can also panic returns `Except (Failure ε)`: a
caller may turn an error into another one, but not a panic.
-/

/-- Why a computation returned no value: it reports an error, or it panics. -/
inductive Failure (ε : Type) where
  | report (e : ε)
  | panic
deriving DecidableEq

/-- `map_err` on the errors. -/
def Failure.map {ε ε' : Type} (f : ε → ε') : Failure ε → Failure ε'
  | report e => report (f e)
  | panic => panic

theorem mapError_ok {ε ε' α : Type} (value : α) (report : ε → ε') :
    (Except.ok value).mapError report = .ok value := rfl

theorem mapError_eq_ok_iff {ε ε' α : Type} {action : Except ε α} {report : ε → ε'} {value : α} :
    action.mapError report = .ok value ↔ action = .ok value := by
  cases action with
  | error failure =>
      constructor
      · exact fun ok => nomatch ok
      · exact fun ok => nomatch ok
  | ok reached => rw [mapError_ok, Except.ok.injEq, Except.ok.injEq]

theorem bind_eq_ok_iff {ε α β : Type} {action : Except ε α} {next : α → Except ε β}
    {value : β} :
    (action >>= next) = .ok value ↔ ∃ reached, action = .ok reached ∧
      next reached = .ok value := by
  cases action <;> simp [bind, Except.bind]

/-- The early return of an error unless a condition holds. -/
def ensure (condition : Prop) [Decidable condition] (report : String) : Except String Unit :=
  if condition then .ok () else .error report

theorem ensure_eq_ok_iff {condition : Prop} [Decidable condition] {report : String}
    {result : Unit} : ensure condition report = .ok result ↔ condition := by
  by_cases holds : condition <;> simp [ensure, holds]

/-- A present value, or the error for a missing one. -/
def okOrElse {α : Type} (report : String) : Option α → Except String α
  | some value => .ok value
  | none => .error report

theorem toOption_eq_some_iff {ε α : Type} {action : Except ε α} {value : α} :
    action.toOption = some value ↔ action = .ok value := by
  cases action <;> simp [Except.toOption]
