/-
This file takes apart computations that end without an error.
-/

namespace PropertyPanel.Outcome

variable {Error First Last : Type}

theorem bind_ok {computed : Except Error First} {next : First → Except Error Last} {last : Last}
    (done : computed >>= next = .ok last) :
    ∃ first, computed = .ok first ∧ next first = .ok last := by
  cases computed with
  | error error => cases done
  | ok first => exact ⟨first, rfl, done⟩

theorem map_ok {computed : Except Error First} {next : First → Last} {last : Last}
    (done : computed.map next = .ok last) : ∃ first, computed = .ok first ∧ next first = last := by
  cases computed with
  | error error => cases done
  | ok first =>
      cases done
      exact ⟨first, rfl, rfl⟩

/-- A computation and what is made of its result fail with the same error. -/
theorem map_error {computed : Except Error First} {next : First → Last} {error : Error} :
    computed.map next = .error error ↔ computed = .error error := by
  cases computed with
  | error other => simp [Except.map]
  | ok first => simp [Except.map]

/-- The error of a computation that fails. -/
def error? (computed : Except Error First) : Option Error :=
  match computed with
  | .ok _ => none
  | .error error => some error

theorem error?_eq_some {computed : Except Error First} {error : Error} :
    error? computed = some error ↔ computed = .error error := by
  cases computed <;> simp [error?]

theorem error?_eq_none {computed : Except Error First} :
    error? computed = none ↔ ∃ first, computed = .ok first := by
  cases computed <;> simp [error?]

theorem error?_map (computed : Except Error First) (next : First → Last) :
    error? (computed.map next) = error? computed := by
  cases computed <;> rfl

theorem of_toOption {computed : Except Error First} {first : First}
    (held : computed.toOption = some first) : computed = .ok first := by
  cases computed with
  | error error => cases held
  | ok other =>
      cases held
      rfl

end PropertyPanel.Outcome
