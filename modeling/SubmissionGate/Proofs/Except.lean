/-!
# Computations that may fail

A chain of computations succeeds step by step, and fails at one of its steps.
-/

namespace Except

variable {ε α β : Type}

theorem bind_eq_ok {first : Except ε α} {next : α → Except ε β} {result : β}
    (h : (first >>= next) = .ok result) :
    ∃ value, first = .ok value ∧ next value = .ok result := by
  cases first with
  | error fault => cases h
  | ok value => exact ⟨value, rfl, h⟩

theorem bind_eq_error {first : Except ε α} {next : α → Except ε β} {fault : ε}
    (h : (first >>= next) = .error fault) :
    first = .error fault ∨ ∃ value, first = .ok value ∧ next value = .error fault := by
  cases first with
  | error other =>
    cases h
    exact .inl rfl
  | ok value => exact .inr ⟨value, rfl, h⟩

theorem bind_error_iff {first : Except ε α} {next : α → Except ε β} {Here Later : ε → Prop}
    (hFirst : ∀ fault, first = .error fault ↔ Here fault)
    (hNext : ∀ value fault, next value = .error fault ↔ Later fault) (fault : ε) :
    (first >>= next) = .error fault ↔ Here fault ∨ (∀ other, ¬ Here other) ∧ Later fault := by
  simp only [← hFirst]
  cases first with
  | error other => simp [bind, Except.bind]
  | ok value => simpa [bind, Except.bind] using hNext value fault

theorem eq_ok_of_toOption {result : Except ε α} {value : α}
    (h : result.toOption = some value) : result = .ok value := by
  cases result with
  | error fault => cases h
  | ok other =>
    cases h
    rfl

theorem foldlM_eq_ok {f : β → α → Except ε β} {g : β → α → β} {items : List α}
    (h : ∀ item ∈ items, ∀ state, f state item = .ok (g state item)) (state : β) :
    items.foldlM f state = .ok (items.foldl g state) := by
  induction items generalizing state with
  | nil => rfl
  | cons item rest ih =>
    rw [List.foldlM_cons, h item List.mem_cons_self, List.foldl_cons]
    exact ih (fun other hOther => h other (List.mem_cons_of_mem _ hOther)) _

end Except
