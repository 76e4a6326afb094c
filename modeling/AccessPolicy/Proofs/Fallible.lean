namespace AccessPolicy

def fault? {ε α : Type} : Except ε α → Option ε
  | .ok _ => none
  | .error f => some f

variable {ε α β : Type} {x : Except ε α} {b : β}

theorem fault?_eq_some_iff {f : ε} : fault? x = some f ↔ x = .error f := by
  cases x <;> simp [fault?]

theorem fault?_ne_none_iff : fault? x ≠ none ↔ ∃ f, x = .error f := by
  cases x <;> simp [fault?]

@[simp]
theorem fault?_map (f : α → β) : fault? (x.map f) = fault? x := by
  cases x <;> rfl

@[simp]
theorem toOption_map (f : α → β) : (x.map f).toOption = x.toOption.map f := by
  cases x <;> rfl

theorem exists_of_bind_ok {f : α → Except ε β} (h : x.bind f = .ok b) : ∃ a, x = .ok a ∧ f a = .ok b := by
  cases x with
  | error e => contradiction
  | ok a => exact ⟨a, rfl, h⟩

theorem exists_of_map_ok {f : α → β} (h : x.map f = .ok b) : ∃ a, x = .ok a ∧ f a = b := by
  cases x with
  | error e => contradiction
  | ok a => exact ⟨a, rfl, Except.ok.inj h⟩

theorem ok_of_mapError_ok {f : ε → β} {a : α} (h : x.mapError f = .ok a) : x = .ok a := by
  cases x with
  | error e => contradiction
  | ok c => exact congrArg Except.ok (Except.ok.inj h)

end AccessPolicy
