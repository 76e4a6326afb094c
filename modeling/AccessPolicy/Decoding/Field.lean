import AccessPolicy.Decoding.Fault

namespace AccessPolicy

structure Field (ν α : Type) where
  name : String
  required : Bool
  read : ν → Except DecodeFault (α → α)

namespace Field

variable {ν α β : Type}

def needed (name : String) (d : ν → Except DecodeFault β) (set : β → α → α) : Field ν α :=
  ⟨name, true, fun n => (d n).map set⟩

def optional (name : String) (d : ν → Except DecodeFault β) (set : β → α → α) : Field ν α :=
  ⟨name, false, fun n => (d n).map set⟩

section Names

variable (name : String) (d : ν → Except DecodeFault β) (set : β → α → α)

@[simp]
theorem name_needed : (needed name d set).name = name := rfl

@[simp]
theorem name_optional : (optional name d set).name = name := rfl

end Names

def missing? (fields : List (Field ν α)) (seen : List String) : Option String :=
  (fields.find? fun f => f.required && f.name ∉ seen).map (·.name)

theorem missing?_eq_none_iff {fields : List (Field ν α)} {seen : List String} :
    missing? fields seen = none ↔ ∀ f ∈ fields, f.required = true → f.name ∈ seen := by
  simp [missing?, List.find?_eq_none]

end Field

end AccessPolicy
