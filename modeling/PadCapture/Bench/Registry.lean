/-!
# Registries

A registry keeps values under names.  Every name stands once.
-/

namespace PadCapture

structure Registry (α : Type) where
  entries : List (String × α)

namespace Registry

variable {α : Type}

def empty : Registry α := ⟨[]⟩

def find? (registry : Registry α) (name : String) : Option α := registry.entries.lookup name

def remove (registry : Registry α) (name : String) : Registry α :=
  ⟨registry.entries.filter fun entry => entry.1 != name⟩

/-- Keep a value under a name, in place of an older one. -/
def put (registry : Registry α) (name : String) (value : α) : Registry α :=
  ⟨(name, value) :: (registry.remove name).entries⟩

def values (registry : Registry α) : List α := registry.entries.map Prod.snd

variable (registry : Registry α) (name : String)

@[simp] theorem find?_empty : (empty : Registry α).find? name = none := rfl

theorem find?_remove_self : (registry.remove name).find? name = none := by
  rw [find?, List.lookup_eq_none_iff]
  intro entry member
  have kept := (List.mem_filter.mp member).2
  rwa [bne_comm] at kept

theorem find?_remove_of_ne {other : String} (different : other ≠ name) :
    (registry.remove name).find? other = registry.find? other := by
  obtain ⟨entries⟩ := registry
  simp only [remove, find?]
  induction entries with
  | nil => rfl
  | cons entry rest ih =>
      obtain ⟨key, value⟩ := entry
      by_cases dropped : key = name
      · have missed : (other == key) = false := by simp [dropped, different]
        simp only [List.lookup_cons, missed]
        simp [dropped, ih]
      · simp [dropped, List.lookup_cons, ih]

@[simp] theorem find?_put_self (value : α) : (registry.put name value).find? name = some value := by
  simp [put, find?]

theorem find?_put_of_ne {other : String} (different : other ≠ name) (value : α) :
    (registry.put name value).find? other = registry.find? other := by
  have missed : (other == name) = false := by simp [different]
  rw [← find?_remove_of_ne registry name different]
  simp [put, find?, List.lookup_cons, missed]

end Registry

end PadCapture
