import PadCapture.Bench.Registry
import Mathlib.Data.List.Nodup

/-!
# What a registry keeps

As every name stands once, a value that is put or removed adds or takes away just
itself.  This file counts the values that a registry keeps.
-/

namespace PadCapture.Registry

variable {α : Type} (registry : Registry α) (name : String) (wanted : α → Bool)

def Distinct : Prop := (registry.entries.map Prod.fst).Nodup

theorem distinct_empty : (empty : Registry α).Distinct := List.nodup_nil

variable {registry}

theorem Distinct.remove (distinct : registry.Distinct) : (registry.remove name).Distinct :=
  distinct.sublist (List.filter_sublist.map Prod.fst)

theorem Distinct.put (distinct : registry.Distinct) (value : α) :
    (registry.put name value).Distinct := by
  refine List.nodup_cons.mpr ⟨?_, distinct.remove name⟩
  intro member
  obtain ⟨entry, kept, named⟩ := List.mem_map.mp member
  have other := (List.mem_filter.mp kept).2
  simp [named] at other

theorem Distinct.mem_entries_iff (distinct : registry.Distinct) {name : String} {value : α} :
    (name, value) ∈ registry.entries ↔ registry.find? name = some value := by
  obtain ⟨entries⟩ := registry
  induction entries with
  | nil => simp [find?]
  | cons entry rest ih =>
      obtain ⟨key, first⟩ := entry
      obtain ⟨absent, distinctRest⟩ := List.nodup_cons.mp distinct
      have member := ih distinctRest
      by_cases same : name = key
      · subst same
        have missing : (name, value) ∉ rest := fun present =>
          absent (List.mem_map.mpr ⟨_, present, rfl⟩)
        simp [find?, missing, eq_comm]
      · have missed : (name == key) = false := by simp [same]
        simpa [find?, List.lookup_cons, missed, same] using member

/-- Some wanted value is kept just when it is found under a name. -/
theorem Distinct.countP_pos_iff (distinct : registry.Distinct) :
    0 < registry.values.countP wanted ↔
      ∃ name value, registry.find? name = some value ∧ wanted value = true := by
  rw [List.countP_pos_iff]
  constructor
  · rintro ⟨value, member, isWanted⟩
    obtain ⟨⟨name, _⟩, present, rfl⟩ := List.mem_map.mp member
    exact ⟨name, _, distinct.mem_entries_iff.mp present, isWanted⟩
  · rintro ⟨name, value, found, isWanted⟩
    exact ⟨value, List.mem_map.mpr ⟨_, distinct.mem_entries_iff.mpr found, rfl⟩, isWanted⟩

theorem countP_put (value : α) :
    (registry.put name value).values.countP wanted =
      (registry.remove name).values.countP wanted + (wanted value).toNat := by
  cases isWanted : wanted value <;> simp [put, values, isWanted]

theorem length_put (value : α) :
    (registry.put name value).values.length = (registry.remove name).values.length + 1 := by
  simp [put, values]

/-- Removing a name takes away just the value under it. -/
theorem Distinct.countP_remove (distinct : registry.Distinct) :
    (registry.remove name).values.countP wanted +
        ((registry.find? name).any wanted).toNat =
      registry.values.countP wanted := by
  obtain ⟨entries⟩ := registry
  induction entries with
  | nil => simp [values, Registry.remove, find?]
  | cons entry rest ih =>
      obtain ⟨key, first⟩ := entry
      obtain ⟨absent, distinctRest⟩ := List.nodup_cons.mp distinct
      have others := ih distinctRest
      by_cases same : name = key
      · subst same
        have untouched : rest.filter (fun entry => entry.1 != name) = rest := by
          rw [List.filter_eq_self]
          intro entry present
          simpa using fun same => absent (List.mem_map.mpr ⟨entry, present, same⟩)
        cases isWanted : wanted first <;>
          simp [values, Registry.remove, find?, untouched, isWanted]
      · have missed : (name == key) = false := by simp [same]
        have kept : (key != name) = true := by simp [Ne.symm same]
        have found : find? ⟨(key, first) :: rest⟩ name = find? ⟨rest⟩ name := by
          simp [find?, List.lookup_cons, missed]
        have removed : (Registry.remove ⟨(key, first) :: rest⟩ name).values =
            first :: (Registry.remove ⟨rest⟩ name).values := by
          simp [values, Registry.remove, kept]
        have whole : values ⟨(key, first) :: rest⟩ = first :: values ⟨rest⟩ := rfl
        rw [found, removed, whole, List.countP_cons, List.countP_cons, ← others]
        omega

theorem Distinct.length_remove (distinct : registry.Distinct) :
    (registry.remove name).values.length + (registry.find? name).isSome.toNat =
      registry.values.length := by
  have counted := distinct.countP_remove name fun _ => true
  have found : (registry.find? name).any (fun _ => true) = (registry.find? name).isSome := by
    cases registry.find? name <;> rfl
  rwa [found, List.countP_true] at counted

end PadCapture.Registry
