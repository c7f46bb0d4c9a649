/-!
# Sorted entries

A finite map by name is a list of entries whose keys strictly increase, so equal
maps are equal lists.
-/

namespace PadCapture

variable {α : Type}

def insertSorted (key : String) (value : α) : List (String × α) → List (String × α)
  | [] => [(key, value)]
  | entry :: rest =>
      if key < entry.1 then (key, value) :: entry :: rest
      else if key = entry.1 then (key, value) :: rest
      else entry :: insertSorted key value rest

def KeysIncrease (entries : List (String × α)) : Prop :=
  entries.Pairwise fun earlier later => earlier.1 < later.1

theorem mem_insertSorted {key : String} {value : α} {entries : List (String × α)}
    {entry : String × α} (member : entry ∈ insertSorted key value entries) :
    entry = (key, value) ∨ entry ∈ entries := by
  induction entries with
  | nil => simpa [insertSorted] using member
  | cons head rest ih =>
      simp only [insertSorted] at member
      split at member
      · simpa using member
      · split at member
        · rcases List.mem_cons.mp member with same | old
          · exact .inl same
          · exact .inr (List.mem_cons_of_mem _ old)
        · rcases List.mem_cons.mp member with same | old
          · exact .inr (same ▸ List.mem_cons_self)
          · exact (ih old).imp id (List.mem_cons_of_mem _)

theorem keysIncrease_nil : KeysIncrease ([] : List (String × α)) := List.Pairwise.nil

theorem keysIncrease_insertSorted (key : String) (value : α) {entries : List (String × α)}
    (sorted : KeysIncrease entries) : KeysIncrease (insertSorted key value entries) := by
  induction entries with
  | nil => simp [insertSorted, KeysIncrease]
  | cons head rest ih =>
      have ⟨above, restSorted⟩ := List.pairwise_cons.mp sorted
      simp only [insertSorted]
      split
      · rename_i before
        refine List.pairwise_cons.mpr ⟨fun entry member => ?_, sorted⟩
        rcases List.mem_cons.mp member with same | old
        · exact same ▸ before
        · exact String.lt_trans before (above entry old)
      · rename_i notBefore
        split
        · rename_i same
          exact List.pairwise_cons.mpr
            ⟨fun entry member => same ▸ above entry member, restSorted⟩
        · rename_i different
          refine List.pairwise_cons.mpr ⟨fun entry member => ?_, ih restSorted⟩
          rcases mem_insertSorted member with new | old
          · subst new
            have atMost : head.1 ≤ key := String.not_lt.mp notBefore
            apply Decidable.byContradiction
            intro notAfter
            exact different (String.le_antisymm (String.not_lt.mp notAfter) atMost)
          · exact above entry old

/-- The entries in increasing order of keys, where a later entry replaces an earlier
one of the same key. -/
def sortEntries (entries : List (String × α)) : List (String × α) :=
  entries.foldl (fun sorted entry => insertSorted entry.1 entry.2 sorted) []

theorem keysIncrease_foldl (entries : List (String × α)) {sorted : List (String × α)}
    (increase : KeysIncrease sorted) :
    KeysIncrease
      (entries.foldl (fun sorted entry => insertSorted entry.1 entry.2 sorted) sorted) := by
  induction entries generalizing sorted with
  | nil => exact increase
  | cons entry rest ih => exact ih (keysIncrease_insertSorted entry.1 entry.2 increase)

theorem keysIncrease_sortEntries (entries : List (String × α)) :
    KeysIncrease (sortEntries entries) :=
  keysIncrease_foldl entries keysIncrease_nil

end PadCapture
