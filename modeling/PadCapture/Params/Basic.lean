import PadCapture.Params.Sorted

/-!
# Parameter sets

One input binding is a finite map from names to text values.  It is kept as a
list in increasing order of names, so equal maps are equal values.
-/

namespace PadCapture

structure Params where
  entries : List (String × String)
  sorted : KeysIncrease entries

namespace Params

instance decidableEq : DecidableEq Params := fun a b =>
  decidable_of_iff (a.entries = b.entries) <| by
    cases a
    cases b
    simp

theorem eq_of_entries_eq {first second : Params} (same : first.entries = second.entries) :
    first = second := by
  cases first
  cases second
  simp_all

def empty : Params := ⟨[], keysIncrease_nil⟩

/-- Store `value` under `key`, in place of an older value. -/
def set (params : Params) (key value : String) : Params :=
  ⟨insertSorted key value params.entries, keysIncrease_insertSorted key value params.sorted⟩

def get? (params : Params) (key : String) : Option String := params.entries.lookup key

def has (params : Params) (key : String) : Bool := (params.get? key).isSome

def getD (params : Params) (key default : String) : String := (params.get? key).getD default

def erase (params : Params) (key : String) : Params :=
  ⟨params.entries.filter fun entry => entry.1 != key, params.sorted.filter _⟩

def size (params : Params) : Nat := params.entries.length

def isEmpty (params : Params) : Bool := params.entries.isEmpty

/-- The set of the given pairs, where a later pair replaces an earlier one of the
same name. -/
def ofList (pairs : List (String × String)) : Params :=
  ⟨sortEntries pairs, keysIncrease_sortEntries pairs⟩

end Params

end PadCapture
