/-!
# Ports

The adapter has four ports, numbered from zero.
-/

namespace PadCapture

abbrev Port := Fin 4

namespace Port

def count : Nat := 4

def all : List Port := [0, 1, 2, 3]

/-- The port that stands in where none is named. -/
def first : Port := 0

def ofNat? (number : Nat) : Option Port :=
  if known : number < 4 then some ⟨number, known⟩ else none

theorem mem_all (port : Port) : port ∈ all := by
  revert port
  decide

@[simp] theorem ofNat?_val (port : Port) : ofNat? port.val = some port := by
  simp [ofNat?]

end Port

structure PerPort (α : Type) where
  values : Vector α 4
deriving DecidableEq, Repr

namespace PerPort

variable {α : Type}

def uniform (value : α) : PerPort α := ⟨Vector.replicate 4 value⟩

def get (table : PerPort α) (port : Port) : α := table.values[port.val]

def set (table : PerPort α) (port : Port) (value : α) : PerPort α :=
  ⟨table.values.set port.val value⟩

def map {β : Type} (change : α → β) (table : PerPort α) : PerPort β := ⟨table.values.map change⟩

def toList (table : PerPort α) : List α := table.values.toList

@[simp] theorem get_uniform (value : α) (port : Port) : (uniform value).get port = value := by
  simp [uniform, PerPort.get]

@[simp] theorem get_set_self (table : PerPort α) (port : Port) (value : α) :
    (table.set port value).get port = value := by
  simp [PerPort.set, PerPort.get]

theorem get_set_of_ne (table : PerPort α) {port other : Port} (different : other ≠ port)
    (value : α) : (table.set port value).get other = table.get other := by
  have apart : port.val ≠ other.val := fun same => different (Fin.ext same.symm)
  simp [PerPort.set, PerPort.get, Vector.getElem_set_ne _ _ apart]

@[simp] theorem get_map {β : Type} (change : α → β) (table : PerPort α) (port : Port) :
    (table.map change).get port = change (table.get port) := by
  simp [PerPort.map, PerPort.get]

end PerPort

end PadCapture
