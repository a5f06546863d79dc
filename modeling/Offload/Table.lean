/-!
# Numbered tables

A table gives each value a number when it is inserted. Numbers ascend and are never given twice, so
a number that has left a table never comes back. Entries are kept newest first.
-/

namespace Offload

/-- The values of a table under their numbers, newest first, and the next number. -/
structure Table (α : Type) where
  next : Nat := 0
  entries : List (Nat × α) := []
  deriving Repr

namespace Table

variable {α : Type}

instance : Inhabited (Table α) := ⟨{}⟩

/-- The value under a number. -/
def get? (table : Table α) (number : Nat) : Option α :=
  (table.entries.find? (·.1 == number)).map (·.2)

/-- Whether a number is in use. -/
def contains (table : Table α) (number : Nat) : Bool :=
  table.entries.any (·.1 == number)

/-- Inserts a value under the next number. -/
def insert (table : Table α) (value : α) : Table α × Nat :=
  (⟨table.next + 1, (table.next, value) :: table.entries⟩, table.next)

/-- Changes the value under a number. -/
def modify (table : Table α) (number : Nat) (change : α → α) : Table α :=
  { table with
    entries := table.entries.map fun entry =>
      if entry.1 = number then (entry.1, change entry.2) else entry }

/-- Removes the value under a number. -/
def erase (table : Table α) (number : Nat) : Table α :=
  { table with entries := table.entries.filter (·.1 != number) }

/-- The values, newest first. -/
def values (table : Table α) : List α := table.entries.map (·.2)

/-- The number of values. -/
def size (table : Table α) : Nat := table.entries.length

end Table

end Offload
