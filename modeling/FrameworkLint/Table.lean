/-!
# Tables

A table gives values to names and keeps the names in the order in which they were first
set.
-/

namespace FrameworkLint

abbrev Table (α : Type) := List (String × α)

namespace Table

variable {α : Type}

/-- Sets the value of a name.  A name that is set already keeps its place. -/
def set (name : String) (value : α) : Table α → Table α
  | [] => [(name, value)]
  | entry :: rest =>
      if entry.1 = name then (name, value) :: rest else entry :: set name value rest

/-- The table in which the entries are set one after the other. -/
def ofEntries (entries : List (String × α)) : Table α :=
  entries.foldl (fun table entry => table.set entry.1 entry.2) []

end Table

end FrameworkLint
