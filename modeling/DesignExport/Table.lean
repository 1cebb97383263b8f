set_option autoImplicit false

/-! Tables with text keys that remember the order in which keys were first
entered, and lists without repetition in the same order. -/

namespace DesignExport

abbrev Table (β : Type) := List (String × β)

namespace Table

variable {β : Type}

def find? (key : String) : Table β → Option β
  | [] => none
  | (name, value) :: rest => if name = key then some value else find? key rest

def contains (table : Table β) (key : String) : Bool :=
  (find? key table).isSome

/-- A known key keeps its place and gets the new value; a new key goes last. -/
def insert (key : String) (value : β) : Table β → Table β
  | [] => [(key, value)]
  | (name, old) :: rest =>
      if name = key then (name, value) :: rest else (name, old) :: insert key value rest

def erase (key : String) : Table β → Table β
  | [] => []
  | (name, value) :: rest => if name = key then rest else (name, value) :: erase key rest

def keys (table : Table β) : List String :=
  table.map Prod.fst

theorem find?_insert_self (key : String) (value : β) (table : Table β) :
    find? key (insert key value table) = some value := by
  induction table with
  | nil => simp [insert, find?]
  | cons entry rest ih =>
      obtain ⟨name, old⟩ := entry
      by_cases same : name = key
      · simp [insert, find?, same]
      · simp [insert, find?, same, ih]

theorem find?_insert_of_ne {key other : String} (different : other ≠ key) (value : β)
    (table : Table β) : find? other (insert key value table) = find? other table := by
  induction table with
  | nil => simp [insert, find?, Ne.symm different]
  | cons entry rest ih =>
      obtain ⟨name, old⟩ := entry
      by_cases same : name = key
      · subst same
        simp [insert, find?, Ne.symm different]
      · by_cases hit : name = other
        · subst hit
          simp [insert, find?, same]
        · simp [insert, find?, same, hit, ih]

end Table

/-- Adds a text at the end of a list unless the list holds it already. -/
def addOnce (text : String) (list : List String) : List String :=
  if list.contains text then list else list ++ [text]

end DesignExport
