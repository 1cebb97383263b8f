import DesignExport.Table
import Mathlib.Data.List.Basic
set_option autoImplicit false

/-! What tables hold after an entry, and what a look-up finds. -/

namespace DesignExport.Table

variable {β : Type} {key : String} {value : β}

theorem mem_of_find? : ∀ {table : Table β}, find? key table = some value → (key, value) ∈ table
  | [], found => absurd found.symm (Option.some_ne_none value)
  | (name, own) :: rest, found => by
      rw [find?] at found
      split at found
      case isTrue same =>
        cases found
        rw [← same]
        exact List.mem_cons_self
      case isFalse => exact List.mem_cons_of_mem _ (mem_of_find? found)

theorem find?_of_mem : ∀ {table : Table β}, table.keys.Nodup → (key, value) ∈ table →
    find? key table = some value
  | (name, own) :: rest, distinct, member => by
      obtain ⟨fresh, later⟩ := List.nodup_cons.mp distinct
      rw [find?]
      rcases List.mem_cons.mp member with same | belongs
      · cases same
        rw [if_pos rfl]
      · have different : name ≠ key := fun same =>
          fresh (List.mem_map.mpr ⟨(key, value), belongs, same.symm⟩)
        rw [if_neg different, find?_of_mem later belongs]

theorem mem_of_mem_insert {entry : String × β} : ∀ {table : Table β},
    entry ∈ table.insert key value → entry = (key, value) ∨ entry ∈ table
  | [], member => Or.inl (List.mem_singleton.mp member)
  | (name, old) :: rest, member => by
      rw [insert] at member
      split at member
      case isTrue same =>
        rcases List.mem_cons.mp member with first | later
        · exact Or.inl (same ▸ first)
        · exact Or.inr (List.mem_cons_of_mem _ later)
      case isFalse =>
        rcases List.mem_cons.mp member with first | later
        · exact Or.inr (first ▸ List.mem_cons_self)
        · exact (mem_of_mem_insert later).imp_right (List.mem_cons_of_mem _)

theorem mem_insert_self : ∀ table : Table β, (key, value) ∈ table.insert key value
  | [] => List.mem_cons_self
  | (name, old) :: rest => by
      rw [insert]
      split
      case isTrue same => exact same ▸ List.mem_cons_self
      case isFalse => exact List.mem_cons_of_mem _ (mem_insert_self rest)

/-- Entries under other keys stay. -/
theorem mem_insert_of_ne {entry : String × β} (different : entry.1 ≠ key) :
    ∀ {table : Table β}, entry ∈ table → entry ∈ table.insert key value
  | (name, old) :: rest, member => by
      rw [insert]
      split
      case isTrue same =>
        rcases List.mem_cons.mp member with first | later
        · rw [first] at different
          exact absurd same different
        · exact List.mem_cons_of_mem _ later
      case isFalse =>
        rcases List.mem_cons.mp member with first | later
        · exact first ▸ List.mem_cons_self
        · exact List.mem_cons_of_mem _ (mem_insert_of_ne different later)

theorem contains_of_mem {entry : String × β} {table : Table β} (member : entry ∈ table) :
    table.contains entry.1 = true := by
  induction table with
  | nil => exact absurd member List.not_mem_nil
  | cons first rest ih =>
      obtain ⟨name, value⟩ := first
      rw [contains, find?]
      split
      case isTrue => rfl
      case isFalse different =>
        rcases List.mem_cons.mp member with same | later
        · rw [same] at different
          exact absurd rfl different
        · exact ih later

theorem mem_keys_insert {name : String} {table : Table β} :
    name ∈ (table.insert key value).keys ↔ name = key ∨ name ∈ table.keys := by
  induction table with
  | nil => simp [insert, keys]
  | cons entry rest ih =>
      obtain ⟨own, old⟩ := entry
      rw [insert]
      split
      case isTrue same => simp [keys, same]
      case isFalse =>
        change name ∈ own :: (insert key value rest).keys ↔ name = key ∨ name ∈ own :: keys rest
        rw [List.mem_cons, ih, List.mem_cons]
        exact or_left_comm

theorem nodup_keys_insert {table : Table β} (distinct : table.keys.Nodup) :
    (table.insert key value).keys.Nodup := by
  induction table with
  | nil => exact List.pairwise_singleton _ _
  | cons entry rest ih =>
      obtain ⟨own, old⟩ := entry
      obtain ⟨fresh, later⟩ := List.nodup_cons.mp distinct
      rw [insert]
      split
      case isTrue => exact List.nodup_cons.mpr ⟨fresh, later⟩
      case isFalse different =>
        refine List.nodup_cons.mpr ⟨fun known => ?_, ih later⟩
        rcases mem_keys_insert.mp known with same | before
        · exact different same
        · exact fresh before

theorem nodup_keys_foldl_insert (entries : Table β) : ∀ {table : Table β}, table.keys.Nodup →
    (entries.foldl (fun table entry => table.insert entry.1 entry.2) table).keys.Nodup := by
  induction entries with
  | nil => exact fun distinct => distinct
  | cons entry rest ih => exact fun distinct => ih (nodup_keys_insert distinct)

theorem find?_filter {kept : String → Bool} (keeps : kept key = true) : ∀ table : Table β,
    find? key (table.filter fun entry => kept entry.1) = find? key table
  | [] => rfl
  | (name, own) :: rest => by
      rw [List.filter_cons]
      split
      case isTrue => rw [find?, find?, find?_filter keeps rest]
      case isFalse dropped =>
        have different : name ≠ key := fun same => dropped (same ▸ keeps)
        rw [find?, if_neg different, find?_filter keeps rest]

/-- A new key goes last. -/
theorem insert_of_not_mem_keys {table : Table β} (fresh : key ∉ table.keys) :
    table.insert key value = table ++ [(key, value)] := by
  induction table with
  | nil => rfl
  | cons entry rest ih =>
      obtain ⟨own, old⟩ := entry
      obtain ⟨different, later⟩ := not_or.mp (List.mem_cons.not.mp fresh)
      rw [insert, if_neg (Ne.symm different), ih later]
      rfl

theorem find?_eq_none_of_not_mem {table : Table β} (unknown : key ∉ table.keys) :
    find? key table = none := by
  cases found : find? key table with
  | none => rfl
  | some value => exact absurd (List.mem_map_of_mem (mem_of_find? found)) unknown

theorem find?_insert (name : String) (table : Table β) :
    find? key (insert name value table) = if key = name then some value else find? key table := by
  by_cases same : key = name
  · rw [same, if_pos rfl, find?_insert_self]
  · rw [if_neg same, find?_insert_of_ne same]

/-- Whatever way there is of entering one value under its key, values entered one
after the other win over those that were there. -/
theorem find?_foldl {enter : String → β → Table β → Table β}
    (entered : ∀ name value (table : Table β),
      find? key (enter name value table) = if key = name then some value else find? key table)
    {entries : Table β} (distinct : entries.keys.Nodup) (table : Table β) :
    find? key (entries.foldl (fun table entry => enter entry.1 entry.2 table) table) =
      (find? key entries).or (find? key table) := by
  induction entries generalizing table with
  | nil => rfl
  | cons entry rest ih =>
      obtain ⟨name, value⟩ := entry
      obtain ⟨fresh, later⟩ := List.nodup_cons.mp distinct
      rw [List.foldl_cons, ih later, entered, find?]
      by_cases same : key = name
      · subst same
        rw [if_pos rfl, if_pos rfl, find?_eq_none_of_not_mem fresh]
        rfl
      · rw [if_neg same, if_neg (Ne.symm same)]

/-- A key of a table is found in it. -/
theorem exists_find?_of_mem_keys {table : Table β} (known : key ∈ table.keys) :
    ∃ found, find? key table = some found := by
  induction table with
  | nil => exact absurd known List.not_mem_nil
  | cons entry rest ih =>
      obtain ⟨name, own⟩ := entry
      rw [find?]
      split
      case isTrue => exact ⟨own, rfl⟩
      case isFalse different =>
        rcases List.mem_cons.mp known with same | later
        · exact absurd same.symm different
        · exact ih later

/-! ### Entries that stay -/

/-- Entering a value leaves the entries under other keys in their order. -/
theorem filter_insert (table : Table β) :
    (table.insert key value).filter (·.1 ≠ key) = table.filter (·.1 ≠ key) := by
  induction table with
  | nil => simp [insert]
  | cons entry rest ih =>
      obtain ⟨name, own⟩ := entry
      rw [insert]
      split
      case isTrue same => simp [same]
      case isFalse => rw [List.filter_cons, List.filter_cons, ih]

/-- So does removing an entry. -/
theorem filter_erase (table : Table β) :
    (table.erase key).filter (·.1 ≠ key) = table.filter (·.1 ≠ key) := by
  induction table with
  | nil => rfl
  | cons entry rest ih =>
      obtain ⟨name, own⟩ := entry
      rw [erase]
      split
      case isTrue same => simp [same]
      case isFalse => rw [List.filter_cons, List.filter_cons, ih]

theorem keys_erase_sublist (key : String) (table : Table β) :
    (table.erase key).keys.Sublist table.keys := by
  induction table with
  | nil => exact List.Sublist.refl _
  | cons entry rest ih =>
      obtain ⟨name, own⟩ := entry
      rw [erase]
      split
      · exact List.sublist_cons_self _ _
      · exact ih.cons_cons name

theorem find?_erase_self {table : Table β} (distinct : table.keys.Nodup) :
    find? key (table.erase key) = none := by
  induction table with
  | nil => rfl
  | cons entry rest ih =>
      obtain ⟨name, own⟩ := entry
      obtain ⟨fresh, later⟩ := List.nodup_cons.mp distinct
      rw [erase]
      split
      case isTrue same => exact find?_eq_none_of_not_mem (same ▸ fresh)
      case isFalse different => rw [find?, if_neg different, ih later]

end DesignExport.Table
