import DesignExport.Json.Value
set_option autoImplicit false

/-! Tables while a TOML text is read. How a table came about decides whether it
may be extended: a table that has been stated is closed to dotted keys and to
another header of its name. -/

namespace DesignExport.Toml

inductive TableOrigin where
  /-- On the path of a header of another table. -/
  | passed
  /-- On the path of a dotted key. -/
  | dotted
  /-- Stated by its own header. -/
  | stated
deriving DecidableEq

/-- The members of a value stand in the order of the text. -/
inductive Entry where
  | value (value : Json)
  | table (origin : TableOrigin) (entries : List (String × Entry))
  /-- Tables under one header, which stands once for each. -/
  | series (tables : List (List (String × Entry)))

abbrev Entries := List (String × Entry)

/-- What a table is changed to; `none` if it must not be changed so. -/
abbrev Edit := TableOrigin → Entries → Option Entries

/-- Changes the last table of a series. -/
def changeLast (edit : Entries → Option Entries) : List Entries → Option (List Entries)
  | [] => none
  | [last] => (edit last).map (fun changed => [changed])
  | first :: rest => (changeLast edit rest).map (first :: ·)

/-- Changes the table at the end of a path. Missing tables on the path come into
being with an origin. Dotted keys do not lead into stated tables. -/
def changeAt (created : TableOrigin) (edit : Edit) : List String → Edit
  | [], origin, entries => edit origin entries
  | key :: path, _, entries =>
      match Table.find? key entries with
      | none =>
          (changeAt created edit path created []).map
            (fun inner => Table.insert key (.table created inner) entries)
      | some (.table origin inner) =>
          if created = .dotted && origin = .stated then none
          else
            (changeAt created edit path origin inner).map
              (fun changed => Table.insert key (.table origin changed) entries)
      | some (.series tables) =>
          (changeLast (changeAt created edit path .stated) tables).map
            (fun changed => Table.insert key (.series changed) entries)
      | some (.value _) => none

/-- Enters a value under a new key. A key of one part belongs to the table itself,
and a dotted key to a table that dotted keys made. -/
def enterValue (isDotted : Bool) (key : String) (value : Json) : Edit :=
  fun origin entries =>
    if decide (origin = .dotted) == isDotted && !Table.contains entries key then
      some (entries ++ [(key, .value value)])
    else none

/-- A key in several parts: the path and the last part. -/
abbrev Key := List String × String

structure Assignment where
  key : Key
  value : Json

def assign (assignment : Assignment) : Edit :=
  let (path, last) := assignment.key
  changeAt .dotted (enterValue (!path.isEmpty) last assignment.value) path

def assignAll : List Assignment → Entries → Option Entries
  | [], entries => some entries
  | first :: rest, entries => (assign first .stated entries).bind (assignAll rest)

/-- States a table. One that has been passed before goes behind the others. -/
def stateTable (name : String) (content : List Assignment) : Edit := fun _ entries =>
  match Table.find? name entries with
  | none => (assignAll content []).map (fun table => entries ++ [(name, .table .stated table)])
  | some (.table .passed inner) =>
      (assignAll content inner).map
        (fun table => Table.erase name entries ++ [(name, .table .stated table)])
  | some _ => none

/-- States one more table of a series. -/
def extendSeries (name : String) (content : List Assignment) : Edit := fun _ entries =>
  match Table.find? name entries with
  | none => (assignAll content []).map (fun table => entries ++ [(name, .series [table])])
  | some (.series tables) =>
      (assignAll content []).map
        (fun table => Table.insert name (.series (tables ++ [table])) entries)
  | some _ => none

mutual

def Entry.toJson : Entry → Json
  | .value value => value
  | .table _ entries => .record (entriesToJson entries)
  | .series tables => .list (tablesToJson tables)

def entriesToJson : Entries → List (String × Json)
  | [] => []
  | (name, entry) :: rest => (name, entry.toJson) :: entriesToJson rest

def tablesToJson : List Entries → List Json
  | [] => []
  | table :: rest => .record (entriesToJson table) :: tablesToJson rest

end

end DesignExport.Toml
