import DesignExport.Table
set_option autoImplicit false

/-! JSON values. The members of a record are kept in the order of their names,
each name once; `Json.recordOf` establishes this. -/

namespace DesignExport

/-- Whole numbers are kept apart from numbers written with a fraction or an
exponent. -/
inductive Json.Number where
  | whole (value : Int)
  | fraction (value : Float)
deriving Inhabited

inductive Json where
  | null
  | flag (value : Bool)
  | number (value : Json.Number)
  | text (value : String)
  | list (items : List Json)
  | record (members : List (String × Json))
deriving Inhabited

namespace Json

def Number.toFloat : Number → Float
  | .whole value => Float.ofInt value
  | .fraction value => value

/-- Enters a member at the place of its name; the value of a name that is there
is replaced. -/
def insertMember (name : String) (value : Json) : List (String × Json) → List (String × Json)
  | [] => [(name, value)]
  | (other, old) :: rest =>
      if name = other then (name, value) :: rest
      else if name < other then (name, value) :: (other, old) :: rest
      else (other, old) :: insertMember name value rest

/-- Orders the members by name. Of members with one name the last one counts. -/
def orderMembers (members : List (String × Json)) : List (String × Json) :=
  members.foldl (fun ordered (name, value) => insertMember name value ordered) []

def recordOf (members : List (String × Json)) : Json :=
  .record (orderMembers members)

def member? (name : String) : Json → Option Json
  | .record members => Table.find? name members
  | _ => none

def text? : Json → Option String
  | .text value => some value
  | _ => none

def flag? : Json → Option Bool
  | .flag value => some value
  | _ => none

def isNull : Json → Bool
  | .null => true
  | _ => false

end Json

end DesignExport
