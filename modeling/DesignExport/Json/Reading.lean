import DesignExport.Json.Value
set_option autoImplicit false

/-! What reading a JSON text has found so far. A text can go wrong at any place,
and whether a reader notices depends on what it looks for: a reader that passes
over an unwanted value accepts numbers without bounds, unpaired surrogates and
any depth of nesting. A reading therefore keeps the trouble at its place, so
that the first trouble met in reading order is the one reported. -/

namespace DesignExport.Json

/-- Why a text is not taken for a value. -/
inductive Fault where
  /-- The text is no JSON. -/
  | malformed
  /-- The value has the wrong shape. -/
  | misfit
  /-- The text ends early. -/
  | cutShort
deriving DecidableEq, Repr, Inhabited

def Fault.message : Fault → String
  | .malformed => "the text is malformed"
  | .misfit => "the value has the wrong shape"
  | .cutShort => "the text ends early"

mutual

inductive Reading where
  | null
  | flag (value : Bool)
  | number (value : Number)
  | text (value : String)
  | list (items : Items)
  | record (members : Members)
  /-- No value begins here. -/
  | broken (fault : Fault)
  /-- A text without its closing mark, with the faults of its reader and of one
  that passes over it. -/
  | unclosed (fault skimmed : Fault)
  /-- A reader of the value meets the fault; one that passes over it sees `skimmed`. -/
  | flawed (fault : Fault) (skimmed : Reading)

inductive Items where
  | done
  /-- Neither a further item nor the end. -/
  | stop (fault : Fault)
  | next (item : Reading) (rest : Items)

inductive Members where
  | done
  /-- Neither a further name nor the end. The other fault is that of a reader that
  looks for a value in place of the first name, or for the end in place of a
  later one. -/
  | stop (fault other : Fault)
  | next (name : String) (value : Reading) (rest : Members)
  /-- A name that only a passing reader accepts. -/
  | flawedName (fault : Fault) (value : Reading) (rest : Members)

end

instance : Inhabited Reading := ⟨.null⟩

mutual

/-- Passes over a value. -/
def Reading.skim : Reading → Except Fault Unit
  | .list items => items.skim
  | .record members => members.skim
  | .broken fault => .error fault
  | .unclosed _ skimmed => .error skimmed
  | .flawed _ skimmed => skimmed.skim
  | _ => .ok ()

def Items.skim : Items → Except Fault Unit
  | .done => .ok ()
  | .stop fault => .error fault
  | .next item rest =>
      match item.skim with
      | .error fault => .error fault
      | .ok _ => rest.skim

def Members.skim : Members → Except Fault Unit
  | .done => .ok ()
  | .stop fault _ => .error fault
  | .next _ value rest | .flawedName _ value rest =>
      match value.skim with
      | .error fault => .error fault
      | .ok _ => rest.skim

end

mutual

/-- The whole value, for which every part of the text is read. -/
def Reading.value : Reading → Except Fault Json
  | .null => .ok .null
  | .flag value => .ok (.flag value)
  | .number value => .ok (.number value)
  | .text value => .ok (.text value)
  | .list items => items.values.map .list
  | .record members => members.values.map recordOf
  | .broken fault => .error fault
  | .unclosed fault _ => .error fault
  | .flawed fault _ => .error fault

def Items.values : Items → Except Fault (List Json)
  | .done => .ok []
  | .stop fault => .error fault
  | .next item rest =>
      match item.value with
      | .error fault => .error fault
      | .ok value => rest.values.map (value :: ·)

def Members.values : Members → Except Fault (List (String × Json))
  | .done => .ok []
  | .stop fault _ => .error fault
  | .flawedName fault _ _ => .error fault
  | .next name value rest =>
      match value.value with
      | .error fault => .error fault
      | .ok value => rest.values.map ((name, value) :: ·)

end

mutual

/-- A value as the reading of a text without any trouble. -/
def Reading.ofJson : Json → Reading
  | .null => .null
  | .flag value => .flag value
  | .number value => .number value
  | .text value => .text value
  | .list items => .list (Items.ofList items)
  | .record members => .record (Members.ofList members)

def Items.ofList : List Json → Items
  | [] => .done
  | item :: rest => .next (Reading.ofJson item) (Items.ofList rest)

def Members.ofList : List (String × Json) → Members
  | [] => .done
  | (name, value) :: rest => .next name (Reading.ofJson value) (Members.ofList rest)

end

mutual

/-- Levels of lists and records, one inside the other. -/
def Reading.depth : Reading → Nat
  | .list items => items.depth + 1
  | .record members => members.depth + 1
  | .flawed _ skimmed => skimmed.depth
  | _ => 0

def Items.depth : Items → Nat
  | .next item rest => max item.depth rest.depth
  | _ => 0

def Members.depth : Members → Nat
  | .next _ value rest | .flawedName _ value rest => max value.depth rest.depth
  | _ => 0

end

end DesignExport.Json
