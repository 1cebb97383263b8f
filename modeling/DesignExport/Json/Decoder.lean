import DesignExport.Json.Scanner
set_option autoImplicit false

/-! Decoding values of a known shape. A decoder follows the reading order and
reports the first fault it meets. Values that must be read whole before their
shape is known, those with a tag and those with alternatives, are decoded from
memory, where every fault is a misfit. -/

namespace DesignExport.Json

/-- Where a reading comes from. -/
inductive Origin where
  /-- A text that is decoded while it is read. -/
  | text
  /-- A value. -/
  | value
  /-- A value that was read whole to find its tag or its alternative. -/
  | memory
deriving DecidableEq

abbrev Decoder (β : Type) := Origin → Reading → Except Fault β

namespace Decoder

def float : Decoder Float := fun _ reading =>
  match reading with
  | .number value => .ok value.toFloat
  | other => .error other.misfit

/-- A whole number below a bound. -/
def natural (bound : Nat) : Decoder Nat := fun _ reading =>
  match reading with
  | .number (.whole value) =>
      if 0 ≤ value && value < bound then .ok value.toNat else .error .misfit
  | other => .error other.misfit

def byte : Decoder UInt8 := fun origin reading =>
  (natural 256 origin reading).map UInt8.ofNat

/-- A count of 64 bits. -/
def count : Decoder Nat := natural (Nat.pow 2 64)

def flag : Decoder Bool := fun _ reading =>
  match reading with
  | .flag value => .ok value
  | other => .error other.misfit

def text : Decoder String := fun _ reading =>
  match reading with
  | .text value => .ok value
  | other => .error other.misfit

def value : Decoder Json := fun _ reading => reading.value

/-- Null stands for no value. -/
def optional {β : Type} (decode : Decoder β) : Decoder (Option β) := fun origin reading =>
  match reading with
  | .null => .ok none
  | other => (decode origin other).map some

def items {β : Type} (decode : Decoder β) (origin : Origin) : Items → Except Fault (List β)
  | .done => .ok []
  | .stop fault => .error fault
  | .next item rest =>
      match decode origin item with
      | .error fault => .error fault
      | .ok first => (items decode origin rest).map (first :: ·)

def list {β : Type} (decode : Decoder β) : Decoder (List β) := fun origin reading =>
  match reading with
  | .list contents => items decode origin contents
  | .flawed fault (.list _) => .error fault
  | other => .error other.misfit

def tableMembers {β : Type} (decode : Decoder β) (origin : Origin) (table : Table β) :
    Members → Except Fault (Table β)
  | .done => .ok table
  | .stop fault _ => .error fault
  | .flawedName fault _ _ => .error fault
  | .next name value rest =>
      match decode origin value with
      | .error fault => .error fault
      | .ok entry => tableMembers decode origin (table.insert name entry) rest

/-- A record with any names; a repeated name keeps its place and its last value. -/
def table {β : Type} (decode : Decoder β) : Decoder (Table β) := fun origin reading =>
  match reading with
  | .record members => tableMembers decode origin [] members
  | .flawed fault (.record _) => .error fault
  | other => .error other.misfit

/-- The fault in what is left of a list after the items its shape has. -/
def endOfItems (origin : Origin) : Items → Except Fault Unit
  | .done => .ok ()
  | .stop fault => .error fault
  | .next _ _ => .error (if origin = .text then .malformed else .misfit)

/-- A list of exactly `size` items. -/
def exactly {β : Type} (decode : Decoder β) (size : Nat) : Decoder (List β) :=
  let rec take : Nat → Origin → Items → Except Fault (List β)
    | 0, origin, rest => (endOfItems origin rest).map (fun _ => [])
    | _ + 1, _, .done => .error .misfit
    | _ + 1, _, .stop fault => .error fault
    | remaining + 1, origin, .next item rest =>
        match decode origin item with
        | .error fault => .error fault
        | .ok first => (take remaining origin rest).map (first :: ·)
  fun origin reading =>
    match reading with
    | .list contents => take size origin contents
    | .flawed fault (.list _) => .error fault
    | other => .error other.misfit

/-- One field of a record type: its name, whether it has to be there, and how
its value goes into a record that is being put together. -/
structure Field (ρ : Type) where
  name : String
  isRequired : Bool
  put : Origin → Reading → ρ → Except Fault ρ

/-- A field with a default value. -/
def field {ρ β : Type} (name : String) (decode : Decoder β) (set : ρ → β → ρ) : Field ρ :=
  ⟨name, false, fun origin reading record => (decode origin reading).map (set record)⟩

def requiredField {ρ β : Type} (name : String) (decode : Decoder β) (set : ρ → β → ρ) : Field ρ :=
  { field name decode set with isRequired := true }

variable {ρ : Type}

/-- The members of a record in reading order: unknown names are passed over, a
known name may occur once, and at the end no required name may be missing. -/
def recordMembers (fields : List (Field ρ)) (origin : Origin) (seen : List String) (record : ρ) :
    Members → Except Fault ρ
  | .done =>
      if fields.all (fun field => !field.isRequired || seen.contains field.name) then .ok record
      else .error .misfit
  | .stop fault _ => .error fault
  | .flawedName fault _ _ => .error fault
  | .next name value rest =>
      match fields.find? (fun field => field.name == name) with
      | none =>
          match value.skim with
          | .error fault => .error fault
          | .ok _ => recordMembers fields origin seen record rest
      | some field =>
          if seen.contains name then .error .misfit
          else
            match field.put origin value record with
            | .error fault => .error fault
            | .ok record => recordMembers fields origin (name :: seen) record rest

/-- The values of a record in the order of its fields. Fields with defaults may
be missing at the end. -/
def recordItems (fields : List (Field ρ)) (origin : Origin) (record : ρ) :
    Items → Except Fault ρ := fun contents =>
  match fields, contents with
  | [], rest => (endOfItems origin rest).map (fun _ => record)
  | _ :: _, .stop fault => .error fault
  | field :: others, .done =>
      if field.isRequired || others.any (fun other => other.isRequired) then .error .misfit
      else .ok record
  | field :: others, .next item rest =>
      match field.put origin item record with
      | .error fault => .error fault
      | .ok record => recordItems others origin record rest

/-- A record type, written with names or as a list. `start` holds the defaults. -/
def record (fields : List (Field ρ)) (start : ρ) : Decoder ρ := fun origin reading =>
  match reading with
  | .record members => recordMembers fields origin [] start members
  | .list contents => recordItems fields origin start contents
  | .flawed fault (.record _) => .error fault
  | .flawed fault (.list _) => .error fault
  | other => .error other.misfit

def lookUp {β : Type} (names : List (String × β)) (name : String) : Except Fault β :=
  match names.find? (fun (known, _) => known == name) with
  | some (_, choice) => .ok choice
  | none => .error .misfit

/-- The content of a choice written as a record with the name as its only member. -/
def emptyContent (origin : Origin) : Reading → Except Fault Unit
  | .null => .ok ()
  | .record .done => if origin = .memory then .ok () else .error .misfit
  | other => .error other.misfit

def choiceMembers {β : Type} (names : List (String × β)) (origin : Origin) :
    Members → Except Fault β
  | .done => .error (if origin = .text then .malformed else .misfit)
  | .stop _ fault => .error fault
  | .flawedName fault _ _ => .error fault
  | .next name content rest =>
      match lookUp names name with
      | .error fault => .error fault
      | .ok choice =>
          match emptyContent origin content with
          | .error fault => .error fault
          | .ok _ =>
              match rest with
              | .done => .ok choice
              | .stop _ fault => .error fault
              | _ => .error (if origin = .text then .malformed else .misfit)

/-- One of several names. What is neither a text nor a record is, in a text that
is decoded while it is read, malformed. -/
def choice {β : Type} (names : List (String × β)) : Decoder β := fun origin reading =>
  match reading with
  | .text name => lookUp names name
  | .record members => choiceMembers names origin members
  | .broken fault => .error fault
  | .unclosed fault _ => .error fault
  | .flawed fault (.text _) => .error fault
  | .flawed fault (.record _) => .error fault
  | _ => .error (if origin = .text then .malformed else .misfit)

/-- Everything in a reading, for a decoder that works from memory. -/
def whole (reading : Reading) : Except Fault Reading :=
  reading.value.map (fun _ => reading)

/-- The tag and the other members of a record. -/
def tagMembers {τ : Type} (tagName : String) (tag : String → Except Fault τ) (found : Option τ) :
    Members → Except Fault (τ × Members)
  | .done =>
      match found with
      | none => .error .misfit
      | some kind => .ok (kind, .done)
  | .stop fault _ => .error fault
  | .flawedName fault _ _ => .error fault
  | .next name value rest =>
      if name = tagName then
        if found.isSome then .error .misfit
        else
          match text .text value with
          | .error fault => .error fault
          | .ok word =>
              match tag word with
              | .error fault => .error fault
              | .ok kind => tagMembers tagName tag (some kind) rest
      else
        match whole value with
        | .error fault => .error fault
        | .ok value =>
            (tagMembers tagName tag found rest).map
              (fun (kind, others) => (kind, .next name value others))

/-- A value whose shape depends on a tag, which is a member of its record or the
first item of its list. -/
def tagged {τ β : Type} (tag : String → Except Fault τ) (content : τ → Decoder β) : Decoder β :=
  fun _ reading =>
    match reading with
    | .record members =>
        match tagMembers "type" tag none members with
        | .error fault => .error fault
        | .ok (kind, others) => content kind .memory (.record others)
    | .list (.next first rest) =>
        match text .text first with
        | .error fault => .error fault
        | .ok word =>
            match tag word with
            | .error fault => .error fault
            | .ok kind =>
                match whole (.list rest) with
                | .error fault => .error fault
                | .ok others => content kind .memory others
    | .list .done => .error .misfit
    | .list (.stop fault) => .error fault
    | .flawed fault (.record _) => .error fault
    | .flawed fault (.list _) => .error fault
    | other => .error other.misfit

/-- A tagged value without content of its own; other members are passed over. -/
def noContent {β : Type} (result : β) : Decoder β := fun _ reading =>
  match reading with
  | .record _ => .ok result
  | .list .done => .ok result
  | other => .error other.misfit

/-- The first alternative that fits. -/
def either {β : Type} (first second : Decoder β) : Decoder β := fun _ reading =>
  match whole reading with
  | .error fault => .error fault
  | .ok reading =>
      match first .memory reading with
      | .ok result => .ok result
      | .error _ =>
          match second .memory reading with
          | .ok result => .ok result
          | .error _ => .error .misfit

end Decoder

/-- Decodes a text that holds one value and nothing else. -/
def decodeText {β : Type} (decode : Decoder β) (source : String) : Except Fault β :=
  let (reading, rest) := scan source
  match decode .text reading with
  | .error fault => .error fault
  | .ok result => (afterValue rest).map (fun _ => result)

def decodeValue {β : Type} (decode : Decoder β) (source : Json) : Except Fault β :=
  decode .value (Reading.ofJson source)

end DesignExport.Json
