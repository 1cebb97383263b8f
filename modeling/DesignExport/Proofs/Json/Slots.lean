import DesignExport.Proofs.Json.Restores
set_option autoImplicit false

/-! Records all of whose fields may be left out. Such a record is decoded from members
field by field: the order of the members and the members with unknown names do not
matter. -/

namespace DesignExport.Json.Decoder

variable {ρ : Type}

/-- A field that may be left out, with how it is read back and written. -/
structure Slot (ρ : Type) where
  Value : Type
  name : String
  decode : Decoder Value
  set : ρ → Value → ρ
  get : ρ → Value
  encode : Value → Json

namespace Slot

def field (slot : Slot ρ) : Field ρ :=
  Decoder.field slot.name slot.decode slot.set

def member (record : ρ) (slot : Slot ρ) : String × Json :=
  (slot.name, slot.encode (slot.get record))

/-- The member for a field, or the lack of one, accounts for the field of the target. -/
def Reads (slot : Slot ρ) (start target : ρ) : Option Json → Prop
  | none => slot.get target = slot.get start
  | some json => slot.decode .value (.ofJson json) = .ok (slot.get target)

structure IsLawful (slot : Slot ρ) : Prop where
  get_set : ∀ record value, slot.get (slot.set record value) = value
  misfits : ∀ {json fault}, slot.decode .value (.ofJson json) = .error fault → fault = .misfit
  /-- What is decoded is written as it was. -/
  faithful : ∀ {json value}, json.IsOrdered → slot.decode .value (.ofJson json) = .ok value →
    slot.encode value = json
  orderly : ∀ value, (slot.encode value).IsOrdered

/-- The field can be read from what it is written as. -/
def Settles (slot : Slot ρ) (record : ρ) : Prop :=
  slot.decode .value (.ofJson (slot.encode (slot.get record))) = .ok (slot.get record)

/-- Fields with names of their own, none of which touches another, make up a record. -/
structure MakeUp (slots : List (Slot ρ)) : Prop where
  distinct : (slots.map Slot.name).Nodup
  lawful : ∀ slot ∈ slots, slot.IsLawful
  apart : ∀ slot ∈ slots, ∀ other ∈ slots, slot.name ≠ other.name →
    ∀ record value, slot.get (other.set record value) = slot.get record
  ext : ∀ first second, (∀ slot ∈ slots, slot.get first = slot.get second) → first = second

end Slot

mutual

theorem skim_ofJson : ∀ json : Json, (Reading.ofJson json).skim = .ok ()
  | .null => rfl
  | .flag _ => rfl
  | .number _ => rfl
  | .text _ => rfl
  | .list items => skim_ofItems items
  | .record members => skim_ofMembers members

theorem skim_ofItems : ∀ items : List Json, (Items.ofList items).skim = .ok ()
  | [] => rfl
  | item :: rest => by
      rw [Items.ofList, Items.skim, skim_ofJson item]
      exact skim_ofItems rest

theorem skim_ofMembers : ∀ members : List (String × Json), (Members.ofList members).skim = .ok ()
  | [] => rfl
  | (name, value) :: rest => by
      rw [Members.ofList, Members.skim, skim_ofJson value]
      exact skim_ofMembers rest

end

namespace Slot

variable {slots : List (Slot ρ)}

theorem find?_field_eq_none {name : String} (unknown : name ∉ slots.map Slot.name) :
    (slots.map field).find? (fun field => field.name == name) = none := by
  rw [List.find?_eq_none]
  intro other member same
  obtain ⟨slot, belongs, rfl⟩ := List.mem_map.mp member
  exact unknown (List.mem_map.mpr ⟨slot, belongs, beq_iff_eq.mp same⟩)

theorem recordMembers_unknown {name : String} (unknown : name ∉ slots.map Slot.name) (json : Json)
    (rest : List (String × Json)) (seen : List String) (start : ρ) :
    recordMembers (slots.map field) .value seen start (.ofList ((name, json) :: rest)) =
      recordMembers (slots.map field) .value seen start (.ofList rest) := by
  rw [Members.ofList, recordMembers, find?_field_eq_none unknown, skim_ofJson]

theorem reads_iff {slot : Slot ρ} {start target other : ρ} {found : Option Json}
    (reads : slot.Reads start target found) :
    slot.Reads start other found ↔ slot.get other = slot.get target := by
  cases found with
  | none =>
      have same : slot.get target = slot.get start := reads
      rw [Reads, same]
  | some json =>
      have same : slot.decode .value (.ofJson json) = .ok (slot.get target) := reads
      rw [Reads, same]
      exact ⟨fun equal => (Except.ok.inj equal).symm, fun equal => congrArg Except.ok equal.symm⟩

namespace MakeUp

variable (makeUp : MakeUp slots)

include makeUp

theorem find?_field_eq_some {slot : Slot ρ} (member : slot ∈ slots) :
    (slots.map field).find? (fun field => field.name == slot.name) = some slot.field := by
  have distinct : ((slots.map field).map (·.name)).Nodup := by
    rw [List.map_map]
    exact makeUp.distinct
  exact find?_field distinct (List.mem_map_of_mem member)

/-- Of fields that make up a record, one is known by its name. -/
theorem eq_of_name {slot other : Slot ρ} (member : slot ∈ slots) (belongs : other ∈ slots)
    (same : slot.name = other.name) : slot = other :=
  List.inj_on_of_nodup_map makeUp.distinct member belongs same

theorem recordMembers_known {slot : Slot ρ} (member : slot ∈ slots) (json : Json)
    (rest : List (String × Json)) (seen : List String) (start : ρ) :
    recordMembers (slots.map field) .value seen start (.ofList ((slot.name, json) :: rest)) =
      if seen.contains slot.name then .error .misfit
      else (slot.decode .value (.ofJson json)).bind fun value =>
        recordMembers (slots.map field) .value (slot.name :: seen) (slot.set start value)
          (.ofList rest) := by
  have put : slot.field.put .value (.ofJson json) start =
      (slot.decode .value (.ofJson json)).map (slot.set start) := rfl
  rw [Members.ofList, recordMembers, makeUp.find?_field_eq_some member]
  dsimp only
  rw [put]
  cases slot.decode .value (.ofJson json) <;> rfl

/-- A member accounts for its own field, and leaves the other fields to the rest. -/
theorem reads_cons_iff {slot other : Slot ρ} (member : slot ∈ slots) (belongs : other ∈ slots)
    {json : Json} {value : slot.Value} (decoded : slot.decode .value (.ofJson json) = .ok value)
    {rest : List (String × Json)} (single : slot.name ∉ rest.map Prod.fst) {start target : ρ} :
    other.Reads start target (Table.find? other.name ((slot.name, json) :: rest)) ↔
      other.Reads (slot.set start value) target (Table.find? other.name rest) := by
  by_cases same : other.name = slot.name
  · obtain rfl := makeUp.eq_of_name belongs member same
    have here : Table.find? other.name ((other.name, json) :: rest) = some json := if_pos rfl
    rw [here, Table.find?_eq_none_of_not_mem single, Reads, Reads, decoded,
      (makeUp.lawful other member).get_set]
    exact ⟨fun same => (Except.ok.inj same).symm, fun same => congrArg Except.ok same.symm⟩
  · have there : Table.find? other.name ((slot.name, json) :: rest) =
        Table.find? other.name rest := if_neg (Ne.symm same)
    rw [there]
    cases Table.find? other.name rest with
    | some found => exact Iff.rfl
    | none => rw [Reads, Reads, makeUp.apart other belongs slot member same]

/-- Each member sets its own field, and the fields without a member stay as they are. -/
theorem recordMembers_eq_ok {members : List (String × Json)} {target : ρ} :
    ∀ {seen : List String} {start : ρ}, (members.map Prod.fst).Nodup →
      (∀ name ∈ members.map Prod.fst, name ∉ seen) →
      (recordMembers (slots.map field) .value seen start (.ofList members) = .ok target ↔
        ∀ slot ∈ slots, slot.Reads start target (Table.find? slot.name members)) := by
  induction members with
  | nil =>
      intro seen start _ _
      have all : (slots.map field).all
          (fun field => !field.isRequired || seen.contains field.name) = true := by
        rw [List.all_eq_true]
        intro other member
        obtain ⟨slot, _, rfl⟩ := List.mem_map.mp member
        rfl
      rw [Members.ofList, recordMembers, if_pos all]
      constructor
      · intro same slot _
        cases same
        exact rfl
      · intro reads
        rw [makeUp.ext _ _ reads]
  | cons entry rest ih =>
      obtain ⟨name, json⟩ := entry
      intro seen start distinct fresh
      obtain ⟨single, distinctRest⟩ := List.nodup_cons.mp distinct
      obtain ⟨unseen, unseenRest⟩ := List.forall_mem_cons.mp fresh
      -- By induction on the members, with the names before them seen. A member that no slot is
      -- named for changes neither side.
      by_cases known : name ∈ slots.map Slot.name
      · obtain ⟨slot, member, rfl⟩ := List.mem_map.mp known
        have new : ¬ seen.contains slot.name = true := fun before =>
          unseen (List.contains_iff_mem.mp before)
        rw [makeUp.recordMembers_known member, if_neg new]
        cases decoded : slot.decode .value (.ofJson json) with
        | error fault =>
            constructor
            · intro impossible
              cases impossible
            · intro reads
              have here : Table.find? slot.name ((slot.name, json) :: rest) = some json := if_pos rfl
              have own := reads slot member
              rw [here, Reads, decoded] at own
              cases own
        | ok value =>
            have later : ∀ other ∈ rest.map Prod.fst, other ∉ slot.name :: seen := by
              intro other listed inside
              rcases List.mem_cons.mp inside with same | before
              · exact single (same ▸ listed)
              · exact unseenRest other listed before
            exact (ih distinctRest later).trans (forall₂_congr fun other belongs =>
              (makeUp.reads_cons_iff member belongs decoded single).symm)
      · rw [recordMembers_unknown known]
        refine (ih distinctRest unseenRest).trans (forall₂_congr fun other belongs => ?_)
        have different : name ≠ other.name := by
          rintro rfl
          exact known (List.mem_map_of_mem belongs)
        have there : Table.find? other.name ((name, json) :: rest) = Table.find? other.name rest :=
          if_neg different
        rw [there]

theorem decodeValue_eq_ok {members : List (String × Json)} {start target : ρ}
    (distinct : (members.map Prod.fst).Nodup) :
    decodeValue (record (slots.map field) start) (.record members) = .ok target ↔
      ∀ slot ∈ slots, slot.Reads start target (Table.find? slot.name members) :=
  makeUp.recordMembers_eq_ok distinct fun _ _ => List.not_mem_nil

theorem misfit_of_recordMembers {fault : Fault} {members : List (String × Json)} :
    ∀ {seen : List String} {start : ρ},
      recordMembers (slots.map field) .value seen start (.ofList members) = .error fault →
        fault = .misfit := by
  induction members with
  | nil =>
      intro seen start failed
      rw [Members.ofList, recordMembers] at failed
      split at failed
      case isTrue => cases failed
      case isFalse => exact (Except.error.inj failed).symm
  | cons entry rest ih =>
      obtain ⟨name, json⟩ := entry
      intro seen start failed
      by_cases known : name ∈ slots.map Slot.name
      · obtain ⟨slot, member, rfl⟩ := List.mem_map.mp known
        rw [makeUp.recordMembers_known member] at failed
        split at failed
        case isTrue => exact (Except.error.inj failed).symm
        case isFalse =>
          cases decoded : slot.decode .value (.ofJson json) with
          | error other =>
              rw [decoded] at failed
              exact (Except.error.inj failed).symm.trans
                ((makeUp.lawful slot member).misfits decoded)
          | ok value =>
              rw [decoded] at failed
              exact ih failed
      · rw [recordMembers_unknown known] at failed
        exact ih failed

/-- Two sets of members that set the same fields to the same values are decoded alike,
also where they are not decoded. -/
theorem decodeValue_congr {first second : List (String × Json)} {start : ρ}
    (same : ∀ target,
      decodeValue (record (slots.map field) start) (.record first) = .ok target ↔
        decodeValue (record (slots.map field) start) (.record second) = .ok target) :
    decodeValue (record (slots.map field) start) (.record first) =
      decodeValue (record (slots.map field) start) (.record second) := by
  cases one : decodeValue (record (slots.map field) start) (.record first) with
  | ok target => exact ((same target).mp one).symm
  | error fault =>
      cases other : decodeValue (record (slots.map field) start) (.record second) with
      | ok target =>
          rw [(same target).mpr other] at one
          cases one
      | error another =>
          rw [makeUp.misfit_of_recordMembers one, makeUp.misfit_of_recordMembers other]

theorem find?_written {slot : Slot ρ} (member : slot ∈ slots) (record : ρ) :
    Table.find? slot.name (orderMembers (slots.map (Slot.member record))) =
      some (slot.encode (slot.get record)) := by
  have distinct : ((slots.map (Slot.member record)).map Prod.fst).Nodup := by
    rw [List.map_map]
    exact makeUp.distinct
  rw [find?_orderMembers distinct]
  exact Table.find?_of_mem distinct (List.mem_map_of_mem member)

/-- What has been decoded from ordered values can be written and decoded again. -/
theorem settles_of_decodeValue {members : List (String × Json)} {start target : ρ}
    (distinct : (members.map Prod.fst).Nodup) (ordered : ∀ member ∈ members, member.2.IsOrdered)
    (usual : ∀ slot ∈ slots, slot.Settles start)
    (decoded : decodeValue (record (slots.map field) start) (.record members) = .ok target) :
    ∀ slot ∈ slots, slot.Settles target := by
  intro slot member
  have reads := (makeUp.decodeValue_eq_ok distinct).mp decoded slot member
  cases found : Table.find? slot.name members with
  | none =>
      rw [found] at reads
      have same : slot.get target = slot.get start := reads
      rw [Settles, same]
      exact usual slot member
  | some json =>
      rw [found] at reads
      have written := (makeUp.lawful slot member).faithful
        (ordered _ (Table.mem_of_find? found)) reads
      rw [Settles, written]
      exact reads

theorem decodeValue_written {start target : ρ} (settles : ∀ slot ∈ slots, slot.Settles target) :
    decodeValue (record (slots.map field) start)
      (.record (orderMembers (slots.map (Slot.member target)))) = .ok target := by
  refine (makeUp.decodeValue_eq_ok (rising_orderMembers _).nodup_names).mpr fun slot member => ?_
  rw [makeUp.find?_written member]
  exact settles slot member

/-- Members that are entered over others count for their names; of the others only the
record that they are decoded to counts. -/
theorem decodeValue_over {base other first second entries : List (String × Json)}
    {start target : ρ} (distinctBase : (base.map Prod.fst).Nodup)
    (distinctOther : (other.map Prod.fst).Nodup) (distinctFirst : (first.map Prod.fst).Nodup)
    (distinctSecond : (second.map Prod.fst).Nodup)
    (one : decodeValue (record (slots.map field) start) (.record base) = .ok target)
    (two : decodeValue (record (slots.map field) start) (.record other) = .ok target)
    (entered : ∀ slot ∈ slots, Table.find? slot.name first =
      (Table.find? slot.name entries).or (Table.find? slot.name base))
    (enteredOther : ∀ slot ∈ slots, Table.find? slot.name second =
      (Table.find? slot.name entries).or (Table.find? slot.name other)) :
    decodeValue (record (slots.map field) start) (.record first) =
      decodeValue (record (slots.map field) start) (.record second) := by
  refine makeUp.decodeValue_congr fun result => ?_
  rw [makeUp.decodeValue_eq_ok distinctFirst, makeUp.decodeValue_eq_ok distinctSecond]
  refine forall₂_congr fun slot member => ?_
  rw [entered slot member, enteredOther slot member]
  cases Table.find? slot.name entries with
  | some json => exact Iff.rfl
  | none =>
      have reads := (makeUp.decodeValue_eq_ok distinctBase).mp one slot member
      have readsOther := (makeUp.decodeValue_eq_ok distinctOther).mp two slot member
      rw [Option.none_or, Option.none_or, reads_iff reads, reads_iff readsOther]

end MakeUp

end Slot

end DesignExport.Json.Decoder
