import DesignExport.Json.Reading
import DesignExport.Proofs.Table
import Mathlib.Data.List.Perm.Basic
set_option autoImplicit false

/-! Members in the order of their names. Entering members one by one keeps the order, loses no
name and leaves members alone that are in order already. A value that is read whole has all
its records in order, and such a value is read as it is. -/

namespace DesignExport.Json

/-- The names of members rise. -/
def Rising (members : List (String × Json)) : Prop :=
  members.Pairwise (fun earlier later => earlier.1 < later.1)

theorem Rising.nodup_names {members : List (String × Json)} (rising : Rising members) :
    (members.map Prod.fst).Nodup := by
  rw [List.nodup_iff_pairwise_ne, List.pairwise_map]
  exact rising.imp fun before => String.ne_of_lt before

section Members

variable {name : String} {value : Json}

theorem mem_of_mem_insertMember {member : String × Json} :
    ∀ {members : List (String × Json)}, member ∈ insertMember name value members →
      member = (name, value) ∨ member ∈ members
  | [], belongs => Or.inl (List.mem_singleton.mp belongs)
  | (other, old) :: rest, belongs => by
      rw [insertMember] at belongs
      split at belongs
      case isTrue =>
        rcases List.mem_cons.mp belongs with first | later
        · exact Or.inl first
        · exact Or.inr (List.mem_cons_of_mem _ later)
      case isFalse =>
        split at belongs
        case isTrue => exact List.mem_cons.mp belongs
        case isFalse =>
          rcases List.mem_cons.mp belongs with first | later
          · exact Or.inr (first ▸ List.mem_cons_self)
          · exact (mem_of_mem_insertMember later).imp_right (List.mem_cons_of_mem _)

theorem find?_insertMember {other : String} : ∀ members : List (String × Json),
    Table.find? other (insertMember name value members) =
      if other = name then some value else Table.find? other members
  | [] => by
      rw [insertMember, Table.find?, Table.find?]
      exact ite_congr (propext eq_comm) (fun _ => rfl) fun _ => rfl
  | (own, old) :: rest => by
      rw [insertMember]
      split
      case isTrue same =>
        subst same
        rw [Table.find?, Table.find?]
        by_cases hit : other = name
        · rw [if_pos hit, if_pos hit.symm]
        · rw [if_neg hit, if_neg (Ne.symm hit), if_neg (Ne.symm hit)]
      case isFalse different =>
        split
        case isTrue =>
          rw [Table.find?]
          exact ite_congr (propext eq_comm) (fun _ => rfl) fun _ => rfl
        case isFalse =>
          rw [Table.find?, Table.find?, find?_insertMember rest]
          by_cases hit : own = other
          · rw [if_pos hit, if_pos hit, if_neg fun same => different (same.symm.trans hit.symm)]
          · rw [if_neg hit, if_neg hit]

theorem Rising.insertMember {members : List (String × Json)} (rising : Rising members) :
    Rising (insertMember name value members) := by
  induction members with
  | nil => exact List.pairwise_singleton _ _
  | cons member rest ih =>
      obtain ⟨other, old⟩ := member
      obtain ⟨first, later⟩ := List.pairwise_cons.mp rising
      rw [Json.insertMember]
      split
      case isTrue same =>
        subst same
        exact List.pairwise_cons.mpr ⟨first, later⟩
      case isFalse different =>
        split
        case isTrue less =>
          apply List.pairwise_cons.mpr ⟨?_, rising⟩
          intro next belongs
          rcases List.mem_cons.mp belongs with here | further
          · rw [here]
            exact less
          · exact String.lt_trans less (first next further)
        case isFalse notLess =>
          apply List.pairwise_cons.mpr ⟨?_, ih later⟩
          intro next belongs
          rcases mem_of_mem_insertMember belongs with own | further
          · rw [own]
            by_contra notAfter
            exact different (String.le_antisymm notAfter notLess)
          · exact first next further

/-- The members entered one by one where others stand in order. -/
def orderAmong (members ordered : List (String × Json)) : List (String × Json) :=
  members.foldl (fun ordered member => insertMember member.1 member.2 ordered) ordered

theorem orderAmong_nil (ordered : List (String × Json)) : orderAmong [] ordered = ordered :=
  rfl

theorem orderAmong_cons (rest ordered : List (String × Json)) :
    orderAmong ((name, value) :: rest) ordered = orderAmong rest (insertMember name value ordered) :=
  rfl

theorem rising_orderAmong {ordered : List (String × Json)} (rising : Rising ordered) :
    ∀ members : List (String × Json), Rising (orderAmong members ordered)
  | [] => rising
  | (_, _) :: rest => rising_orderAmong rising.insertMember rest

theorem rising_orderMembers (members : List (String × Json)) : Rising (orderMembers members) :=
  rising_orderAmong List.Pairwise.nil members

theorem find?_orderAmong {members : List (String × Json)} (distinct : (members.map Prod.fst).Nodup)
    (ordered : List (String × Json)) :
    Table.find? name (orderAmong members ordered) =
      (Table.find? name members).or (Table.find? name ordered) :=
  Table.find?_foldl (fun _ _ table => find?_insertMember table) distinct ordered

theorem find?_orderMembers {members : List (String × Json)}
    (distinct : (members.map Prod.fst).Nodup) :
    Table.find? name (orderMembers members) = Table.find? name members :=
  (find?_orderAmong distinct []).trans (Option.or_none)

theorem insertMember_perm : ∀ {members : List (String × Json)},
    name ∉ members.map Prod.fst → (insertMember name value members).Perm ((name, value) :: members)
  | [], _ => List.Perm.refl _
  | (other, old) :: rest, fresh => by
      obtain ⟨different, new⟩ := not_or.mp (List.mem_cons.not.mp fresh)
      rw [insertMember, if_neg different]
      split
      case isTrue => exact List.Perm.refl _
      case isFalse =>
        have later := (insertMember_perm new).cons (other, old)
        exact later.trans (List.Perm.swap _ _ _)

/-- Members with different names are only put into another order. -/
theorem orderMembers_perm {members : List (String × Json)}
    (distinct : (members.map Prod.fst).Nodup) : (orderMembers members).Perm members := by
  suffices kept : ∀ {ordered : List (String × Json)}, ((ordered ++ members).map Prod.fst).Nodup →
      (orderAmong members ordered).Perm (ordered ++ members) from
    kept distinct
  clear distinct
  induction members with
  | nil =>
      intro ordered _
      rw [List.append_nil]
      exact List.Perm.refl _
  | cons member rest ih =>
      obtain ⟨name, value⟩ := member
      intro ordered distinct
      have moved : (ordered ++ (name, value) :: rest).Perm ((name, value) :: ordered ++ rest) :=
        List.perm_middle
      have fresh : name ∉ ordered.map Prod.fst := by
        have apart := (moved.map Prod.fst).nodup_iff.mp distinct
        rw [List.cons_append, List.map_cons, List.nodup_cons, List.map_append] at apart
        exact fun known => apart.1 (List.mem_append_left _ known)
      have entered : (insertMember name value ordered).Perm ((name, value) :: ordered) :=
        insertMember_perm fresh
      have same := (entered.append_right rest).trans moved.symm
      exact (ih ((same.map Prod.fst).nodup_iff.mpr distinct)).trans same

theorem insertMember_of_last : ∀ {members : List (String × Json)},
    (∀ member ∈ members, member.1 < name) →
      insertMember name value members = members ++ [(name, value)]
  | [], _ => rfl
  | (other, old) :: rest, before => by
      obtain ⟨first, later⟩ := List.forall_mem_cons.mp before
      have different : name ≠ other := by
        rintro rfl
        exact String.lt_irrefl name first
      rw [insertMember, if_neg different, if_neg (String.lt_asymm first), insertMember_of_last later]
      rfl

theorem orderMembers_of_rising {members : List (String × Json)} (rising : Rising members) :
    orderMembers members = members := by
  suffices kept : ∀ {ordered : List (String × Json)}, Rising (ordered ++ members) →
      orderAmong members ordered = ordered ++ members from
    kept rising
  clear rising
  induction members with
  | nil => exact fun _ => (List.append_nil _).symm
  | cons member rest ih =>
      obtain ⟨name, value⟩ := member
      intro ordered rising
      have before : ∀ member ∈ ordered, member.1 < name := fun member belongs =>
        (List.pairwise_append.mp rising).2.2 member belongs (name, value) List.mem_cons_self
      rw [List.append_cons] at rising
      rw [orderAmong_cons, insertMember_of_last before, ih rising]
      exact (List.append_cons ordered (name, value) rest).symm

end Members

mutual

/-- All records of a value have their members in order. -/
def IsOrdered : Json → Prop
  | .list items => ItemsOrdered items
  | .record members => Rising members ∧ MembersOrdered members
  | _ => True

def ItemsOrdered : List Json → Prop
  | [] => True
  | item :: rest => IsOrdered item ∧ ItemsOrdered rest

def MembersOrdered : List (String × Json) → Prop
  | [] => True
  | (_, value) :: rest => IsOrdered value ∧ MembersOrdered rest

end

theorem membersOrdered_iff {members : List (String × Json)} :
    MembersOrdered members ↔ ∀ member ∈ members, IsOrdered member.2 := by
  induction members with
  | nil => simp [MembersOrdered]
  | cons member rest ih =>
      rw [MembersOrdered, ih, List.forall_mem_cons]

theorem mem_of_mem_orderAmong {member : String × Json} {members : List (String × Json)} :
    ∀ {ordered : List (String × Json)}, member ∈ orderAmong members ordered →
      member ∈ ordered ∨ member ∈ members := by
  induction members with
  | nil => exact fun belongs => Or.inl belongs
  | cons first rest ih =>
      intro ordered belongs
      rcases ih belongs with entered | later
      · rcases mem_of_mem_insertMember entered with own | before
        · exact Or.inr (own ▸ List.mem_cons_self)
        · exact Or.inl before
      · exact Or.inr (List.mem_cons_of_mem _ later)

theorem mem_of_mem_orderMembers {member : String × Json} {members : List (String × Json)}
    (belongs : member ∈ orderMembers members) : member ∈ members :=
  (mem_of_mem_orderAmong belongs).resolve_left List.not_mem_nil

mutual

/-- A value whose records are in order is read as it is. -/
theorem value_ofJson : ∀ {json : Json}, json.IsOrdered → (Reading.ofJson json).value = .ok json
  | .null, _ => rfl
  | .flag _, _ => rfl
  | .number _, _ => rfl
  | .text _, _ => rfl
  | .list items, ordered => by
      rw [IsOrdered] at ordered
      rw [Reading.ofJson, Reading.value, values_ofList ordered]
      rfl
  | .record members, ordered => by
      rw [IsOrdered] at ordered
      rw [Reading.ofJson, Reading.value, values_ofMembers ordered.2]
      change Except.ok (recordOf members) = _
      rw [recordOf, orderMembers_of_rising ordered.1]

theorem values_ofList : ∀ {items : List Json}, ItemsOrdered items →
    (Items.ofList items).values = .ok items
  | [], _ => rfl
  | item :: rest, ordered => by
      rw [ItemsOrdered] at ordered
      rw [Items.ofList, Items.values, value_ofJson ordered.1, values_ofList ordered.2]
      rfl

theorem values_ofMembers : ∀ {members : List (String × Json)}, MembersOrdered members →
    (Members.ofList members).values = .ok members
  | [], _ => rfl
  | (name, value) :: rest, ordered => by
      rw [MembersOrdered] at ordered
      rw [Members.ofList, Members.values, value_ofJson ordered.1, values_ofMembers ordered.2]
      rfl

end

mutual

/-- Nothing stops a reader of a value. -/
theorem exists_value_ofJson : ∀ json : Json, ∃ whole, (Reading.ofJson json).value = .ok whole
  | .null => ⟨_, rfl⟩
  | .flag _ => ⟨_, rfl⟩
  | .number _ => ⟨_, rfl⟩
  | .text _ => ⟨_, rfl⟩
  | .list items => by
      obtain ⟨whole, read⟩ := exists_values_ofList items
      rw [Reading.ofJson, Reading.value, read]
      exact ⟨_, rfl⟩
  | .record members => by
      obtain ⟨whole, read⟩ := exists_values_ofMembers members
      rw [Reading.ofJson, Reading.value, read]
      exact ⟨_, rfl⟩

theorem exists_values_ofList : ∀ items : List Json, ∃ whole,
    (Items.ofList items).values = .ok whole
  | [] => ⟨_, rfl⟩
  | item :: rest => by
      obtain ⟨first, read⟩ := exists_value_ofJson item
      obtain ⟨others, readAll⟩ := exists_values_ofList rest
      rw [Items.ofList, Items.values, read, readAll]
      exact ⟨_, rfl⟩

theorem exists_values_ofMembers : ∀ members : List (String × Json), ∃ whole,
    (Members.ofList members).values = .ok whole
  | [] => ⟨_, rfl⟩
  | (name, value) :: rest => by
      obtain ⟨first, read⟩ := exists_value_ofJson value
      obtain ⟨others, readAll⟩ := exists_values_ofMembers rest
      rw [Members.ofList, Members.values, read, readAll]
      exact ⟨_, rfl⟩

end

theorem isOrdered_recordOf {members : List (String × Json)} (ordered : MembersOrdered members) :
    (recordOf members).IsOrdered := by
  rw [recordOf, IsOrdered]
  refine ⟨rising_orderMembers members, membersOrdered_iff.mpr fun member belongs => ?_⟩
  exact membersOrdered_iff.mp ordered member (mem_of_mem_orderMembers belongs)

/-- What is left of a computation that yields a result. -/
theorem exists_of_map_eq_ok {β γ : Type} {change : β → γ} {computed : Except Fault β} {result : γ}
    (yields : computed.map change = .ok result) : ∃ inner, computed = .ok inner ∧ change inner = result := by
  cases computed with
  | error fault => cases yields
  | ok inner => exact ⟨inner, rfl, Except.ok.inj yields⟩

mutual

/-- A value that is read whole has its records in order. -/
theorem isOrdered_value : ∀ {reading : Reading} {json : Json}, reading.value = .ok json →
    json.IsOrdered
  | .null, _, read => by cases read; trivial
  | .flag _, _, read => by cases read; trivial
  | .number _, _, read => by cases read; trivial
  | .text _, _, read => by cases read; trivial
  | .broken _, _, read => by cases read
  | .unclosed _ _, _, read => by cases read
  | .flawed _ _, _, read => by cases read
  | .list items, _, read => by
      rw [Reading.value] at read
      obtain ⟨whole, inner, rfl⟩ := exists_of_map_eq_ok read
      rw [IsOrdered]
      exact itemsOrdered_values inner
  | .record members, _, read => by
      rw [Reading.value] at read
      obtain ⟨whole, inner, rfl⟩ := exists_of_map_eq_ok read
      exact isOrdered_recordOf (membersOrdered_values inner)

theorem itemsOrdered_values : ∀ {items : Items} {values : List Json}, items.values = .ok values →
    ItemsOrdered values
  | .done, _, read => by cases read; trivial
  | .stop _, _, read => by cases read
  | .next item rest, _, read => by
      rw [Items.values] at read
      split at read
      case h_1 => cases read
      case h_2 value first =>
        obtain ⟨values, others, rfl⟩ := exists_of_map_eq_ok read
        exact ⟨isOrdered_value first, itemsOrdered_values others⟩

theorem membersOrdered_values : ∀ {members : Members} {values : List (String × Json)},
    members.values = .ok values → MembersOrdered values
  | .done, _, read => by cases read; trivial
  | .stop _ _, _, read => by cases read
  | .flawedName _ _ _, _, read => by cases read
  | .next name value rest, _, read => by
      rw [Members.values] at read
      split at read
      case h_1 => cases read
      case h_2 value first =>
        obtain ⟨values, others, rfl⟩ := exists_of_map_eq_ok read
        exact ⟨isOrdered_value first, membersOrdered_values others⟩

end

end DesignExport.Json
