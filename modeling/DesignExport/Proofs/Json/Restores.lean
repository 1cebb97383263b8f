import DesignExport.Document.Encoding
import DesignExport.Proofs.Json.Finite
import DesignExport.Proofs.Json.Ordered
import DesignExport.Proofs.Table
import Mathlib.Data.List.Pairwise
set_option autoImplicit false

/-! Decoders that undo an encoder. A record is restored whatever the order of its members, since
its fields are set one by one and none touches another. In the other direction a decoder yields
only values that can be stored: the rules below follow the way decoders are put together. -/

namespace DesignExport.Json.Decoder

variable {β γ ρ τ : Type}

/-- A decoder restores the values that can be stored, and from finite numbers it yields no others. -/
structure Restores (decode : Decoder β) (encode : β → Json) (Storable : β → Prop) : Prop where
  undoes : ∀ {value}, Storable value → ∀ origin, decode origin (.ofJson (encode value)) = .ok value
  yields : ∀ {origin reading value}, reading.IsFinite → decode origin reading = .ok value →
    Storable value

/-! ### Records -/

/-- A member of a record and what it sets in the record that is being put together. -/
structure Entry (ρ : Type) where
  field : Field ρ
  json : Json
  copy : ρ → ρ
  puts : ∀ origin record, field.put origin (.ofJson json) record = .ok (copy record)

namespace Entry

def name (entry : Entry ρ) : String :=
  entry.field.name

def member (entry : Entry ρ) : String × Json :=
  (entry.name, entry.json)

def of {name : String} {isRequired : Bool} {decode : Decoder β} {set : ρ → β → ρ} {value : β}
    {json : Json} (restored : ∀ origin, decode origin (.ofJson json) = .ok value) : Entry ρ where
  field := { Decoder.field name decode set with isRequired }
  json := json
  copy record := set record value
  puts origin record := by
    change (decode origin (.ofJson json)).map (set record) = _
    rw [restored]
    rfl

/-- The member that a value which can be stored is written as. -/
abbrev stored {name : String} {isRequired : Bool} {decode : Decoder β} {set : ρ → β → ρ}
    {value : β} {encode : β → Json} {Storable : β → Prop} (restores : Restores decode encode Storable)
    (storable : Storable value) : Entry ρ :=
  @of β ρ name isRequired decode set value (encode value) (restores.undoes storable)

section Of

variable {name : String} {isRequired : Bool} {decode : Decoder β} {set : ρ → β → ρ} {value : β}
  {json : Json} (restored : ∀ origin, decode origin (.ofJson json) = .ok value)

@[simp]
theorem name_of : (@of β ρ name isRequired decode set value json restored).name = name :=
  rfl

@[simp]
theorem copy_of (record : ρ) :
    (@of β ρ name isRequired decode set value json restored).copy record = set record value :=
  rfl

end Of

/-- Neither entry touches what the other one sets. -/
def Commutes (first second : Entry ρ) : Prop :=
  ∀ record, first.copy (second.copy record) = second.copy (first.copy record)

@[simp]
theorem commutes_iff {first second : Entry ρ} : Commutes first second ↔
    ∀ record, first.copy (second.copy record) = second.copy (first.copy record) :=
  Iff.rfl

/-- No entry touches what another one sets. -/
def Apart : List (Entry ρ) → Prop
  | [] => True
  | entry :: rest => rest.Forall entry.Commutes ∧ Apart rest

@[simp]
theorem apart_nil : Apart ([] : List (Entry ρ)) :=
  trivial

@[simp]
theorem apart_cons {entry : Entry ρ} {rest : List (Entry ρ)} :
    Apart (entry :: rest) ↔ rest.Forall entry.Commutes ∧ Apart rest :=
  Iff.rfl

theorem Apart.pairwise {entries : List (Entry ρ)} (apart : Apart entries) :
    entries.Pairwise Commutes := by
  induction entries with
  | nil => exact List.Pairwise.nil
  | cons entry rest ih =>
      apply List.pairwise_cons.mpr
      constructor
      · exact List.forall_iff_forall_mem.mp apart.1
      · exact ih apart.2

/-- The record after all entries. -/
def copyAll (entries : List (Entry ρ)) (start : ρ) : ρ :=
  entries.foldl (fun record entry => entry.copy record) start

@[simp]
theorem copyAll_nil (start : ρ) : copyAll [] start = start :=
  rfl

@[simp]
theorem copyAll_cons (entry : Entry ρ) (rest : List (Entry ρ)) (start : ρ) :
    copyAll (entry :: rest) start = copyAll rest (entry.copy start) :=
  rfl

theorem copyAll_perm {entries others : List (Entry ρ)} (same : entries.Perm others)
    (apart : Apart entries) (start : ρ) : copyAll entries start = copyAll others start := by
  have symmetric : Std.Symm (Commutes : Entry ρ → Entry ρ → Prop) :=
    ⟨fun _ _ swap record => (swap record).symm⟩
  have swaps := apart.pairwise.forall_of_forall (fun _ _ _ => rfl)
  exact same.foldl_eq' (fun _ first _ second record => swaps second first record) start

/-- Entries with different names build the record, whatever their order. -/
structure Builds (entries : List (Entry ρ)) (start target : ρ) : Prop where
  names : (entries.map (·.name)).Nodup
  apart : Apart entries
  ends : copyAll entries start = target

@[simp]
theorem builds_iff {entries : List (Entry ρ)} {start target : ρ} : Builds entries start target ↔
    (entries.map (·.name)).Nodup ∧ Apart entries ∧ copyAll entries start = target :=
  ⟨fun builds => ⟨builds.names, builds.apart, builds.ends⟩,
    fun ⟨names, apart, ends⟩ => ⟨names, apart, ends⟩⟩

/-- Members in another order come from entries in another order. -/
theorem exists_of_members_perm {members : List (String × Json)} {entries : List (Entry ρ)}
    (same : (entries.map member).Perm members) :
    ∃ others, entries.Perm others ∧ others.map member = members := by
  generalize given : entries.map member = known at same
  induction same generalizing entries with
  | nil => exact ⟨[], by rw [List.map_eq_nil_iff.mp given], rfl⟩
  | cons own _ ih =>
      obtain ⟨entry, rest, rfl, rfl, later⟩ := List.map_eq_cons_iff.mp given
      obtain ⟨others, perm, rfl⟩ := ih later
      exact ⟨entry :: others, perm.cons entry, rfl⟩
  | swap own next rest =>
      obtain ⟨first, later, rfl, rfl, given'⟩ := List.map_eq_cons_iff.mp given
      obtain ⟨second, last, rfl, rfl, rfl⟩ := List.map_eq_cons_iff.mp given'
      exact ⟨second :: first :: last, List.Perm.swap _ _ _, rfl⟩
  | trans _ _ first second =>
      obtain ⟨others, perm, same⟩ := first given
      obtain ⟨last, perm', same'⟩ := second same
      exact ⟨last, perm.trans perm', same'⟩

end Entry

theorem find?_field {fields : List (Field ρ)} (distinct : (fields.map (·.name)).Nodup)
    {field : Field ρ} (member : field ∈ fields) :
    fields.find? (fun other => other.name == field.name) = some field := by
  induction fields with
  | nil => exact absurd member List.not_mem_nil
  | cons first rest ih =>
      obtain ⟨fresh, later⟩ := List.nodup_cons.mp distinct
      rcases List.mem_cons.mp member with same | belongs
      · rw [same, List.find?_cons, beq_self_eq_true]
      · have different : first.name ≠ field.name := by
          intro same
          apply fresh
          dsimp only
          rw [same]
          exact List.mem_map_of_mem belongs
        rw [List.find?_cons, beq_false_of_ne different]
        exact ih later belongs

theorem recordMembers_entries {fields : List (Field ρ)} (distinct : (fields.map (·.name)).Nodup)
    (origin : Origin) {entries : List (Entry ρ)} (known : ∀ entry ∈ entries, entry.field ∈ fields)
    (names : (entries.map (·.name)).Nodup) :
    ∀ {seen : List String} (start : ρ), (∀ entry ∈ entries, entry.name ∉ seen) →
      (∀ field ∈ fields, field.name ∈ seen ∨ field.name ∈ entries.map (·.name)) →
      recordMembers fields origin seen start (.ofList (entries.map Entry.member)) =
        .ok (Entry.copyAll entries start) := by
  induction entries with
  | nil =>
      intro seen start _ complete
      have all : fields.all (fun field => !field.isRequired || seen.contains field.name) = true := by
        rw [List.all_eq_true]
        intro field member
        have present : field.name ∈ seen := (complete field member).resolve_right List.not_mem_nil
        rw [List.contains_iff_mem.mpr present, Bool.or_true]
      rw [List.map_nil, Members.ofList, recordMembers, if_pos all]
      rfl
  | cons entry rest ih =>
      intro seen start fresh complete
      obtain ⟨own, others⟩ := List.forall_mem_cons.mp known
      obtain ⟨unseen, unseenRest⟩ := List.forall_mem_cons.mp fresh
      obtain ⟨single, distinctRest⟩ := List.nodup_cons.mp names
      have new : seen.contains entry.name = false := by
        rw [← Bool.not_eq_true, List.contains_iff_mem]
        exact unseen
      have found := find?_field distinct own
      rw [List.map_cons, Entry.member, Members.ofList, recordMembers]
      simp only [Entry.name] at found new ⊢
      rw [found]
      simp only [new, entry.puts]
      apply ih others distinctRest
      · intro other member seenNow
        rcases List.mem_cons.mp seenNow with same | before
        · apply single
          change entry.field.name ∈ rest.map (·.name)
          rw [← same]
          exact List.mem_map_of_mem member
        · exact unseenRest other member before
      · intro field member
        rcases complete field member with before | listed
        · exact Or.inl (List.mem_cons_of_mem _ before)
        · rcases List.mem_cons.mp listed with same | later
          · exact Or.inl (same ▸ List.mem_cons_self)
          · exact Or.inr later

/-- A record is put together from its members in any order. -/
theorem record_entries (entries : List (Entry ρ)) {start target : ρ} {members : List (String × Json)}
    (same : (entries.map Entry.member).Perm members) (builds : Entry.Builds entries start target)
    (origin : Origin) :
    record (entries.map (·.field)) start origin (.record (.ofList members)) = .ok target := by
  obtain ⟨others, perm, rfl⟩ := Entry.exists_of_members_perm same
  have distinct : ((entries.map (·.field)).map (·.name)).Nodup := by
    rw [List.map_map]
    exact builds.names
  rw [record, ← builds.ends, Entry.copyAll_perm perm builds.apart]
  apply recordMembers_entries distinct origin
  · intro entry member
    exact List.mem_map_of_mem (perm.mem_iff.mpr member)
  · exact (perm.map _).nodup_iff.mp builds.names
  · exact fun _ _ => List.not_mem_nil
  · intro field member
    obtain ⟨entry, belongs, rfl⟩ := List.mem_map.mp member
    exact Or.inr (List.mem_map_of_mem (perm.mem_iff.mp belongs))

theorem record_undoes (entries : List (Entry ρ)) {start target : ρ}
    (builds : Entry.Builds entries start target) (origin : Origin) :
    record (entries.map (·.field)) start origin (.ofJson (recordOf (entries.map Entry.member))) =
      .ok target := by
  have distinct : ((entries.map Entry.member).map Prod.fst).Nodup := by
    rw [List.map_map]
    exact builds.names
  exact record_entries entries (orderMembers_perm distinct).symm builds origin

/-- Setting the field keeps what can be stored. -/
def Field.Keeps (Storable : ρ → Prop) (field : Field ρ) : Prop :=
  ∀ origin reading record changed, reading.IsFinite → Storable record →
    field.put origin reading record = .ok changed → Storable changed

theorem Field.keeps_of_yields {Storable : ρ → Prop} {Fine : β → Prop} {name : String}
    {isRequired : Bool} {decode : Decoder β} {set : ρ → β → ρ}
    (yields : ∀ {origin reading value}, reading.IsFinite → decode origin reading = .ok value →
      Fine value)
    (sets : ∀ {record value}, Storable record → Fine value → Storable (set record value)) :
    Field.Keeps Storable { Decoder.field name decode set with isRequired } := by
  intro _ _ _ _ finite storable put
  obtain ⟨value, decoded, rfl⟩ := exists_of_map_eq_ok put
  exact sets storable (yields finite decoded)

theorem Field.keeps {Storable : ρ → Prop} {Fine : β → Prop} {name : String} {isRequired : Bool}
    {decode : Decoder β} {encode : β → Json} {set : ρ → β → ρ} (restores : Restores decode encode Fine)
    (sets : ∀ {record value}, Storable record → Fine value → Storable (set record value)) :
    Field.Keeps Storable { Decoder.field name decode set with isRequired } :=
  Field.keeps_of_yields restores.yields sets

section Yields

variable {Storable : ρ → Prop} {fields : List (Field ρ)}

theorem recordMembers_yields (keeps : ∀ field ∈ fields, field.Keeps Storable) {origin : Origin}
    {changed : ρ} : ∀ {members : Members} {seen : List String} {record : ρ}, members.IsFinite →
      Storable record → recordMembers fields origin seen record members = .ok changed →
        Storable changed
  | .done, _, _, _, storable, decoded => by
      rw [recordMembers] at decoded
      split at decoded
      case isTrue =>
        cases decoded
        exact storable
      case isFalse => cases decoded
  | .stop _ _, _, _, _, _, decoded => by
      rw [recordMembers] at decoded
      cases decoded
  | .flawedName _ _ _, _, _, _, _, decoded => by
      rw [recordMembers] at decoded
      cases decoded
  | .next name value rest, seen, record, finite, storable, decoded => by
      rw [recordMembers] at decoded
      split at decoded
      case h_1 =>
        split at decoded
        case h_1 => cases decoded
        case h_2 => exact recordMembers_yields keeps finite.2 storable decoded
      case h_2 field found =>
        split at decoded
        case isTrue => cases decoded
        case isFalse =>
          split at decoded
          case h_1 => cases decoded
          case h_2 next put =>
            have kept := keeps field (List.mem_of_find?_eq_some found) _ _ _ _ finite.1 storable put
            exact recordMembers_yields keeps finite.2 kept decoded

theorem recordItems_yields {origin : Origin} {changed : ρ} :
    ∀ {fields : List (Field ρ)} {items : Items} {record : ρ},
      (∀ field ∈ fields, field.Keeps Storable) → items.IsFinite → Storable record →
        recordItems fields origin record items = .ok changed → Storable changed
  | [], items, _, _, _, storable, decoded => by
      rw [recordItems] at decoded
      obtain ⟨_, _, rfl⟩ := exists_of_map_eq_ok decoded
      exact storable
  | _ :: _, .stop _, _, _, _, _, decoded => by
      rw [recordItems] at decoded
      cases decoded
  | field :: others, .done, _, _, _, storable, decoded => by
      rw [recordItems] at decoded
      split at decoded
      case isTrue => cases decoded
      case isFalse =>
        cases decoded
        exact storable
  | field :: others, .next item rest, _, keeps, finite, storable, decoded => by
      obtain ⟨keep, later⟩ := List.forall_mem_cons.mp keeps
      rw [recordItems] at decoded
      split at decoded
      case h_1 => cases decoded
      case h_2 next put =>
        exact recordItems_yields later finite.2 (keep _ _ _ _ finite.1 storable put) decoded

theorem record_yields {start : ρ} {origin : Origin} {reading : Reading} {value : ρ}
    (finite : reading.IsFinite) (decoded : record fields start origin reading = .ok value)
    (first : Storable start) (keeps : fields.Forall (Field.Keeps Storable)) : Storable value := by
  have keepsEach := List.forall_iff_forall_mem.mp keeps
  cases reading with
  | record members => exact recordMembers_yields keepsEach finite first decoded
  | list items => exact recordItems_yields keepsEach finite first decoded
  | flawed fault skimmed => cases skimmed <;> cases decoded
  | _ => cases decoded

end Yields

/-! ### Values, lists and choices -/

theorem restores_float : Restores float Encoding.float (fun value => value.isFinite = true) where
  undoes finite origin := by
    rw [Encoding.float, if_pos finite]
    rfl
  yields {origin reading value} finite decoded := by
    cases reading with
    | number => cases decoded; exact finite
    | _ => cases decoded

/-- Decoders of what holds no number yield nothing to check. -/
theorem Restores.ofUndoes {decode : Decoder β} {encode : β → Json}
    (undoes : ∀ value origin, decode origin (.ofJson (encode value)) = .ok value) :
    Restores decode encode (fun _ => True) where
  undoes _ := undoes _
  yields _ _ := trivial

theorem restores_flag : Restores flag .flag (fun _ => True) :=
  .ofUndoes fun _ _ => rfl

theorem restores_text : Restores text .text (fun _ => True) :=
  .ofUndoes fun _ _ => rfl

theorem natural_undoes {bound value : Nat} (less : value < bound) (origin : Origin) :
    natural bound origin (.ofJson (Encoding.count value)) = .ok value := by
  have inside : (decide ((0 : Int) ≤ value) && decide ((value : Int) < bound)) = true := by
    simpa using less
  simp only [Encoding.count, Reading.ofJson, natural, inside, if_true, Int.toNat_natCast]

theorem restores_count : Restores count Encoding.count (fun value => value < 2 ^ 64) where
  undoes less := natural_undoes less
  yields {origin reading value} _ decoded := by
    cases reading with
    | number own =>
        cases own with
        | fraction => cases decoded
        | whole value =>
            rw [count, natural] at decoded
            split at decoded
            case isTrue inside =>
              cases decoded
              simp only [Bool.and_eq_true, decide_eq_true_eq] at inside
              have less : value < ((2 ^ 64 : Nat) : Int) := inside.2
              change value.toNat < 2 ^ 64
              omega
            case isFalse => cases decoded
    | _ => cases decoded

theorem restores_byte : Restores byte Encoding.byte (fun _ => True) :=
  .ofUndoes fun value origin => by
    rw [byte, Encoding.byte, natural_undoes (UInt8.toNat_lt value)]
    exact congrArg Except.ok (UInt8.ofNat_toNat)

/-- Names of choices that look-up and encoding agree on. -/
theorem restores_choice [DecidableEq β] {names : List (String × β)}
    (known : ∀ value, ∃ name, names.find? (fun (_, own) => own = value) = some (name, value) ∧
      lookUp names name = .ok value) :
    Restores (choice names) (Encoding.choice names) (fun _ => True) :=
  .ofUndoes fun value origin => by
    obtain ⟨name, written, read⟩ := known value
    rw [Encoding.choice, written]
    exact read

theorem optional_of_ne_null {decode : Decoder β} {origin : Origin} {reading : Reading}
    (present : reading ≠ .null) :
    Decoder.optional decode origin reading = (decode origin reading).map some := by
  cases reading with
  | null => exact absurd rfl present
  | _ => rfl

theorem Restores.optional {decode : Decoder β} {encode : β → Json} {Storable : β → Prop}
    (restores : Restores decode encode Storable)
    (rejects : ∀ origin value, decode origin .null ≠ .ok value) :
    Restores (Decoder.optional decode) (Encoding.optional encode)
      (fun value => ∀ own ∈ value, Storable own) where
  undoes {value} storable origin := by
    cases value with
    | none => rfl
    | some own =>
        have restored := restores.undoes (storable own rfl) origin
        have present : Reading.ofJson (encode own) ≠ .null := by
          intro null
          rw [null] at restored
          exact rejects origin own restored
        rw [Encoding.optional, optional_of_ne_null present, restored]
        rfl
  yields {origin reading value} finite decoded := by
    by_cases null : reading = .null
    · subst null
      cases decoded
      exact fun _ none => nomatch none
    · rw [optional_of_ne_null null] at decoded
      obtain ⟨own, read, rfl⟩ := exists_of_map_eq_ok decoded
      intro other same
      cases same
      exact restores.yields finite read

section Lists

variable {decode : Decoder β} {encode : β → Json} {Storable : β → Prop}

theorem items_undoes {values : List β} {origin : Origin}
    (restored : ∀ value ∈ values, decode origin (.ofJson (encode value)) = .ok value) :
    items decode origin (.ofList (values.map encode)) = .ok values := by
  induction values with
  | nil => rfl
  | cons value rest ih =>
      obtain ⟨first, later⟩ := List.forall_mem_cons.mp restored
      rw [List.map_cons, Items.ofList, items, first, ih later]
      rfl

theorem items_yields (yields : ∀ {origin reading value}, reading.IsFinite →
    decode origin reading = .ok value → Storable value) {origin : Origin} :
    ∀ {contents : Items} {values : List β}, contents.IsFinite →
      items decode origin contents = .ok values → ∀ value ∈ values, Storable value
  | .done, _, _, decoded => by
      cases decoded
      exact List.forall_mem_nil _
  | .stop _, _, _, decoded => by cases decoded
  | .next item rest, _, finite, decoded => by
      rw [items] at decoded
      split at decoded
      case h_1 => cases decoded
      case h_2 first read =>
        obtain ⟨values, others, rfl⟩ := exists_of_map_eq_ok decoded
        exact List.forall_mem_cons.mpr ⟨yields finite.1 read, items_yields yields finite.2 others⟩

theorem list_yields (yields : ∀ {origin reading value}, reading.IsFinite →
    decode origin reading = .ok value → Storable value) {origin : Origin} {reading : Reading}
    {values : List β} (finite : reading.IsFinite) (decoded : list decode origin reading = .ok values) :
    ∀ value ∈ values, Storable value := by
  cases reading with
  | list contents => exact items_yields yields finite decoded
  | flawed fault skimmed => cases skimmed <;> cases decoded
  | _ => cases decoded

theorem Restores.list (restores : Restores decode encode Storable) :
    Restores (Decoder.list decode) (Encoding.list encode)
      (fun values => ∀ value ∈ values, Storable value) where
  undoes storable origin :=
    items_undoes fun value member => restores.undoes (storable value member) origin
  yields finite decoded := list_yields restores.yields finite decoded

theorem exactly_undoes {values : List β} {origin : Origin}
    (restored : ∀ value ∈ values, decode origin (.ofJson (encode value)) = .ok value) :
    exactly decode values.length origin (.ofJson (Encoding.list encode values)) = .ok values := by
  change exactly.take decode values.length origin (.ofList (values.map encode)) = .ok values
  induction values with
  | nil => rfl
  | cons value rest ih =>
      obtain ⟨first, later⟩ := List.forall_mem_cons.mp restored
      rw [List.map_cons, Items.ofList, List.length_cons, exactly.take, first]
      dsimp only
      rw [ih later]
      rfl

theorem take_yields (yields : ∀ {origin reading value}, reading.IsFinite →
    decode origin reading = .ok value → Storable value) {origin : Origin} :
    ∀ {size : Nat} {contents : Items} {values : List β}, contents.IsFinite →
      exactly.take decode size origin contents = .ok values → ∀ value ∈ values, Storable value
  | 0, _, _, _, decoded => by
      rw [exactly.take] at decoded
      obtain ⟨_, _, rfl⟩ := exists_of_map_eq_ok decoded
      exact List.forall_mem_nil _
  | _ + 1, .done, _, _, decoded => by
      rw [exactly.take] at decoded
      cases decoded
  | _ + 1, .stop _, _, _, decoded => by
      rw [exactly.take] at decoded
      cases decoded
  | _ + 1, .next item rest, _, finite, decoded => by
      rw [exactly.take] at decoded
      split at decoded
      case h_1 => cases decoded
      case h_2 first read =>
        obtain ⟨values, others, rfl⟩ := exists_of_map_eq_ok decoded
        exact List.forall_mem_cons.mpr ⟨yields finite.1 read, take_yields yields finite.2 others⟩

theorem exactly_yields (yields : ∀ {origin reading value}, reading.IsFinite →
    decode origin reading = .ok value → Storable value) {size : Nat} {origin : Origin}
    {reading : Reading} {values : List β} (finite : reading.IsFinite)
    (decoded : exactly decode size origin reading = .ok values) : ∀ value ∈ values, Storable value := by
  cases reading with
  | list contents => exact take_yields yields finite decoded
  | flawed fault skimmed => cases skimmed <;> cases decoded
  | _ => cases decoded

end Lists

/-! ### Tags and alternatives -/

theorem whole_ofJson (json : Json) : whole (.ofJson json) = .ok (.ofJson json) := by
  obtain ⟨value, read⟩ := exists_value_ofJson json
  rw [whole, read]
  rfl

theorem eq_of_whole {reading same : Reading} (read : whole reading = .ok same) : same = reading := by
  obtain ⟨_, _, rfl⟩ := exists_of_map_eq_ok read
  rfl

section Tagged

variable {tag : String → Except Fault τ} {tagName : String}

theorem tagMembers_untagged {members : List (String × Json)}
    (untagged : tagName ∉ members.map Prod.fst) (kind : τ) :
    tagMembers tagName tag (some kind) (.ofList members) = .ok (kind, .ofList members) := by
  induction members with
  | nil => rfl
  | cons member rest ih =>
      obtain ⟨name, value⟩ := member
      obtain ⟨different, later⟩ := not_or.mp (List.mem_cons.not.mp untagged)
      rw [Members.ofList, tagMembers, if_neg (Ne.symm different), whole_ofJson]
      dsimp only
      rw [ih later]
      rfl

/-- The tag is found wherever it stands, and the other members are left in their order. -/
theorem tagMembers_ofList {word : String} {kind : τ} (known : tag word = .ok kind)
    {members : List (String × Json)} (tagged : (tagName, .text word) ∈ members)
    (distinct : (members.map Prod.fst).Nodup) :
    ∃ others, members.Perm ((tagName, .text word) :: others) ∧
      tagMembers tagName tag none (.ofList members) = .ok (kind, .ofList others) := by
  induction members with
  | nil => exact absurd tagged List.not_mem_nil
  | cons member rest ih =>
      obtain ⟨name, value⟩ := member
      obtain ⟨fresh, later⟩ := List.nodup_cons.mp distinct
      by_cases here : name = tagName
      · have own : (tagName, Json.text word) = (name, value) := by
          rcases List.mem_cons.mp tagged with same | belongs
          · exact same
          · exact absurd (List.mem_map_of_mem belongs) (here ▸ fresh)
        cases own
        refine ⟨rest, List.Perm.refl _, ?_⟩
        rw [Members.ofList, tagMembers, if_pos rfl, if_neg (by simp)]
        have read : Decoder.text .text (.ofJson (.text word)) = .ok word := rfl
        rw [read]
        dsimp only
        rw [known]
        exact tagMembers_untagged fresh kind
      · have belongs : (tagName, Json.text word) ∈ rest := by
          rcases List.mem_cons.mp tagged with same | belongs
          · exact absurd (congrArg Prod.fst same).symm here
          · exact belongs
        obtain ⟨others, perm, split⟩ := ih belongs later
        refine ⟨(name, value) :: others, (perm.cons _).trans (List.Perm.swap _ _ _), ?_⟩
        rw [Members.ofList, tagMembers, if_neg here, whole_ofJson]
        dsimp only
        rw [split]
        rfl

theorem tagMembers_yields : ∀ {members : Members} {found : Option τ} {kind : τ} {others : Members},
    members.IsFinite → tagMembers tagName tag found members = .ok (kind, others) → others.IsFinite
  | .done, found, _, _, _, split => by
      cases found with
      | none => cases split
      | some => cases split; trivial
  | .stop _ _, _, _, _, _, split => by cases split
  | .flawedName _ _ _, _, _, _, _, split => by cases split
  | .next name value rest, found, kind, others, finite, decoded => by
      rw [tagMembers] at decoded
      split at decoded
      case isTrue =>
        split at decoded
        case isTrue => cases decoded
        case isFalse =>
          split at decoded
          case h_1 => cases decoded
          case h_2 =>
            split at decoded
            case h_1 => cases decoded
            case h_2 => exact tagMembers_yields finite.2 decoded
      case isFalse =>
        split at decoded
        case h_1 => cases decoded
        case h_2 same read =>
          rw [eq_of_whole read] at decoded
          obtain ⟨⟨own, later⟩, rest, pair⟩ := exists_of_map_eq_ok decoded
          cases pair
          exact ⟨finite.1, tagMembers_yields finite.2 rest⟩

variable {content : τ → Decoder β}

theorem tagged_undoes {word : String} {kind : τ} {members : List (String × Json)} {value : β}
    (known : tag word = .ok kind) (origin : Origin)
    (distinct : ("type" :: members.map Prod.fst).Nodup)
    (restored : ∀ {others}, members.Perm others →
      content kind .memory (.record (.ofList others)) = .ok value) :
    tagged tag content origin (.ofJson (recordOf (("type", .text word) :: members))) = .ok value := by
  have same : (orderMembers (("type", .text word) :: members)).Perm
      (("type", .text word) :: members) := orderMembers_perm distinct
  obtain ⟨others, perm, split⟩ := tagMembers_ofList known
    (same.mem_iff.mpr List.mem_cons_self) ((same.map Prod.fst).nodup_iff.mpr distinct)
  rw [recordOf, Reading.ofJson, tagged, split]
  exact restored (same.symm.trans perm).cons_inv

theorem tagged_yields {Storable : β → Prop}
    (yields : ∀ kind {origin reading value}, reading.IsFinite →
      content kind origin reading = .ok value → Storable value)
    {origin : Origin} {reading : Reading} {value : β} (finite : reading.IsFinite)
    (decoded : tagged tag content origin reading = .ok value) : Storable value := by
  cases reading with
  | record members =>
      rw [tagged] at decoded
      split at decoded
      case h_1 => cases decoded
      case h_2 kind others split =>
        have finiteOthers : (Reading.record others).IsFinite := tagMembers_yields finite split
        exact yields kind finiteOthers decoded
  | list contents =>
      cases contents with
      | next first rest =>
          rw [tagged] at decoded
          split at decoded
          case h_1 => cases decoded
          case h_2 =>
            split at decoded
            case h_1 => cases decoded
            case h_2 kind _ =>
              split at decoded
              case h_1 => cases decoded
              case h_2 others read =>
                rw [eq_of_whole read] at decoded
                have finiteRest : (Reading.list rest).IsFinite := finite.2
                exact yields kind finiteRest decoded
      | done => cases decoded
      | stop => cases decoded
  | flawed fault skimmed => cases skimmed <;> cases decoded
  | _ => cases decoded

theorem eq_of_noContent {result value : β} (origin : Origin) {reading : Reading}
    (decoded : noContent result origin reading = .ok value) : value = result := by
  cases reading with
  | record members =>
      cases decoded
      rfl
  | list contents =>
      cases contents with
      | done =>
          cases decoded
          rfl
      | _ => cases decoded
  | _ => cases decoded

end Tagged

section Either

variable {first second : Decoder β} {json : Json} {value : β} {origin : Origin}

theorem either_first (restored : first .memory (.ofJson json) = .ok value) :
    either first second origin (.ofJson json) = .ok value := by
  rw [either, whole_ofJson]
  dsimp only
  rw [restored]

theorem either_second (rejected : ∀ other, first .memory (.ofJson json) ≠ .ok other)
    (restored : second .memory (.ofJson json) = .ok value) :
    either first second origin (.ofJson json) = .ok value := by
  rw [either, whole_ofJson]
  dsimp only
  cases other : first .memory (.ofJson json) with
  | ok result => exact absurd other (rejected result)
  | error => rw [restored]

theorem either_yields {Storable : β → Prop} {reading : Reading}
    (one : ∀ {origin reading value}, reading.IsFinite → first origin reading = .ok value →
      Storable value)
    (other : ∀ {origin reading value}, reading.IsFinite → second origin reading = .ok value →
      Storable value)
    (finite : reading.IsFinite) (decoded : either first second origin reading = .ok value) :
    Storable value := by
  rw [either] at decoded
  split at decoded
  case h_1 => cases decoded
  case h_2 same read =>
    rw [eq_of_whole read] at decoded
    split at decoded
    case h_1 result tried =>
      cases decoded
      exact one finite tried
    case h_2 =>
      split at decoded
      case h_1 result tried =>
        cases decoded
        exact other finite tried
      case h_2 => cases decoded

end Either

end DesignExport.Json.Decoder

namespace DesignExport

/-! ### Stored properties -/

/-- The keys of a table differ, and its values are values that were read whole. -/
structure Table.IsStorable (table : Table Json) : Prop where
  distinct : table.keys.Nodup
  ordered : ∀ entry ∈ table, entry.2.IsOrdered

namespace Json.Decoder

theorem tableMembers_undoes {origin : Origin} {entries : Table Json} :
    ∀ {table : Table Json}, (table ++ entries).IsStorable →
      tableMembers value origin table (.ofList entries) = .ok (table ++ entries) := by
  induction entries with
  | nil =>
      intro table _
      rw [List.append_nil]
      rfl
  | cons entry rest ih =>
      obtain ⟨name, own⟩ := entry
      intro table storable
      have read : value origin (.ofJson own) = .ok own :=
        value_ofJson (storable.ordered (name, own) (List.mem_append_right _ List.mem_cons_self))
      have fresh : name ∉ Table.keys table := by
        have distinct := storable.distinct
        rw [Table.keys, List.map_append, List.map_cons, List.nodup_append] at distinct
        exact fun known => distinct.2.2 name known name List.mem_cons_self rfl
      rw [Members.ofList, tableMembers, read]
      dsimp only
      rw [Table.insert_of_not_mem_keys fresh]
      have split := List.append_cons table (name, own) rest
      rw [split] at storable ⊢
      exact ih storable

theorem tableMembers_yields {origin : Origin} {result : Table Json} :
    ∀ {members : Members} {table : Table Json}, table.IsStorable →
      tableMembers value origin table members = .ok result → result.IsStorable
  | .done, _, storable, decoded => by
      cases decoded
      exact storable
  | .stop _ _, _, _, decoded => by cases decoded
  | .flawedName _ _ _, _, _, decoded => by cases decoded
  | .next name own rest, table, storable, decoded => by
      rw [tableMembers] at decoded
      split at decoded
      case h_1 => cases decoded
      case h_2 entry read =>
        refine tableMembers_yields ⟨Table.nodup_keys_insert storable.distinct, ?_⟩ decoded
        intro other member
        rcases Table.mem_of_mem_insert member with entered | before
        · rw [entered]
          exact isOrdered_value read
        · exact storable.ordered other before

theorem restores_table : Restores (table value) .record Table.IsStorable where
  undoes storable _ := tableMembers_undoes storable
  yields {origin reading value} _ decoded := by
    cases reading with
    | record members =>
        have none : Table.IsStorable [] := ⟨List.nodup_nil, List.forall_mem_nil _⟩
        exact tableMembers_yields none decoded
    | flawed fault skimmed => cases skimmed <;> cases decoded
    | _ => cases decoded

end Json.Decoder

end DesignExport
