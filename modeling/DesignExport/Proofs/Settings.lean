import DesignExport.CommandLine.Configuration
import DesignExport.Proofs.Json.Slots
import DesignExport.Settings
set_option autoImplicit false

/-! Settings as a record of fields that may be left out, and the settings of a configuration
over those of a document. -/

namespace DesignExport

section Reading

open Json.Decoder (Slot)
open Json (Decoder)

namespace Json.Decoder

theorem exists_of_tableMembers_text {origin : Origin} {result : Table String} :
    ∀ {members : List (String × Json)} {table : Table String},
      (table.keys ++ members.map Prod.fst).Nodup →
      tableMembers text origin table (.ofList members) = .ok result →
        ∃ names : Table String, members = names.map (fun (key, name) => (key, Json.text name)) ∧
          result = table ++ names
  | [], table, _, decoded => by
      cases decoded
      exact ⟨[], rfl, (List.append_nil _).symm⟩
  | (name, json) :: rest, table, distinct, decoded => by
      rw [Members.ofList, tableMembers] at decoded
      cases json with
      | text own =>
          have fresh : name ∉ table.keys := fun known =>
            (List.nodup_append.mp distinct).2.2 name known name List.mem_cons_self rfl
          change tableMembers text origin (table.insert name own) (.ofList rest) = _ at decoded
          rw [Table.insert_of_not_mem_keys fresh] at decoded
          have later : (Table.keys (table ++ [(name, own)]) ++ rest.map Prod.fst).Nodup := by
            rw [Table.keys, List.map_append, List.append_assoc]
            exact distinct
          obtain ⟨names, rfl, rfl⟩ := exists_of_tableMembers_text later decoded
          exact ⟨(name, own) :: names, rfl, (List.append_cons _ _ _).symm⟩
      | _ => cases decoded

end Json.Decoder

namespace Settings

def textSlot (name : String) (get : Settings → String) (set : Settings → String → Settings) :
    Slot Settings :=
  ⟨String, name, Decoder.text, set, get, .text⟩

def flagSlot (name : String) (get : Settings → Bool) (set : Settings → Bool → Settings) :
    Slot Settings :=
  ⟨Bool, name, Decoder.flag, set, get, .flag⟩

def namesSlot (name : String) (get : Settings → Table String)
    (set : Settings → Table String → Settings) : Slot Settings :=
  ⟨Table String, name, Decoder.table Decoder.text, set, get, names⟩

def slots : List (Slot Settings) :=
  [ textSlot "widgetPrefix" widgetPrefix fun settings value => { settings with widgetPrefix := value },
    flagSlot "enablePrototype" enablePrototype
      fun settings value => { settings with enablePrototype := value },
    flagSlot "normalizeNameCase" normalizeNameCase
      fun settings value => { settings with normalizeNameCase := value },
    flagSlot "includeNameComments" includeNameComments
      fun settings value => { settings with includeNameComments := value },
    flagSlot "nullSafe" nullSafe fun settings value => { settings with nullSafe := value },
    flagSlot "exportColors" exportColors fun settings value => { settings with exportColors := value },
    flagSlot "exportCharStyles" exportTextStyles
      fun settings value => { settings with exportTextStyles := value },
    textSlot "colorsClassName" colorsClassName
      fun settings value => { settings with colorsClassName := value },
    textSlot "charStylesClassName" textStylesClassName
      fun settings value => { settings with textStylesClassName := value },
    textSlot "widthUnit" widthUnit fun settings value => { settings with widthUnit := value },
    flagSlot "combineShapes" combineShapes
      fun settings value => { settings with combineShapes := value },
    namesSlot "fontMap" fontMap fun settings value => { settings with fontMap := value },
    namesSlot "imageMap" imageMap fun settings value => { settings with imageMap := value } ]

theorem decoder_eq : decoder = Decoder.record (slots.map Slot.field) {} :=
  rfl

theorem toJson_eq (settings : Settings) :
    settings.toJson = Json.recordOf (slots.map (Slot.member settings)) :=
  rfl

section Lawful

variable {name : String}

theorem textSlot_isLawful {get : Settings → String} {set : Settings → String → Settings}
    (get_set : ∀ settings value, get (set settings value) = value) :
    (textSlot name get set).IsLawful where
  get_set := get_set
  misfits {json fault} failed := by
    cases json with
    | text => cases failed
    | _ =>
        cases failed
        rfl
  faithful {json value} _ decoded := by
    cases json with
    | text =>
        cases decoded
        rfl
    | _ => cases decoded
  orderly _ := trivial

theorem flagSlot_isLawful {get : Settings → Bool} {set : Settings → Bool → Settings}
    (get_set : ∀ settings value, get (set settings value) = value) :
    (flagSlot name get set).IsLawful where
  get_set := get_set
  misfits {json fault} failed := by
    cases json with
    | flag => cases failed
    | _ =>
        cases failed
        rfl
  faithful {json value} _ decoded := by
    cases json with
    | flag =>
        cases decoded
        rfl
    | _ => cases decoded
  orderly _ := trivial

theorem misfit_of_tableMembers_text {origin : Json.Origin} {fault : Json.Fault}
    {members : List (String × Json)} {table : Table String}
    (failed : Decoder.tableMembers Decoder.text origin table (.ofList members) = .error fault) :
    fault = .misfit := by
  induction members generalizing table with
  | nil => cases failed
  | cons member rest ih =>
      obtain ⟨name, json⟩ := member
      cases json with
      | text own => exact ih failed
      | _ =>
          cases failed
          rfl

theorem namesSlot_isLawful {get : Settings → Table String}
    {set : Settings → Table String → Settings}
    (get_set : ∀ settings value, get (set settings value) = value) :
    (namesSlot name get set).IsLawful where
  get_set := get_set
  misfits {json fault} failed := by
    cases json with
    | record members => exact misfit_of_tableMembers_text failed
    | _ =>
        cases failed
        rfl
  faithful {json value} ordered decoded := by
    cases json with
    | record members =>
        have distinct : (Table.keys ([] : Table String) ++ members.map Prod.fst).Nodup :=
          ordered.1.nodup_names
        obtain ⟨table, rfl, rfl⟩ := Json.Decoder.exists_of_tableMembers_text distinct decoded
        exact congrArg Json.record (Json.orderMembers_of_rising ordered.1)
    | _ => cases decoded
  orderly table := by
    refine Json.isOrdered_recordOf (Json.membersOrdered_iff.mpr fun member belongs => ?_)
    obtain ⟨_, _, rfl⟩ := List.mem_map.mp belongs
    exact trivial

end Lawful

theorem slots_makeUp : Slot.MakeUp slots where
  distinct := by decide
  lawful := List.forall_iff_forall_mem.mp
    ⟨textSlot_isLawful fun _ _ => rfl, flagSlot_isLawful fun _ _ => rfl,
      flagSlot_isLawful fun _ _ => rfl, flagSlot_isLawful fun _ _ => rfl,
      flagSlot_isLawful fun _ _ => rfl, flagSlot_isLawful fun _ _ => rfl,
      flagSlot_isLawful fun _ _ => rfl, textSlot_isLawful fun _ _ => rfl,
      textSlot_isLawful fun _ _ => rfl, textSlot_isLawful fun _ _ => rfl,
      flagSlot_isLawful fun _ _ => rfl, namesSlot_isLawful fun _ _ => rfl,
      namesSlot_isLawful fun _ _ => rfl⟩
  apart := by
    simp [slots, textSlot, flagSlot, namesSlot]
  ext first second same := by
    obtain ⟨⟩ := first
    obtain ⟨⟩ := second
    simpa [slots, textSlot, flagSlot, namesSlot] using same

/-- The usual settings are read from what they are written as. -/
theorem usual_settles : ∀ slot ∈ slots, slot.Settles ({} : Settings) :=
  List.forall_iff_forall_mem.mp
    ⟨rfl, rfl, rfl, rfl, rfl, rfl, rfl, rfl, rfl, rfl, rfl, rfl, rfl⟩

end Settings

end Reading

/-! ### Configurations over documents

It is the same whether the settings of a configuration are written over the settings that have been read, or over the properties that the
settings are read from. -/

open Json.Decoder (Slot)
open Json (Decoder)

variable {α : Type}

/-- The document with the entries of a table among its properties. -/
def Document.overwritten (document : Document α) (table : Table Json) : Document α :=
  { document with
    properties := table.foldl (fun properties entry => properties.insert entry.1 entry.2)
      document.properties }

namespace Settings

def keys : List String :=
  slots.map Slot.name

/-- The settings with a table over them, decoded anew even if the table is empty. -/
def rewritten? (settings : Settings) (table : Table Json) : Except Json.Fault Settings :=
  match settings.toJson with
  | .record members => ofJson? (.record (Json.orderAmong table members))
  | other => ofJson? other

theorem rewritten?_eq (settings : Settings) (table : Table Json) :
    settings.rewritten? table = Json.decodeValue (Decoder.record (slots.map Slot.field) {})
      (.record (Json.orderAmong table (Json.orderMembers (slots.map (Slot.member settings))))) :=
  rfl

variable {settings : Settings} {table : Table Json}

/-- Settings that have been read from a document's properties can be written and read
again. -/
theorem settles_of_ofJson? {properties : Table Json} (stored : properties.IsStorable)
    (decoded : ofJson? (Json.recordOf properties) = .ok settings) :
    ∀ slot ∈ slots, slot.Settles settings := by
  rw [ofJson?, decoder_eq] at decoded
  exact slots_makeUp.settles_of_decodeValue (Json.rising_orderMembers _).nodup_names
    (fun entry member => stored.ordered entry (Json.mem_of_mem_orderMembers member))
    usual_settles decoded

theorem rewritten?_nil (settles : ∀ slot ∈ slots, slot.Settles settings) :
    settings.rewritten? [] = .ok settings := by
  rw [rewritten?_eq, Json.orderAmong_nil]
  exact slots_makeUp.decodeValue_written settles

/-- Doing without the way through the values makes no difference for an empty table. -/
theorem apply_eq_rewritten? (settles : ∀ slot ∈ slots, slot.Settles settings)
    (configuration : Configuration) :
    configuration.apply settings = settings.rewritten? configuration.settings := by
  rw [Configuration.apply, overlay?]
  split
  case isTrue none =>
    rw [List.isEmpty_iff.mp none, rewritten?_nil settles]
  case isFalse => rfl

section Tables

variable (distinct : table.keys.Nodup)

include distinct

theorem find?_rewritten (settings : Settings) (name : String) :
    Table.find? name (Json.orderAmong table (Json.orderMembers (slots.map (Slot.member settings)))) =
      (Table.find? name table).or
        (Table.find? name (Json.orderMembers (slots.map (Slot.member settings)))) :=
  Json.find?_orderAmong distinct _

theorem find?_overwritten {document : Document α} (stored : document.properties.IsStorable)
    (name : String) :
    Table.find? name (Json.orderMembers (document.overwritten table).properties) =
      (Table.find? name table).or (Table.find? name (Json.orderMembers document.properties)) := by
  have kept : (document.overwritten table).properties.keys.Nodup :=
    Table.nodup_keys_foldl_insert table stored.distinct
  rw [Json.find?_orderMembers kept, Json.find?_orderMembers stored.distinct]
  exact Table.find?_foldl (fun name value table => Table.find?_insert name table) distinct _

/-- Writing a table over settings that have been read from a document comes to the same
as reading the document with the table written over it. -/
theorem rewritten?_eq_overwritten {document : Document α}
    (stored : document.properties.IsStorable)
    (decodes : ofJson? (Json.recordOf document.properties) = .ok settings) :
    settings.rewritten? table =
      ofJson? (Json.recordOf (document.overwritten table).properties) := by
  -- The settings are what they are written as, and what the properties decode to. Over either
  -- of the two the entries of the table account for the same slots.
  have written := rewritten?_nil (settles_of_ofJson? stored decodes)
  rw [rewritten?_eq, Json.orderAmong_nil] at written
  rw [ofJson?, decoder_eq, Json.recordOf] at decodes
  rw [rewritten?_eq, ofJson?, decoder_eq, Json.recordOf]
  exact slots_makeUp.decodeValue_over (Json.rising_orderMembers _).nodup_names
    (Json.rising_orderMembers _).nodup_names
    (Json.rising_orderAmong (Json.rising_orderMembers _) _).nodup_names
    (Json.rising_orderMembers _).nodup_names written decodes
    (fun slot _ => find?_rewritten distinct settings slot.name)
    (fun slot _ => find?_overwritten distinct stored slot.name)

end Tables

theorem member?_toJson {slot : Slot Settings} (member : slot ∈ slots) (settings : Settings) :
    settings.toJson.member? slot.name = some (slot.encode (slot.get settings)) := by
  rw [toJson_eq]
  exact slots_makeUp.find?_written member settings

section Results

variable (stored : table.IsStorable) {result : Settings}
  (written : settings.rewritten? table = .ok result)

include stored written

/-- What the table names is as it says, and what it does not name is as it was. -/
theorem member?_of_rewritten? (settles : ∀ slot ∈ slots, slot.Settles settings) {key : String}
    (known : key ∈ keys) :
    result.toJson.member? key = (Table.find? key table).or (settings.toJson.member? key) := by
  obtain ⟨slot, member, rfl⟩ := List.mem_map.mp known
  rw [rewritten?_eq] at written
  have reads := (slots_makeUp.decodeValue_eq_ok
    (Json.rising_orderAmong (Json.rising_orderMembers _) _).nodup_names).mp written slot member
  rw [find?_rewritten stored.distinct, slots_makeUp.find?_written member] at reads
  rw [member?_toJson member, member?_toJson member]
  cases found : Table.find? slot.name table with
  | some json =>
      rw [found] at reads
      have ordered : json.IsOrdered := stored.ordered _ (Table.mem_of_find? found)
      exact congrArg some ((slots_makeUp.lawful slot member).faithful ordered reads)
  | none =>
      rw [found] at reads
      have same : Except.ok (slot.get settings) = Except.ok (slot.get result) :=
        (settles slot member).symm.trans reads
      rw [Except.ok.inj same]
      rfl

theorem settles_of_rewritten? : ∀ slot ∈ slots, slot.Settles result := by
  rw [rewritten?_eq] at written
  refine slots_makeUp.settles_of_decodeValue
    (Json.rising_orderAmong (Json.rising_orderMembers _) _).nodup_names ?_ usual_settles written
  intro entry member
  rcases Json.mem_of_mem_orderAmong member with before | entered
  · obtain ⟨slot, belongs, rfl⟩ := List.mem_map.mp (Json.mem_of_mem_orderMembers before)
    exact (slots_makeUp.lawful slot belongs).orderly _
  · exact stored.ordered entry entered

/-- A table that is written over the settings it gave gives them again. -/
theorem rewritten?_twice : result.rewritten? table = .ok result := by
  have again := rewritten?_nil (settles_of_rewritten? stored written)
  rw [rewritten?_eq, Json.orderAmong_nil] at again
  rw [rewritten?_eq] at written ⊢
  refine (slots_makeUp.decodeValue_over (Json.rising_orderMembers _).nodup_names
    (Json.rising_orderAmong (Json.rising_orderMembers _) _).nodup_names
    (Json.rising_orderAmong (Json.rising_orderMembers _) _).nodup_names
    (Json.rising_orderAmong (Json.rising_orderMembers _) _).nodup_names again written
    (fun slot _ => find?_rewritten stored.distinct result slot.name) fun slot _ => ?_).trans written
  rw [find?_rewritten stored.distinct, ← Option.or_assoc, Option.or_self]

end Results

/-- Members with other names than those of settings change nothing. -/
theorem rewritten?_filter (distinct : table.keys.Nodup)
    (settles : ∀ slot ∈ slots, slot.Settles settings) :
    settings.rewritten? (table.filter fun entry => keys.contains entry.1) =
      settings.rewritten? table := by
  have again := rewritten?_nil settles
  rw [rewritten?_eq, Json.orderAmong_nil] at again
  have fewer : Table.keys (table.filter fun entry => keys.contains entry.1) |>.Nodup :=
    distinct.sublist (List.filter_sublist.map _)
  rw [rewritten?_eq, rewritten?_eq]
  refine slots_makeUp.decodeValue_over (Json.rising_orderMembers _).nodup_names
    (Json.rising_orderMembers _).nodup_names
    (Json.rising_orderAmong (Json.rising_orderMembers _) _).nodup_names
    (Json.rising_orderAmong (Json.rising_orderMembers _) _).nodup_names again again
    (fun slot member => ?_) fun slot _ => find?_rewritten distinct settings slot.name
  rw [find?_rewritten fewer, Table.find?_filter]
  exact List.contains_iff_mem.mpr (List.mem_map_of_mem member)

theorem ofDocument_eq {document : Document α}
    (decodes : ofJson? (Json.recordOf document.properties) = .ok settings) :
    ofDocument document = settings := by
  rw [ofDocument, decodes]

end Settings

/-! ### Tables of a configuration -/

namespace Toml

mutual

theorem isOrdered_settled : ∀ {value settled : Json}, settled? value = some settled →
    settled.IsOrdered
  | .list items, settled, same => by
      rw [settled?, Option.map_eq_some_iff] at same
      obtain ⟨values, each, rfl⟩ := same
      exact itemsOrdered_settled each
  | .record members, settled, same => by
      rw [settled?] at same
      split at same
      case h_1 =>
        obtain ⟨moment, _, rfl⟩ := Option.map_eq_some_iff.mp same
        exact ⟨List.pairwise_singleton _ _, trivial, trivial⟩
      case h_2 =>
        obtain ⟨values, each, rfl⟩ := Option.map_eq_some_iff.mp same
        exact Json.isOrdered_recordOf (membersOrdered_settled each)
  | .null, _, same => by
      cases same
      exact trivial
  | .flag _, _, same => by
      cases same
      exact trivial
  | .number _, _, same => by
      cases same
      exact trivial
  | .text _, _, same => by
      cases same
      exact trivial

theorem itemsOrdered_settled : ∀ {items settled : List Json}, settledItems? items = some settled →
    Json.ItemsOrdered settled
  | [], _, same => by
      cases same
      exact trivial
  | item :: rest, _, same => by
      rw [settledItems?] at same
      obtain ⟨first, own, same⟩ := Option.bind_eq_some_iff.mp same
      obtain ⟨others, later, same⟩ := Option.bind_eq_some_iff.mp same
      cases same
      exact ⟨isOrdered_settled own, itemsOrdered_settled later⟩

theorem membersOrdered_settled : ∀ {members settled : List (String × Json)},
    settledMembers? members = some settled → Json.MembersOrdered settled
  | [], _, same => by
      cases same
      exact trivial
  | (name, value) :: rest, _, same => by
      rw [settledMembers?] at same
      obtain ⟨first, own, same⟩ := Option.bind_eq_some_iff.mp same
      obtain ⟨others, later, same⟩ := Option.bind_eq_some_iff.mp same
      cases same
      exact ⟨isOrdered_settled own, membersOrdered_settled later⟩

end

end Toml

namespace Configuration

/-- The settings in a configuration that has been read have different names, and the
records in them are in order. -/
theorem isStorable_of_ofText? {source : String} {configuration : Configuration}
    (read : ofText? source = some configuration) : Table.IsStorable configuration.settings := by
  obtain ⟨table, _, rest⟩ := Option.bind_eq_some_iff.mp read
  obtain ⟨manifest, _, rest⟩ := Option.bind_eq_some_iff.mp rest
  obtain ⟨settings, stated, same⟩ := Option.bind_eq_some_iff.mp rest
  cases same
  rw [settingsOf?] at stated
  split at stated
  case h_1 =>
    cases stated
    exact ⟨List.nodup_nil, List.forall_mem_nil _⟩
  case h_2 members _ =>
    obtain ⟨settled, each, rfl⟩ := Option.map_eq_some_iff.mp stated
    refine ⟨(Json.rising_orderMembers settled).nodup_names, fun entry member => ?_⟩
    exact Json.membersOrdered_iff.mp (Toml.membersOrdered_settled each) entry
      (Json.mem_of_mem_orderMembers member)
  case h_3 => cases stated

open Settings in
/-- A configuration over the settings of a document does what its table does over the
properties of the document, where these can be read: it is accepted for the same tables
and gives the same settings. The names in the table win, the others are as they were,
unknown names and a second time change nothing. -/
theorem apply_ofDocument {document : Document α} {configuration : Configuration}
    {settings : Settings} (stored : document.properties.IsStorable)
    (decodes : ofJson? (Json.recordOf document.properties) = .ok settings)
    (table : Table.IsStorable configuration.settings) :
    configuration.apply (ofDocument document) =
        ofJson? (Json.recordOf (document.overwritten configuration.settings).properties) ∧
      configuration.apply (ofDocument document) = settings.rewritten? configuration.settings ∧
      (∀ result, configuration.apply (ofDocument document) = .ok result → ∀ key ∈ keys,
        result.toJson.member? key =
          (Table.find? key configuration.settings).or (settings.toJson.member? key)) ∧
      { configuration with
          settings := configuration.settings.filter fun entry => keys.contains entry.1 }.apply
        (ofDocument document) = configuration.apply (ofDocument document) ∧
      (configuration.apply (ofDocument document)).bind configuration.apply =
        configuration.apply (ofDocument document) := by
  have settles := settles_of_ofJson? stored decodes
  rw [ofDocument_eq decodes, apply_eq_rewritten? settles, apply_eq_rewritten? settles]
  refine ⟨rewritten?_eq_overwritten table.distinct stored decodes, rfl, ?_,
    rewritten?_filter table.distinct settles, ?_⟩
  · exact fun result written key known => member?_of_rewritten? table written settles known
  · cases written : settings.rewritten? configuration.settings with
    | error => rfl
    | ok result =>
        change configuration.apply result = .ok result
        rw [apply_eq_rewritten? (settles_of_rewritten? table written)]
        exact rewritten?_twice table written

def prefixedDocument : Document Rat :=
  ⟨[("widgetPrefix", .text "App"), ("fontMap", .record [("Helvetica", .text "Roboto")]),
      ("version", .number (.whole 3))], [], ⟨[], []⟩⟩

def genConfiguration : Configuration :=
  { settings := [("nullSafe", .flag false), ("theme", .text "dark"), ("widgetPrefix", .text "Gen")] }

open Settings in
theorem apply_ofDocument_prefixedDocument :
    genConfiguration.apply (ofDocument prefixedDocument) =
        .ok { widgetPrefix := "Gen", nullSafe := false, fontMap := [("Helvetica", "Roboto")] } ∧
      genConfiguration.apply (ofDocument prefixedDocument) =
        ofJson? (Json.recordOf
          (prefixedDocument.overwritten genConfiguration.settings).properties) := by
  have stored : prefixedDocument.properties.IsStorable := by
    refine ⟨by decide, List.forall_iff_forall_mem.mp ⟨trivial, ?_, trivial⟩⟩
    exact ⟨List.pairwise_singleton _ _, trivial, trivial⟩
  have decodes : ofJson? (Json.recordOf prefixedDocument.properties) =
      .ok { widgetPrefix := "App", fontMap := [("Helvetica", "Roboto")] } := by
    rfl
  have table : Table.IsStorable genConfiguration.settings :=
    ⟨by decide, List.forall_iff_forall_mem.mp ⟨trivial, trivial, trivial⟩⟩
  exact ⟨by rfl, (apply_ofDocument stored decodes table).1⟩

end Configuration

end DesignExport
