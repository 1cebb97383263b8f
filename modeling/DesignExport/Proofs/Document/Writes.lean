import DesignExport.Document.Property
import DesignExport.Proofs.Document.Lineage
import DesignExport.Proofs.Document.RoundTrip
import DesignExport.Proofs.Table
import Mathlib.Data.List.Lex
set_option autoImplicit false

/-! Writing stored properties. A value that is written for a guid goes to the first layer
with that guid and changes one entry of its table; the rest of the document stays as it was,
and a search for the guid then finds the value.

A place in a document is the way from the top down, told by positions among children. Read as
words, the way to a layer comes before the ways to the layers below it and behind it, which is
the order of a search that goes down first. -/

namespace DesignExport

variable {α : Type}

/-! ### Places -/

namespace Layer

/-- The layer at a place below a layer, which has the empty place itself. -/
def at? : Layer α → List Nat → Option (Layer α)
  | layer, [] => some layer
  | layer, position :: rest => layer.children[position]?.bind fun child => child.at? rest

/-- The layer at a place among some layers. -/
def among? (layers : List (Layer α)) : List Nat → Option (Layer α)
  | [] => none
  | position :: rest => layers[position]?.bind fun layer => layer.at? rest

/-- Nothing that is looked up has the guid. -/
def Lacks (guid : String) (look : List Nat → Option (Layer α)) : Prop :=
  ∀ place layer, look place = some layer → layer.guid ≠ guid

/-- A place with a guid that no place before it has. -/
structure IsFirst (guid : String) (look : List Nat → Option (Layer α)) (place : List Nat)
    (layer : Layer α) : Prop where
  here : look place = some layer
  own : layer.guid = guid
  before : ∀ other, other < place → ∀ earlier, look other = some earlier → earlier.guid ≠ guid

/-- The layer at one place has been edited. Other layers are what they were, but for the
layers below them. -/
structure Edits (edit : LayerInfo α → LayerInfo α) (look after : List Nat → Option (Layer α))
    (place : List Nat) (layer : Layer α) : Prop where
  here : after place = some ⟨edit layer.toLayerInfo, layer.children⟩
  elsewhere : ∀ other, other ≠ place → (after other).map toLayerInfo = (look other).map toLayerInfo

/-! ### Places of a layer and of a list of layers -/

mutual

theorem mem_flatten_of_at? {below : Layer α} : ∀ {layer : Layer α} {place : List Nat},
    layer.at? place = some below → below ∈ layer.flatten
  | ⟨info, children⟩, [], found => by
      rw [flatten]
      exact Option.some.inj found ▸ List.mem_cons_self
  | ⟨info, children⟩, position :: rest, found => by
      have inside : among? children (position :: rest) = some below := found
      rw [flatten]
      exact List.mem_cons_of_mem _ (mem_flattenAll_of_among? inside)

theorem mem_flattenAll_of_among? {below : Layer α} : ∀ {layers : List (Layer α)} {place : List Nat},
    among? layers place = some below → below ∈ flattenAll layers
  | layers, [], found => by cases found
  | [], position :: rest, found => by cases found
  | layer :: layers, 0 :: rest, found => by
      rw [flattenAll]
      exact List.mem_append_left _ (mem_flatten_of_at? found)
  | layer :: layers, (position + 1) :: rest, found => by
      have later : among? layers (position :: rest) = some below := found
      rw [flattenAll]
      exact List.mem_append_right _ (mem_flattenAll_of_among? later)

end

section

variable {guid : String} {info : LayerInfo α} {layer found : Layer α}
  {children layers : List (Layer α)} {place : List Nat}

theorem lacks_nil (guid : String) : Lacks guid (among? ([] : List (Layer α))) := by
  intro place layer found
  cases place with
  | nil => cases found
  | cons => cases found

theorem Lacks.of_children (other : info.guid ≠ guid) (lacks : Lacks guid (among? children)) :
    Lacks guid (at? ⟨info, children⟩) := by
  intro place layer same
  cases place with
  | nil =>
      cases same
      exact other
  | cons position rest => exact lacks (position :: rest) _ same

theorem Lacks.cons (first : Lacks guid layer.at?) (others : Lacks guid (among? layers)) :
    Lacks guid (among? (layer :: layers)) := by
  intro place below same
  match place, same with
  | 0 :: rest, same => exact first _ _ same
  | (position + 1) :: rest, same => exact others (position :: rest) _ same

theorem IsFirst.self (own : layer.guid = guid) : IsFirst guid layer.at? [] layer where
  here := rfl
  own := own
  before := fun _ earlier => absurd earlier (List.not_lt_nil _)

theorem IsFirst.of_children (other : info.guid ≠ guid)
    (first : IsFirst guid (among? children) place found) :
    IsFirst guid (at? ⟨info, children⟩) place found := by
  obtain ⟨here, own, before⟩ := first
  cases place with
  | nil => cases here
  | cons position rest =>
      refine ⟨here, own, fun earlier less layer same => ?_⟩
      cases earlier with
      | nil =>
          cases same
          exact other
      | cons => exact before _ less _ same

theorem IsFirst.head (first : IsFirst guid layer.at? place found) :
    IsFirst guid (among? (layer :: layers)) (0 :: place) found := by
  refine ⟨first.here, first.own, fun earlier less before same => ?_⟩
  match earlier, less, same with
  | 0 :: rest, less, same =>
      rcases List.cons_lt_cons_iff.mp less with lower | ⟨_, later⟩
      · exact absurd lower (Nat.lt_irrefl 0)
      · exact first.before _ later _ same
  | (position + 1) :: rest, less, _ =>
      rcases List.cons_lt_cons_iff.mp less with lower | ⟨same, _⟩
      · exact absurd lower (Nat.not_lt_zero _)
      · cases same

/-- The place of a layer once there is one more in front of all. -/
def moved : List Nat → List Nat
  | [] => []
  | position :: rest => (position + 1) :: rest

theorem IsFirst.tail (lacks : Lacks guid layer.at?)
    (first : IsFirst guid (among? layers) place found) :
    IsFirst guid (among? (layer :: layers)) (moved place) found := by
  obtain ⟨here, own, before⟩ := first
  cases place with
  | nil => cases here
  | cons position rest =>
      refine ⟨here, own, fun earlier less below same => ?_⟩
      match earlier, less, same with
      | 0 :: others, _, same => exact lacks _ _ same
      | (other + 1) :: others, less, same =>
          refine before (other :: others) ?_ _ same
          rcases List.cons_lt_cons_iff.mp less with lower | ⟨equal, later⟩
          · exact List.cons_lt_cons_iff.mpr (Or.inl (Nat.lt_of_succ_lt_succ lower))
          · exact List.cons_lt_cons_iff.mpr (Or.inr ⟨Nat.succ.inj equal, later⟩)

theorem IsFirst.unique {look : List Nat → Option (Layer α)} {other : List Nat} {second : Layer α}
    (first : IsFirst guid look place found) (again : IsFirst guid look other second) :
    place = other ∧ found = second := by
  have same : place = other := by
    rcases lt_trichotomy place other with less | same | less
    · exact absurd first.own (again.before _ less _ first.here)
    · exact same
    · exact absurd again.own (first.before _ less _ again.here)
  subst same
  exact ⟨rfl, Option.some.inj (first.here.symm.trans again.here)⟩

end

/-! ### Searching -/

mutual

theorem lacks_of_find? {guid : String} : ∀ {layer : Layer α},
    find? guid layer = none → Lacks guid layer.at?
  | ⟨info, children⟩, search => by
      rw [find?] at search
      split at search
      case isTrue => cases search
      case isFalse other => exact (lacks_of_findAmong? search).of_children other

theorem lacks_of_findAmong? {guid : String} : ∀ {layers : List (Layer α)},
    findAmong? guid layers = none → Lacks guid (among? layers)
  | [], _ => lacks_nil guid
  | layer :: rest, search => by
      rw [findAmong?] at search
      split at search
      case h_1 => cases search
      case h_2 first => exact (lacks_of_find? first).cons (lacks_of_findAmong? search)

end

mutual

theorem isFirst_of_find? {guid : String} {found : Layer α} : ∀ {layer : Layer α},
    find? guid layer = some found → ∃ place, IsFirst guid layer.at? place found
  | ⟨info, children⟩, search => by
      rw [find?] at search
      split at search
      case isTrue own =>
        cases search
        exact ⟨[], .self own⟩
      case isFalse other =>
        obtain ⟨place, first⟩ := isFirst_of_findAmong? search
        exact ⟨place, first.of_children other⟩

theorem isFirst_of_findAmong? {guid : String} {found : Layer α} : ∀ {layers : List (Layer α)},
    findAmong? guid layers = some found → ∃ place, IsFirst guid (among? layers) place found
  | [], search => by
      rw [findAmong?] at search
      cases search
  | layer :: rest, search => by
      rw [findAmong?] at search
      split at search
      case h_1 own first =>
        cases search
        obtain ⟨place, isFirst⟩ := isFirst_of_find? first
        exact ⟨0 :: place, isFirst.head⟩
      case h_2 missed =>
        obtain ⟨place, isFirst⟩ := isFirst_of_findAmong? search
        exact ⟨moved place, isFirst.tail (lacks_of_find? missed)⟩

end

/-- What a search finds is the first layer with the guid. -/
theorem findAmong?_of_isFirst {guid : String} {layers : List (Layer α)} {place : List Nat}
    {layer : Layer α} (first : IsFirst guid (among? layers) place layer) :
    findAmong? guid layers = some layer := by
  cases search : findAmong? guid layers with
  | none => exact absurd first.own (lacks_of_findAmong? search place layer first.here)
  | some found =>
      obtain ⟨other, again⟩ := isFirst_of_findAmong? search
      rw [(first.unique again).2]

/-! ### Changing -/

section

variable {edit : LayerInfo α → LayerInfo α} {info : LayerInfo α} {layer changed found : Layer α}
  {children layers others : List (Layer α)} {place : List Nat}

theorem Edits.self (edit : LayerInfo α → LayerInfo α) (info : LayerInfo α)
    (children : List (Layer α)) :
    Edits edit (at? ⟨info, children⟩) (at? ⟨edit info, children⟩) [] ⟨info, children⟩ where
  here := rfl
  elsewhere := by
    intro other different
    cases other with
    | nil => exact absurd rfl different
    | cons => rfl

theorem Edits.of_children (edits : Edits edit (among? children) (among? others) place found) :
    Edits edit (at? ⟨info, children⟩) (at? ⟨info, others⟩) place found := by
  obtain ⟨here, elsewhere⟩ := edits
  cases place with
  | nil => cases here
  | cons position rest =>
      refine ⟨here, fun other different => ?_⟩
      cases other with
      | nil => rfl
      | cons => exact elsewhere _ different

theorem Edits.head (edits : Edits edit layer.at? changed.at? place found) :
    Edits edit (among? (layer :: layers)) (among? (changed :: layers)) (0 :: place) found := by
  refine ⟨edits.here, fun other different => ?_⟩
  match other, different with
  | [], _ => rfl
  | 0 :: rest, different => exact edits.elsewhere _ fun same => different (same ▸ rfl)
  | (position + 1) :: rest, _ => rfl

theorem Edits.tail (edits : Edits edit (among? layers) (among? others) place found) :
    Edits edit (among? (layer :: layers)) (among? (layer :: others)) (moved place) found := by
  obtain ⟨here, elsewhere⟩ := edits
  cases place with
  | nil => cases here
  | cons position rest =>
      refine ⟨here, fun other different => ?_⟩
      match other, different with
      | [], _ => rfl
      | 0 :: _, _ => rfl
      | (next + 1) :: others, different =>
          exact elsewhere (next :: others) fun same => different (congrArg moved same)

end

mutual

theorem lacks_of_change? {guid : String} {edit : LayerInfo α → LayerInfo α} :
    ∀ {layer : Layer α}, change? guid edit layer = none → Lacks guid layer.at?
  | ⟨info, children⟩, search => by
      rw [change?] at search
      split at search
      case isTrue => cases search
      case isFalse other =>
        exact (lacks_of_changeAmong? (Option.map_eq_none_iff.mp search)).of_children other

theorem lacks_of_changeAmong? {guid : String} {edit : LayerInfo α → LayerInfo α} :
    ∀ {layers : List (Layer α)}, changeAmong? guid edit layers = none → Lacks guid (among? layers)
  | [], _ => lacks_nil guid
  | layer :: rest, search => by
      rw [changeAmong?] at search
      split at search
      case h_1 => cases search
      case h_2 first =>
        exact (lacks_of_change? first).cons
          (lacks_of_changeAmong? (Option.map_eq_none_iff.mp search))

end

mutual

/-- A change edits the first layer with the guid and nothing else. -/
theorem edits_of_change? {guid : String} {edit : LayerInfo α → LayerInfo α} {changed : Layer α} :
    ∀ {layer : Layer α}, change? guid edit layer = some changed →
      ∃ place found, IsFirst guid layer.at? place found ∧ Edits edit layer.at? changed.at? place found
  | ⟨info, children⟩, change => by
      rw [change?] at change
      split at change
      case isTrue own =>
        cases change
        exact ⟨[], _, .self own, .self edit info children⟩
      case isFalse other =>
        obtain ⟨others, below, rfl⟩ := Option.map_eq_some_iff.mp change
        obtain ⟨place, found, first, edits⟩ := edits_of_changeAmong? below
        exact ⟨place, found, first.of_children other, edits.of_children⟩

theorem edits_of_changeAmong? {guid : String} {edit : LayerInfo α → LayerInfo α}
    {changed : List (Layer α)} : ∀ {layers : List (Layer α)},
      changeAmong? guid edit layers = some changed →
        ∃ place found, IsFirst guid (among? layers) place found ∧
          Edits edit (among? layers) (among? changed) place found
  | [], change => by
      rw [changeAmong?] at change
      cases change
  | layer :: rest, change => by
      rw [changeAmong?] at change
      split at change
      case h_1 own here =>
        cases change
        obtain ⟨place, found, first, edits⟩ := edits_of_change? here
        exact ⟨0 :: place, found, first.head, edits.head⟩
      case h_2 missed =>
        obtain ⟨others, later, rfl⟩ := Option.map_eq_some_iff.mp change
        obtain ⟨place, found, first, edits⟩ := edits_of_changeAmong? later
        exact ⟨moved place, found, first.tail (lacks_of_change? missed), edits.tail⟩

end

/-- An edit that keeps the guid leaves the first layer with the guid where it is. -/
theorem IsFirst.edited {guid : String} {edit : LayerInfo α → LayerInfo α}
    {look after : List Nat → Option (Layer α)} {place : List Nat} {layer : Layer α}
    (first : IsFirst guid look place layer) (edits : Edits edit look after place layer)
    (keeps : (edit layer.toLayerInfo).guid = layer.guid) :
    IsFirst guid after place ⟨edit layer.toLayerInfo, layer.children⟩ where
  here := edits.here
  own := keeps.trans first.own
  before := by
    intro other less earlier found
    have same := edits.elsewhere other (ne_of_lt less)
    rw [found, Option.map_some] at same
    obtain ⟨known, lookup, info⟩ := Option.map_eq_some_iff.mp same.symm
    rw [← info]
    exact first.before other less known lookup

end Layer

/-! ### Entries -/

/-- One layer is another but for one entry of its table. -/
structure LayerInfo.Overwrites (property : Property) (value : Json) (layer after : LayerInfo α) :
    Prop where
  fields : after = { layer with properties := after.properties }
  others : after.properties.filter (·.1 ≠ property.key) =
    layer.properties.filter (·.1 ≠ property.key)
  entry : after.property? property = if value.isNull then none else some value

namespace LayerInfo

theorem overwrites_setProperty {layer : LayerInfo α} (distinct : layer.properties.keys.Nodup)
    (property : Property) (value : Json) :
    Overwrites property value layer (layer.setProperty property value) where
  fields := rfl
  others := by
    unfold setProperty
    dsimp only
    split
    · exact Table.filter_erase _
    · exact Table.filter_insert _
  entry := by
    unfold setProperty property?
    dsimp only
    split
    · exact Table.find?_erase_self distinct
    · exact Table.find?_insert_self _ _ _

theorem nodup_keys_setProperty {layer : LayerInfo α} (distinct : layer.properties.keys.Nodup)
    (property : Property) (value : Json) :
    (layer.setProperty property value).properties.keys.Nodup := by
  unfold setProperty
  dsimp only
  split
  · exact distinct.sublist (Table.keys_erase_sublist _ _)
  · exact Table.nodup_keys_insert distinct

end LayerInfo

namespace Document

/-- The layer at a place of a document. -/
def at? (document : Document α) : List Nat → Option (Layer α) :=
  Layer.among? document.children

/-- The stored properties of each layer have different keys. -/
def HasDistinctEntries (document : Document α) : Prop :=
  ∀ place layer, document.at? place = some layer → layer.properties.keys.Nodup

/-- A document is another but for the fields of the layer at one place. -/
structure DiffersAt (document written : Document α) (place : List Nat) (layer after : Layer α) :
    Prop where
  properties : written.properties = document.properties
  assets : written.assets = document.assets
  here : written.at? place = some after
  children : after.children = layer.children
  elsewhere : ∀ other, other ≠ place →
    (written.at? other).map Layer.toLayerInfo = (document.at? other).map Layer.toLayerInfo

theorem hasDistinctEntries_of_flattenAll {document : Document α}
    (distinct : ∀ layer ∈ Layer.flattenAll document.children, layer.properties.keys.Nodup) :
    document.HasDistinctEntries :=
  fun _ layer found => distinct layer (Layer.mem_flattenAll_of_among? found)

/-- A change edits the first layer with the guid, or there is none. -/
theorem change_cases (document : Document α) (guid : String)
    (edit : LayerInfo α → LayerInfo α) :
    (Layer.Lacks guid document.at? ∧ document.change guid edit = document) ∨
      ∃ place layer, Layer.IsFirst guid document.at? place layer ∧
        Layer.Edits edit document.at? (document.change guid edit).at? place layer ∧
        (document.change guid edit).properties = document.properties ∧
        (document.change guid edit).assets = document.assets := by
  unfold change
  cases changed : Layer.changeAmong? guid edit document.children with
  | none => exact Or.inl ⟨Layer.lacks_of_changeAmong? changed, rfl⟩
  | some children =>
      obtain ⟨place, layer, first, edits⟩ := Layer.edits_of_changeAmong? changed
      exact Or.inr ⟨place, layer, first, edits, rfl, rfl⟩

section

variable {document : Document α} (distinct : document.HasDistinctEntries) (guid : String)
  (property : Property) (value : Json)

include distinct

theorem HasDistinctEntries.change :
    (document.change guid fun layer => layer.setProperty property value).HasDistinctEntries := by
  rcases document.change_cases guid (fun layer => layer.setProperty property value) with
    ⟨_, same⟩ | ⟨place, layer, first, edits, _⟩
  · rw [same]
    exact distinct
  · intro other found known
    by_cases here : other = place
    · rw [here, edits.here] at known
      cases known
      exact LayerInfo.nodup_keys_setProperty (distinct place layer first.here) property value
    · have same := edits.elsewhere other here
      rw [known, Option.map_some] at same
      obtain ⟨before, lookup, info⟩ := Option.map_eq_some_iff.mp same.symm
      have keys : found.properties = before.properties := congrArg LayerInfo.properties info.symm
      rw [keys]
      exact distinct other before lookup

/-- A write goes to one entry of the first layer with the guid, where a search for the guid
finds it, and to nothing if no layer has the guid. -/
theorem change_overwrites :
    let written := document.change guid fun layer => layer.setProperty property value
    written.HasDistinctEntries ∧
      ((Layer.Lacks guid document.at? ∧ written = document) ∨
        ∃ place layer after, Layer.IsFirst guid document.at? place layer ∧
          document.DiffersAt written place layer after ∧
          LayerInfo.Overwrites property value layer.toLayerInfo after.toLayerInfo ∧
          written.find? guid = some after) := by
  intro written
  refine ⟨distinct.change guid property value, ?_⟩
  rcases document.change_cases guid (fun layer => layer.setProperty property value) with
    lacks | ⟨place, layer, first, edits, properties, assets⟩
  · exact Or.inl lacks
  · have moved : Layer.IsFirst guid written.at? place
        ⟨layer.toLayerInfo.setProperty property value, layer.children⟩ := first.edited edits rfl
    refine Or.inr ⟨place, layer, _, first, ?_, ?_, Layer.findAmong?_of_isFirst moved⟩
    · exact ⟨properties, assets, edits.here, rfl, edits.elsewhere⟩
    · exact LayerInfo.overwrites_setProperty (distinct place layer first.here) property value

end

/-- The keys of a document that has been read differ, and so they do after any writes. -/
theorem hasDistinctEntries_of_ofText? {source : String} {document : Document Float}
    (accepted : ofText? source = .ok document) (writes : List (String × Property × Json)) :
    (writes.foldl (fun document write =>
      document.change write.1 fun layer => layer.setProperty write.2.1 write.2.2)
        document).HasDistinctEntries := by
  have read : document.HasDistinctEntries :=
    hasDistinctEntries_of_flattenAll fun layer member =>
      ((isStorable_of_ofText? accepted).layers layer member).properties.distinct
  clear accepted
  induction writes generalizing document with
  | nil => exact read
  | cons write rest ih => exact ih (read.change write.1 write.2.1 write.2.2)

/-- A page with three dots of one guid, one below another. -/
def dottedTwins : Document Rat :=
  let dot (name : String) (properties : Table Json) : LayerInfo Rat :=
    { LayerInfo.usual "dot" name .group with properties := properties }
  let entries (callback : String) : Table Json :=
    [("exportMode", .text "inline"), ("tapCallbackName", .text callback), ("note", .flag true)]
  ⟨[], [⟨LayerInfo.usual "page" "Page" .artboard,
    [⟨dot "first" (entries "onFirst"), [⟨dot "inner" (entries "onInner"), []⟩]⟩,
      ⟨dot "second" (entries "onSecond"), []⟩]⟩], ⟨[], []⟩⟩

theorem change_overwrites_dottedTwins :
    let written := dottedTwins.change "dot" fun layer => layer.setProperty .tapCallbackName .null
    dottedTwins.HasDistinctEntries ∧ ¬Layer.Lacks "dot" dottedTwins.at? ∧
      written.HasDistinctEntries ∧
      ((Layer.Lacks "dot" dottedTwins.at? ∧ written = dottedTwins) ∨
        ∃ place layer after, Layer.IsFirst "dot" dottedTwins.at? place layer ∧
          dottedTwins.DiffersAt written place layer after ∧
          LayerInfo.Overwrites .tapCallbackName .null layer.toLayerInfo after.toLayerInfo ∧
          written.find? "dot" = some after) :=
  have distinct : dottedTwins.HasDistinctEntries :=
    hasDistinctEntries_of_flattenAll (by decide +kernel)
  ⟨distinct, fun lacks => lacks [0, 0] _ rfl rfl,
    change_overwrites distinct "dot" .tapCallbackName .null⟩

example :
    (Layer.flattenAll (dottedTwins.change "dot" fun layer =>
      layer.setProperty .tapCallbackName .null).children).map (fun layer => layer.properties.keys) =
    [[], ["exportMode", "note"], ["exportMode", "tapCallbackName", "note"],
      ["exportMode", "tapCallbackName", "note"]] := by
  decide +kernel

end Document

end DesignExport
