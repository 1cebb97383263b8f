import DesignExport.Proofs.Document.Lineage
import DesignExport.Proofs.Document.Restored
set_option autoImplicit false

/-! Documents are restored from what is written of them. A layer is decoded with a bound on the
levels below it, and every value has fewer levels than the one around it. -/

namespace DesignExport

/-! ### Trees of layers -/

theorem Layer.isStorable_each {layers : List (Layer Float)} :
    (∀ layer ∈ layers, layer.IsStorable) ↔
      ∀ below ∈ flattenAll layers, below.toLayerInfo.IsStorable := by
  constructor
  · intro each
    induction layers with
    | nil => exact List.forall_mem_nil _
    | cons first rest ih =>
        obtain ⟨own, later⟩ := List.forall_mem_cons.mp each
        obtain ⟨info, children⟩ := first
        intro below member
        rw [flattenAll, List.mem_append, flatten] at member
        rcases member with inside | after
        · rcases List.mem_cons.mp inside with same | deeper
          · rw [same]
            exact own.1
          · exact own.2 below deeper
        · exact ih later below after
  · intro all layer member
    obtain ⟨info, children⟩ := layer
    refine ⟨all _ (mem_flattenAll_self member), ?_⟩
    intro below inside
    apply all below
    apply mem_flattenAll_trans (mem_flattenAll_self member)
    rw [flatten]
    exact List.mem_cons_of_mem _ inside

namespace Json

theorem depth_le_of_mem_items {item : Json} : ∀ {items : List Json}, item ∈ items →
    (Reading.ofJson item).depth ≤ (Items.ofList items).depth
  | first :: rest, member => by
      rw [Items.ofList, Items.depth]
      rcases List.mem_cons.mp member with same | later
      · rw [same]
        exact Nat.le_max_left _ _
      · exact (depth_le_of_mem_items later).trans (Nat.le_max_right _ _)

theorem depth_le_of_mem_members {name : String} {value : Json} :
    ∀ {members : List (String × Json)}, (name, value) ∈ members →
      (Reading.ofJson value).depth ≤ (Members.ofList members).depth
  | (other, first) :: rest, member => by
      rw [Members.ofList, Members.depth]
      rcases List.mem_cons.mp member with same | later
      · cases same
        exact Nat.le_max_left _ _
      · exact (depth_le_of_mem_members later).trans (Nat.le_max_right _ _)

end Json

namespace Encoding

open DesignExport.Json

theorem layers_eq_map : ∀ layers : List (Layer Float), Encoding.layers layers = layers.map layer
  | [] => rfl
  | first :: rest => by rw [Encoding.layers, layers_eq_map rest, List.map_cons]

theorem names_layerMembers (info : LayerInfo Float) (children : List Json) :
    ((layerMembers info children).map Prod.fst).Nodup := by
  simp only [layerMembers, List.map_cons, List.map_nil]
  decide

/-- Layers inside a layer have fewer levels below them. -/
theorem depth_layer_lt (info : LayerInfo Float) {children : List (Layer Float)}
    {child : Layer Float} (member : child ∈ children) :
    (Reading.ofJson (layer child)).depth < (Reading.ofJson (layer ⟨info, children⟩)).depth := by
  have listed : ("children", Json.list (layers children)) ∈
      orderMembers (layerMembers info (layers children)) := by
    rw [(orderMembers_perm (names_layerMembers info _)).mem_iff]
    simp only [layerMembers, List.mem_cons, true_or, or_true]
  have inside : layer child ∈ layers children := by
    rw [layers_eq_map]
    exact List.mem_map_of_mem member
  have lists := depth_le_of_mem_members listed
  have items := depth_le_of_mem_items inside
  rw [Reading.ofJson, Reading.depth] at lists
  rw [layer, recordOf, Reading.ofJson, Reading.depth]
  omega

end Encoding

namespace Decoding

open DesignExport.Json
open DesignExport.Json.Decoder

theorem rejects_fill (origin : Origin) (value : Fill Float) : fill origin .null ≠ .ok value := nofun

theorem rejects_stroke (origin : Origin) (value : Stroke Float) :
    stroke origin .null ≠ .ok value := nofun

theorem rejects_shadow (origin : Origin) (value : Shadow Float) :
    shadow origin .null ≠ .ok value := nofun

theorem rejects_blur (origin : Origin) (value : Blur Float) : blur origin .null ≠ .ok value := nofun

theorem restores_optionalFill : Restores (Decoder.optional fill) (Encoding.optional Encoding.fill)
    (fun value => ∀ own ∈ value, own.IsStorable) :=
  .optional restores_fill rejects_fill

theorem layerWithin_undoes : ∀ {levels : Nat} {own : Layer Float}, own.IsStorable →
    (Reading.ofJson (Encoding.layer own)).depth < levels →
      ∀ origin, layerWithin levels origin (.ofJson (Encoding.layer own)) = .ok own
  | levels + 1, ⟨info, children⟩, ⟨storable, below⟩, enough, origin => by
      have restored : ∀ child ∈ children, ∀ origin,
          layerWithin levels origin (.ofJson (Encoding.layer child)) = .ok child := by
        intro child member
        have shallower := Encoding.depth_layer_lt info member
        exact layerWithin_undoes (Layer.isStorable_each.mpr below child member) (by omega)
      have restoredAll : ∀ origin, Decoder.list (layerWithin levels) origin
          (.ofJson (.list (Encoding.layers children))) = .ok children := by
        intro origin
        rw [Encoding.layers_eq_map]
        exact items_undoes fun child member => restored child member origin
      rw [Encoding.layer]
      exact record_undoes
        [ .stored restores_text trivial, .stored restores_text trivial,
          .stored restores_flag trivial, .stored restores_kind storable.kind,
          .stored restores_flag trivial, .stored restores_affine storable.transform,
          .stored restores_rect storable.localBounds,
          .stored restores_float storable.rotation, .stored restores_flag trivial,
          .stored restores_float storable.opacity,
          .stored restores_optionalFill storable.fill, .stored restores_flag trivial,
          .stored (.optional restores_stroke rejects_stroke) storable.stroke,
          .stored (.optional restores_shadow rejects_shadow) storable.shadow,
          .stored (.optional restores_blur rejects_blur) storable.blur,
          .stored restores_arrangement storable.arrangement,
          .stored restores_flag trivial,
          .stored (.list restores_interaction) storable.interactions,
          .stored restores_flag trivial, .stored restores_table storable.properties,
          .of restoredAll ]
        (by simp) origin

theorem isStorable_usualLayer : (Layer.usual "" "" .unknown : Layer Float).IsStorable where
  left :=
    { kind := trivial
      transform := isStorable_identity
      localBounds := ⟨isFinite_zero, isFinite_zero, isFinite_zero, isFinite_zero⟩
      rotation := isFinite_zero
      opacity := isFinite_one
      fill := nofun
      stroke := nofun
      shadow := nofun
      blur := nofun
      arrangement := isStorable_plain
      interactions := List.forall_mem_nil _
      properties := ⟨List.nodup_nil, List.forall_mem_nil _⟩ }
  right := List.forall_mem_nil _

theorem layerWithin_yields : ∀ {levels : Nat} {origin : Origin} {reading : Reading}
    {own : Layer Float}, reading.IsFinite → layerWithin levels origin reading = .ok own →
      own.IsStorable
  | 0, _, _, _, _, decoded => by cases decoded
  | levels + 1, _, _, _, finite, decoded => by
      have below : ∀ {origin reading value}, reading.IsFinite →
          Decoder.list (layerWithin levels) origin reading = .ok value →
            ∀ child ∈ value, child.IsStorable := list_yields layerWithin_yields
      exact record_yields finite decoded isStorable_usualLayer
        ⟨Field.keeps restores_text fun kept _ => ⟨{ kept.1 with }, kept.2⟩,
          Field.keeps restores_text fun kept _ => ⟨{ kept.1 with }, kept.2⟩,
          Field.keeps restores_flag fun kept _ => ⟨{ kept.1 with }, kept.2⟩,
          Field.keeps restores_kind fun kept kind => ⟨{ kept.1 with kind }, kept.2⟩,
          Field.keeps restores_flag fun kept _ => ⟨{ kept.1 with }, kept.2⟩,
          Field.keeps restores_affine
            fun kept transform => ⟨{ kept.1 with transform }, kept.2⟩,
          Field.keeps restores_rect
            fun kept localBounds => ⟨{ kept.1 with localBounds }, kept.2⟩,
          Field.keeps restores_float fun kept rotation => ⟨{ kept.1 with rotation }, kept.2⟩,
          Field.keeps restores_flag fun kept _ => ⟨{ kept.1 with }, kept.2⟩,
          Field.keeps restores_float fun kept opacity => ⟨{ kept.1 with opacity }, kept.2⟩,
          Field.keeps restores_optionalFill fun kept fill => ⟨{ kept.1 with fill }, kept.2⟩,
          Field.keeps restores_flag fun kept _ => ⟨{ kept.1 with }, kept.2⟩,
          Field.keeps (.optional restores_stroke rejects_stroke)
            fun kept stroke => ⟨{ kept.1 with stroke }, kept.2⟩,
          Field.keeps (.optional restores_shadow rejects_shadow)
            fun kept shadow => ⟨{ kept.1 with shadow }, kept.2⟩,
          Field.keeps (.optional restores_blur rejects_blur)
            fun kept blur => ⟨{ kept.1 with blur }, kept.2⟩,
          Field.keeps restores_arrangement
            fun kept arrangement => ⟨{ kept.1 with arrangement }, kept.2⟩,
          Field.keeps restores_flag fun kept _ => ⟨{ kept.1 with }, kept.2⟩,
          Field.keeps (.list restores_interaction)
            fun kept interactions => ⟨{ kept.1 with interactions }, kept.2⟩,
          Field.keeps restores_flag fun kept _ => ⟨{ kept.1 with }, kept.2⟩,
          Field.keeps restores_table
            fun kept properties => ⟨{ kept.1 with properties }, kept.2⟩,
          Field.keeps_of_yields below fun kept children => ⟨kept.1, Layer.isStorable_each.mp children⟩⟩

theorem restores_layer : Restores layer Encoding.layer Layer.IsStorable where
  undoes storable := layerWithin_undoes storable (Nat.lt_succ_self _)
  yields := layerWithin_yields

/-! ### Documents -/

theorem restores_colorAsset : Restores colorAsset Encoding.colorAsset ColorAsset.IsStorable where
  undoes storable origin :=
    record_undoes
      [ .stored restores_optionalText (fun _ _ => trivial),
        .stored restores_optionalColor (fun _ _ => trivial),
        .stored restores_optionalFill storable ]
      (by simp) origin
  yields finite decoded :=
    record_yields finite decoded nofun
      ⟨Field.keeps restores_optionalText fun kept _ => kept,
        Field.keeps restores_optionalColor fun kept _ => kept,
        Field.keeps restores_optionalFill fun _ gradient => gradient⟩

theorem restores_textStyleAsset : Restores textStyleAsset Encoding.textStyleAsset
    TextStyleAsset.IsStorable where
  undoes storable origin :=
    record_undoes
      [ .stored restores_optionalText (fun _ _ => trivial),
        .stored restores_textRun storable ]
      (by simp) origin
  yields finite decoded :=
    record_yields finite decoded isStorable_usualRun
      ⟨Field.keeps restores_optionalText fun kept _ => kept,
        Field.keeps restores_textRun fun _ style => style⟩

theorem restores_assets : Restores assets Encoding.assets Assets.IsStorable where
  undoes storable origin :=
    record_undoes
      [ .stored (.list restores_colorAsset) storable.colors,
        .stored (.list restores_textStyleAsset) storable.textStyles ]
      (by simp) origin
  yields finite decoded :=
    record_yields finite decoded ⟨List.forall_mem_nil _, List.forall_mem_nil _⟩
      ⟨Field.keeps (.list restores_colorAsset) fun kept colors => { kept with colors },
        Field.keeps (.list restores_textStyleAsset)
          fun kept textStyles => { kept with textStyles }⟩

theorem isStorable_empty : (Document.empty : Document Float).IsStorable where
  properties := ⟨List.nodup_nil, List.forall_mem_nil _⟩
  layers := List.forall_mem_nil _
  assets := ⟨List.forall_mem_nil _, List.forall_mem_nil _⟩

theorem restores_document : Restores document Encoding.document Document.IsStorable where
  undoes {own} storable origin := by
    have layers : ∀ origin, Decoder.list layer origin (.ofJson (.list (Encoding.layers own.children)))
        = .ok own.children := by
      rw [Encoding.layers_eq_map]
      exact Restores.undoes (.list restores_layer) (Layer.isStorable_each.mpr storable.layers)
    exact record_undoes
      [ .stored restores_table storable.properties, .of layers,
        .stored restores_assets storable.assets ]
      (by simp) origin
  yields finite decoded :=
    record_yields finite decoded isStorable_empty
      ⟨Field.keeps restores_table fun kept properties => { kept with properties },
        Field.keeps (.list restores_layer)
          fun kept layers => { kept with layers := Layer.isStorable_each.mp layers },
        Field.keeps restores_assets fun kept assets => { kept with assets }⟩

end Decoding

/-! ### Orders of stored properties -/

/-- An order for tables with different keys, such as the order of entry or that of the names. -/
structure Table.Reorders (order : Table Json → Table Json) : Prop where
  perm : ∀ {table}, table.keys.Nodup → (order table).Perm table
  settles : ∀ {table}, table.keys.Nodup → order (order table) = order table

theorem Table.reorders_id : Table.Reorders id where
  perm _ := List.Perm.refl _
  settles _ := rfl

theorem Table.reorders_orderMembers : Table.Reorders Json.orderMembers where
  perm distinct := Json.orderMembers_perm distinct
  settles _ := Json.orderMembers_of_rising (Json.rising_orderMembers _)

variable {order : Table Json → Table Json}

theorem Table.IsStorable.reordered {table : Table Json} (storable : table.IsStorable)
    (reorders : Table.Reorders order) : Table.IsStorable (order table) where
  distinct := ((reorders.perm storable.distinct).map Prod.fst).nodup_iff.mpr storable.distinct
  ordered entry member := storable.ordered entry ((reorders.perm storable.distinct).mem_iff.mp member)

def LayerInfo.reordered (order : Table Json → Table Json) (layer : LayerInfo Float) :
    LayerInfo Float :=
  { layer with properties := order layer.properties }

mutual

def Layer.reordered (order : Table Json → Table Json) : Layer Float → Layer Float
  | ⟨info, children⟩ => ⟨info.reordered order, Layer.reorderedAll order children⟩

def Layer.reorderedAll (order : Table Json → Table Json) : List (Layer Float) → List (Layer Float)
  | [] => []
  | first :: rest => first.reordered order :: Layer.reorderedAll order rest

end

/-- The document with the stored properties of every layer in another order. -/
def Document.reordered (order : Table Json → Table Json) (document : Document Float) :
    Document Float :=
  { document with
    properties := order document.properties
    children := Layer.reorderedAll order document.children }

namespace Layer

theorem toLayerInfo_reordered (layer : Layer Float) :
    (layer.reordered order).toLayerInfo = layer.toLayerInfo.reordered order := by
  obtain ⟨info, children⟩ := layer
  rw [reordered]

mutual

theorem flatten_reordered : ∀ layer : Layer Float,
    (layer.reordered order).flatten = layer.flatten.map (reordered order)
  | ⟨info, children⟩ => by
      rw [reordered, flatten, flatten, flattenAll_reorderedAll children, List.map_cons, reordered]

theorem flattenAll_reorderedAll : ∀ layers : List (Layer Float),
    flattenAll (reorderedAll order layers) = (flattenAll layers).map (reordered order)
  | [] => by rw [reorderedAll, flattenAll, List.map_nil]
  | first :: rest => by
      rw [reorderedAll, flattenAll, flattenAll, flatten_reordered first,
        flattenAll_reorderedAll rest, List.map_append]

end

mutual

theorem reordered_reordered (reorders : Table.Reorders order) : ∀ {layer : Layer Float},
    (∀ below ∈ layer.flatten, below.toLayerInfo.IsStorable) →
      (layer.reordered order).reordered order = layer.reordered order
  | ⟨info, children⟩, storable => by
      rw [flatten] at storable
      obtain ⟨own, below⟩ := List.forall_mem_cons.mp storable
      have settled := reorders.settles own.properties.distinct
      rw [reordered, reordered, reorderedAll_reorderedAll reorders below, LayerInfo.reordered,
        LayerInfo.reordered, settled]

theorem reorderedAll_reorderedAll (reorders : Table.Reorders order) : ∀ {layers : List (Layer Float)},
    (∀ below ∈ flattenAll layers, below.toLayerInfo.IsStorable) →
      reorderedAll order (reorderedAll order layers) = reorderedAll order layers
  | [], _ => by rw [reorderedAll, reorderedAll]
  | first :: rest, storable => by
      rw [flattenAll] at storable
      obtain ⟨own, later⟩ := List.forall_mem_append.mp storable
      rw [reorderedAll, reorderedAll, reordered_reordered reorders own,
        reorderedAll_reorderedAll reorders later]

end

end Layer

theorem LayerInfo.isStorable_usual (guid name : String) {kind : LayerKind Float}
    (storable : kind.IsStorable) : (LayerInfo.usual guid name kind).IsStorable :=
  { Decoding.isStorable_usualLayer.1 with kind := storable }

theorem LayerInfo.IsStorable.painted {layer : LayerInfo Float} (storable : layer.IsStorable)
    {fill : Fill Float} {opacity : Float} (filled : fill.IsStorable)
    (finite : opacity.isFinite = true) :
    LayerInfo.IsStorable { layer with fill := some fill, opacity } where
  __ := storable
  fill _ same := Option.some.inj same ▸ filled
  opacity := finite

theorem LayerInfo.IsStorable.storing {layer : LayerInfo Float} (storable : layer.IsStorable)
    {properties : Table Json} (kept : properties.IsStorable) :
    LayerInfo.IsStorable { layer with properties } where
  __ := storable
  properties := kept

namespace Document

theorem IsStorable.reordered {document : Document Float} (storable : document.IsStorable)
    (reorders : Table.Reorders order) : (document.reordered order).IsStorable where
  properties := storable.properties.reordered reorders
  layers := by
    intro layer member
    rw [Document.reordered, Layer.flattenAll_reorderedAll] at member
    obtain ⟨before, belongs, rfl⟩ := List.mem_map.mp member
    have own := storable.layers before belongs
    rw [Layer.toLayerInfo_reordered]
    exact { own with properties := own.properties.reordered reorders }
  assets := storable.assets

theorem reordered_reordered {document : Document Float} (storable : document.IsStorable)
    (reorders : Table.Reorders order) :
    (document.reordered order).reordered order = document.reordered order := by
  simp only [Document.reordered, reorders.settles storable.properties.distinct,
    Layer.reorderedAll_reorderedAll reorders storable.layers]

theorem decode_encode {document : Document Float} (storable : document.IsStorable) :
    Json.decodeValue Decoding.document (Encoding.document document) = .ok document :=
  Json.Decoder.Restores.undoes Decoding.restores_document storable .value

theorem isStorable_of_ofText? {source : String} {document : Document Float}
    (accepted : ofText? source = .ok document) : document.IsStorable := by
  have finite := Json.isFinite_scan source
  rw [ofText?, Json.decodeText] at accepted
  generalize Json.scan source = scanned at finite accepted
  obtain ⟨reading, rest⟩ := scanned
  dsimp only at accepted
  split at accepted
  case h_1 => cases accepted
  case h_2 own decoded =>
    obtain ⟨_, _, rfl⟩ := Json.exists_of_map_eq_ok accepted
    exact Json.Decoder.Restores.yields Decoding.restores_document finite decoded

/-- Writing, reading and writing again gives what was written first. -/
theorem encode_decode_encode {document : Document Float} (storable : document.IsStorable)
    (reorders : Table.Reorders order) :
    (Json.decodeValue Decoding.document (Encoding.document (document.reordered order))).map
        (fun again => Encoding.document (again.reordered order)) =
      .ok (Encoding.document (document.reordered order)) := by
  rw [decode_encode (storable.reordered reorders)]
  change Except.ok (Encoding.document ((document.reordered order).reordered order)) = _
  rw [reordered_reordered storable reorders]

/-- Decoding undoes encoding, also where the writer keeps stored properties in another order. What
is accepted, as a text or as a value with finite numbers, can be stored and is written in a form
that a second round leaves unchanged. -/
theorem roundTrip (order : Table Json → Table Json) (reorders : Table.Reorders order) :
    (∀ document : Document Float, document.IsStorable →
      Json.decodeValue Decoding.document (Encoding.document document) = .ok document ∧
        Json.decodeValue Decoding.document (Encoding.document (document.reordered order)) =
          .ok (document.reordered order)) ∧
    (∀ source document, ofText? source = .ok document → document.IsStorable ∧
      (Json.decodeValue Decoding.document (Encoding.document (document.reordered order))).map
          (fun again => Encoding.document (again.reordered order)) =
        .ok (Encoding.document (document.reordered order))) ∧
    (∀ source document, (Json.Reading.ofJson source).IsFinite →
      Json.decodeValue Decoding.document source = .ok document → document.IsStorable ∧
        (Json.decodeValue Decoding.document (Encoding.document (document.reordered order))).map
            (fun again => Encoding.document (again.reordered order)) =
          .ok (Encoding.document (document.reordered order))) := by
  refine ⟨?values, ?texts, ?accepted⟩
  case values =>
    intro document storable
    exact ⟨decode_encode storable, decode_encode (storable.reordered reorders)⟩
  case texts =>
    intro source document accepted
    have storable := isStorable_of_ofText? accepted
    exact ⟨storable, encode_decode_encode storable reorders⟩
  case accepted =>
    intro source document finite accepted
    have storable := Json.Decoder.Restores.yields Decoding.restores_document finite accepted
    exact ⟨storable, encode_decode_encode storable reorders⟩

/-- A page whose rectangle is filled with a gradient and keeps properties of its own. -/
def gradientPage : Document Float where
  properties := [("widgetPrefix", .text "App"), ("units", .record [("height", .null)])]
  children :=
    [ { LayerInfo.usual "1" "Home" .artboard with
        properties := [("widgetName", .text "HomePage"), ("builder", .flag true)]
        children :=
          [ { LayerInfo.usual "2" "Card" (.rectangle ⟨4.0, 4.0, 0.5, 0.0⟩) with
              fill := some (.linear ⟨0.0, 0.5, 1.0, 0.5, [⟨0.25, ⟨10, 20, 30, 255⟩⟩]⟩)
              opacity := 0.75
              children := [] },
            { LayerInfo.usual "3" "Odd" .unknown with children := [] } ] } ]
  assets := ⟨[⟨some "Ink", none, none⟩], []⟩

theorem isStorable_gradientPage : gradientPage.IsStorable := by
  have radii : CornerRadii.IsStorable (⟨4.0, 4.0, 0.5, 0.0⟩ : CornerRadii Float) :=
    ⟨by decide +kernel, by decide +kernel, by decide +kernel, by decide +kernel⟩
  have gradient : LinearGradient.IsStorable
      (⟨0.0, 0.5, 1.0, 0.5, [⟨0.25, ⟨10, 20, 30, 255⟩⟩]⟩ : LinearGradient Float) :=
    ⟨by decide +kernel, by decide +kernel, by decide +kernel, by decide +kernel,
      List.forall_mem_singleton.mpr (by rw [ColorStop.IsStorable]; decide +kernel)⟩
  have page : LayerKind.IsStorable (.artboard : LayerKind Float) := trivial
  have card : LayerKind.IsStorable (.rectangle ⟨4.0, 4.0, 0.5, 0.0⟩ : LayerKind Float) := radii
  have odd : LayerKind.IsStorable (.unknown : LayerKind Float) := trivial
  constructor
  case properties =>
    exact ⟨by decide, by simp [gradientPage, Json.IsOrdered, Json.MembersOrdered, Json.Rising]⟩
  case layers =>
    intro layer member
    simp only [gradientPage, Layer.flattenAll, Layer.flatten, List.cons_append, List.nil_append,
      List.append_nil, List.mem_cons, List.not_mem_nil, or_false] at member
    rcases member with same | same | same
    · have own := LayerInfo.isStorable_usual "1" "Home" page
      rw [same]
      exact own.storing ⟨by decide, by simp [Json.IsOrdered]⟩
    · have own := LayerInfo.isStorable_usual "2" "Card" card
      rw [same]
      exact own.painted gradient (by decide +kernel)
    · rw [same]
      exact LayerInfo.isStorable_usual "3" "Odd" odd
  case assets => exact ⟨List.forall_mem_singleton.mpr nofun, List.forall_mem_nil _⟩

theorem roundTrip_gradientPage :
    Json.decodeValue Decoding.document (Encoding.document gradientPage) = .ok gradientPage ∧
      Json.decodeValue Decoding.document
          (Encoding.document (gradientPage.reordered Json.orderMembers)) =
        .ok (gradientPage.reordered Json.orderMembers) :=
  (roundTrip Json.orderMembers Table.reorders_orderMembers).1 gradientPage isStorable_gradientPage

end Document

end DesignExport
