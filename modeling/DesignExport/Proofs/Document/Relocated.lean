import DesignExport.Compile.Context
import DesignExport.Layout.Frame
import DesignExport.Proofs.Document.Owners
set_option autoImplicit false

/-! Documents in which a layer sits in another place. The records of the layers around it keep
everything but their places, so all that an index tells of them but for places stays. Layers
below the layer keep their frames, unless a later layer answers for one of their guids. -/

namespace DesignExport

variable {α : Type} [Scalar α]

/-! ### Places -/

namespace LayerInfo

/-- A layer without its place, and without what it asks of the places of its own layers. -/
def placeless (layer : LayerInfo α) : LayerInfo α :=
  { layer with
    transform := Affine.identity
    localBounds := Rect.zero
    rotation := 0.0
    isFlipped := false
    arrangement := Arrangement.plain }

/-- A layer in the place of another one. What it holds it holds as before. -/
def movedTo (layer place : LayerInfo α) : LayerInfo α :=
  { layer with
    transform := place.transform
    rotation := place.rotation
    isFlipped := place.isFlipped
    arrangement := { layer.arrangement with constraints := place.arrangement.constraints } }

end LayerInfo

namespace Layer

def movedTo (layer : Layer α) (place : LayerInfo α) : Layer α :=
  ⟨layer.toLayerInfo.movedTo place, layer.children⟩

/-- Two trees that differ in a layer and in the places of the layers above it. The layers that
come behind and belong to one of those are listed. -/
inductive Differ (moved other : Layer α) : Layer α → Layer α → List (Layer α) → Prop where
  | here : Differ moved other moved other []
  | inside {info changed : LayerInfo α} {before after later : List (Layer α)}
      {child replaced : Layer α} (same : info.placeless = changed.placeless)
      (below : Differ moved other child replaced later) :
      Differ moved other ⟨info, before ++ child :: after⟩ ⟨changed, before ++ replaced :: after⟩
        (later ++ after)

end Layer

/-- Two documents that differ in the place of a layer and in the places of the layers above
it. -/
def Document.Relocates (first second : Document α) (moved : Layer α) (place : LayerInfo α)
    (later : List (Layer α)) : Prop :=
  ∃ before top replaced after, first.children = before ++ top :: after ∧
    second = { first with children := before ++ replaced :: after } ∧
    Layer.Differ moved (moved.movedTo place) top replaced later

/-! ### Records of an index -/

/-- The record of a layer and that of its owner. -/
def Placed.record (placed : Placed α) : LayerInfo α × Option (LayerInfo α) :=
  (placed.layer.placeless, placed.parent.map (·.placeless))

def Index.records (index : Index α) : List (LayerInfo α × Option (LayerInfo α)) :=
  index.placed.map Placed.record

omit [Scalar α] in
theorem placedAll_append (owner : Option (Layer α)) (first second : List (Layer α)) :
    placedAll owner (first ++ second) = placedAll owner first ++ placedAll owner second := by
  induction first with
  | nil => rfl
  | cons layer rest ih => rw [List.cons_append, placedAll, placedAll, ih, List.append_assoc]

section Records

variable {owner other : Option (Layer α)}
  (same : owner.map (·.placeless) = other.map (·.placeless))

include same

theorem records_placed (layer : Layer α) :
    (Layer.placed owner layer).map Placed.record = (Layer.placed other layer).map Placed.record := by
  obtain ⟨info, children⟩ := layer
  rw [Layer.placed, Layer.placed, List.map_cons, List.map_cons, Placed.record, Placed.record, same]

theorem records_placedAll (layers : List (Layer α)) :
    (placedAll owner layers).map Placed.record = (placedAll other layers).map Placed.record := by
  induction layers with
  | nil => rfl
  | cons layer rest ih =>
      rw [placedAll, placedAll, List.map_append, List.map_append, records_placed same, ih]

theorem Layer.Differ.records {moved top replaced : Layer α} {place : LayerInfo α}
    {later : List (Layer α)} (differ : Differ moved (moved.movedTo place) top replaced later) :
    (Layer.placed owner top).map Placed.record =
      (Layer.placed other replaced).map Placed.record := by
  induction differ generalizing owner other with
  | here =>
      obtain ⟨info, children⟩ := moved
      let away : Layer α := ⟨info.movedTo place, children⟩
      have owned : (some (⟨info, children⟩ : Layer α)).map (·.placeless) =
          (some away).map (·.placeless) := rfl
      change (Layer.placed owner ⟨info, children⟩).map Placed.record =
        (Layer.placed other away).map Placed.record
      rw [Layer.placed, Layer.placed, List.map_cons, List.map_cons, Placed.record, Placed.record,
        same, records_placedAll owned children]
      rfl
  | @inside info changed before after _ child replaced unchanged _ ih =>
      have owned : (some (⟨info, before ++ child :: after⟩ : Layer α)).map (·.placeless) =
          (some (⟨changed, before ++ replaced :: after⟩ : Layer α)).map (·.placeless) :=
        congrArg some unchanged
      rw [Layer.placed, Layer.placed, List.map_cons, List.map_cons, Placed.record, Placed.record,
        same, placedAll_append, placedAll_append, placedAll, placedAll, List.map_append,
        List.map_append, List.map_append, List.map_append, records_placedAll owned before,
        records_placedAll owned after, ih owned]
      exact congrArg (fun record => (record, _) :: _) unchanged

end Records

theorem Document.Relocates.records {first second : Document α} {moved : Layer α}
    {place : LayerInfo α} {later : List (Layer α)}
    (relocates : first.Relocates second moved place later) :
    (Index.ofDocument first).records = (Index.ofDocument second).records := by
  obtain ⟨before, top, replaced, after, children, rfl, differ⟩ := relocates
  rw [Index.records, Index.records, Index.ofDocument, Index.ofDocument, children]
  dsimp only
  rw [placedAll_append, placedAll_append, placedAll, placedAll, List.map_append, List.map_append,
    List.map_append, List.map_append, differ.records rfl]

/-! ### What records tell -/

theorem find?_placeless {finds : Layer α → Bool}
    (blind : ∀ one other : Layer α, one.placeless = other.placeless → finds one = finds other) :
    ∀ {first second : List (Layer α)}, first.map (·.placeless) = second.map (·.placeless) →
      (first.find? finds).map (·.guid) = (second.find? finds).map (·.guid)
  | [], [], _ => rfl
  | one :: rest, other :: others, same => by
      obtain ⟨alike, later⟩ := List.cons.inj same
      have guids : one.guid = other.guid := congrArg (·.guid) alike
      rw [List.find?_cons, List.find?_cons, blind one other alike]
      split
      · exact congrArg some guids
      · exact find?_placeless blind later

namespace Index

theorem parentOf?_map_placeless (index : Index α) (guid : String) :
    (index.parentOf? guid).map (·.placeless) = index.records.reverse.findSome? (fun record =>
      if record.1.guid = guid then record.2 else none) := by
  rw [parentOf?, records, ← List.map_reverse, List.findSome?_map, List.map_findSome?]
  congr 1
  funext placed
  exact apply_ite (Option.map _) _ _ _

variable {first second : Index α} (same : first.records = second.records)

include same

theorem parentOf?_placeless (guid : String) : (first.parentOf? guid).map (·.placeless) =
    (second.parentOf? guid).map (·.placeless) := by
  rw [parentOf?_map_placeless, parentOf?_map_placeless, same]

theorem ancestorsWithin_placeless : ∀ (steps : Nat) (guid : String),
    (first.ancestorsWithin steps guid).map (·.placeless) =
      (second.ancestorsWithin steps guid).map (·.placeless)
  | 0, _ => rfl
  | steps + 1, guid => by
      have owners := parentOf?_placeless same guid
      rw [ancestorsWithin, ancestorsWithin]
      cases one : first.parentOf? guid with
      | none =>
          rw [one] at owners
          rw [Option.map_eq_none_iff.mp owners.symm]
      | some owner =>
          rw [one] at owners
          obtain ⟨other, found, alike⟩ := Option.map_eq_some_iff.mp owners.symm
          have guids : other.guid = owner.guid := congrArg (·.guid) alike
          rw [found]
          dsimp only
          rw [List.map_cons, List.map_cons, alike, guids, ancestorsWithin_placeless steps]

theorem ancestors_placeless (guid : String) : (first.ancestors guid).map (·.placeless) =
    (second.ancestors guid).map (·.placeless) := by
  have lengths : first.placed.length = second.placed.length := by
    have counted := congrArg List.length same
    rw [records, records, List.length_map, List.length_map] at counted
    exact counted
  rw [ancestors, ancestors, lengths]
  exact ancestorsWithin_placeless same _ guid

theorem inheritedOpacity_eq : first.inheritedOpacity = second.inheritedOpacity := by
  funext layer
  have told (index : Index α) : index.inheritedOpacity layer =
      (((index.ancestors layer.guid).map (·.placeless)).takeWhile (!·.isWidgetRoot)).foldl
        (fun opacity ancestor => opacity * ancestor.opacity) layer.opacity := by
    rw [List.takeWhile_map, List.foldl_map]
    rfl
  rw [told, told, ancestors_placeless same]

theorem widgets_placeless :
    first.widgets.map (·.placeless) = second.widgets.map (·.placeless) := by
  have told (index : Index α) : index.widgets.map (·.placeless) =
      (index.records.map Prod.fst).filter (·.isWidgetRoot) := by
    rw [widgets, records, List.map_map, List.filter_map, List.filter_map, List.map_map]
    rfl
  rw [told, told, same]

theorem master?_guid (symbol : String) :
    (first.master? symbol).map (·.guid) = (second.master? symbol).map (·.guid) := by
  rw [master?, master?]
  refine find?_placeless (fun one other alike => ?_) (widgets_placeless same)
  have kinds : one.kind = other.kind := congrArg (·.kind) alike
  rw [kinds]

theorem widgetRootOf?_guid {layer other : Layer α} (alike : layer.placeless = other.placeless) :
    (first.widgetRootOf? layer).map (·.guid) = (second.widgetRootOf? other).map (·.guid) := by
  have told (index : Index α) (layer : Layer α) : (index.widgetRootOf? layer).map (·.guid) =
      ((layer.placeless :: (index.ancestors layer.guid).map (·.placeless)).find?
        (·.isWidgetRoot)).map (·.guid) := by
    rw [← List.map_cons (f := fun layer : Layer α => layer.placeless), List.find?_map,
      Option.map_map]
    rfl
  have guids : layer.guid = other.guid := congrArg (·.guid) alike
  rw [told, told, alike, guids, ancestors_placeless same]

end Index

theorem Context.nameWidgets_placeless (settings : Settings) :
    ∀ {first second : List (Layer α)} (names : Table String) (taken : List String),
      first.map (·.placeless) = second.map (·.placeless) →
        (nameWidgets settings first names taken).1 = (nameWidgets settings second names taken).1
  | [], [], _, _, _ => rfl
  | one :: rest, other :: others, names, taken, same => by
      obtain ⟨alike, later⟩ := List.cons.inj same
      have guids : one.guid = other.guid := congrArg (·.guid) alike
      have told (layer : LayerInfo α) : Naming.widgetClassName layer settings =
          Naming.widgetClassName layer.placeless settings := rfl
      have classes : Naming.widgetClassName one.toLayerInfo settings =
          Naming.widgetClassName other.toLayerInfo settings := by
        rw [told, told other.toLayerInfo]
        exact congrArg (Naming.widgetClassName · settings) alike
      rw [nameWidgets, nameWidgets]
      dsimp only
      rw [guids, classes]
      exact nameWidgets_placeless settings _ _ later

/-! ### Frames -/

/-- The frame that an entry of an index gives the layers with some guid. -/
def Placed.frame? (guid : String) (placed : Placed α) : Option (ParentFrame α) :=
  if placed.layer.guid = guid then placed.parent.map (ParentFrame.ofLayer ·.toLayerInfo) else none

def Placed.lastFrame? (guid : String) (entries : List (Placed α)) : Option (ParentFrame α) :=
  entries.reverse.findSome? (frame? guid)

namespace Placed

variable {guid : String}

theorem lastFrame?_append (first second : List (Placed α)) :
    lastFrame? guid (first ++ second) = (lastFrame? guid second).or (lastFrame? guid first) := by
  rw [lastFrame?, List.reverse_append, List.findSome?_append, lastFrame?, lastFrame?]

theorem lastFrame?_eq {first second : List (Placed α)}
    (same : first.map (frame? guid) = second.map (frame? guid)) :
    lastFrame? guid first = lastFrame? guid second := by
  have told (entries : List (Placed α)) : lastFrame? guid entries =
      (entries.map (frame? guid)).reverse.findSome? id := by
    rw [← List.map_reverse, List.findSome?_map, Function.id_comp, lastFrame?]
  rw [told, told, same]

theorem lastFrame?_placed (index : Index α) : lastFrame? guid index.placed =
    (index.parentOf? guid).map (ParentFrame.ofLayer ·.toLayerInfo) := by
  rw [Index.parentOf?, lastFrame?, List.map_findSome?]
  congr 1
  funext placed
  exact (apply_ite (Option.map (ParentFrame.ofLayer ·.toLayerInfo)) (placed.layer.guid = guid)
    placed.parent none).symm

/-- Of layers that get the same frame themselves all layers below do. -/
theorem frames_placedAll {owner other : Option (Layer α)} : ∀ {layers : List (Layer α)},
    (∀ layer ∈ layers, frame? guid ⟨layer, owner⟩ = frame? guid ⟨layer, other⟩) →
      (placedAll owner layers).map (frame? guid) = (placedAll other layers).map (frame? guid)
  | [], _ => rfl
  | ⟨info, children⟩ :: rest, same => by
      obtain ⟨own, others⟩ := List.forall_mem_cons.mp same
      rw [placedAll, placedAll, Layer.placed, Layer.placed, List.map_append, List.map_append,
        List.map_cons, List.map_cons, own, frames_placedAll others]

section

omit [Scalar α]

mutual

theorem parent_isSome_of_mem_placed {owner : Layer α} : ∀ {layer : Layer α} {entry : Placed α},
    entry ∈ Layer.placed (some owner) layer → entry.parent.isSome = true
  | ⟨info, children⟩, entry, member => by
      rw [Layer.placed] at member
      rcases List.mem_cons.mp member with same | below
      · rw [same]
        rfl
      · exact parent_isSome_of_mem_placedAll below

theorem parent_isSome_of_mem_placedAll {owner : Layer α} :
    ∀ {layers : List (Layer α)} {entry : Placed α},
      entry ∈ placedAll (some owner) layers → entry.parent.isSome = true
  | [], _, member => absurd member List.not_mem_nil
  | layer :: rest, entry, member => by
      rw [placedAll, List.mem_append] at member
      rcases member with here | later
      · exact parent_isSome_of_mem_placed here
      · exact parent_isSome_of_mem_placedAll later

end

end

theorem lastFrame?_isSome {owner layer : Layer α} {layers : List (Layer α)}
    (inside : layer ∈ Layer.flattenAll layers) :
    (lastFrame? layer.guid (placedAll (some owner) layers)).isSome = true := by
  rw [← Layer.map_layer_placedAll (some owner)] at inside
  obtain ⟨entry, member, same⟩ := List.mem_map.mp inside
  rw [lastFrame?, List.findSome?_isSome_iff]
  refine ⟨entry, List.mem_reverse.mpr member, ?_⟩
  rw [frame?, if_pos (congrArg (·.guid) same), Option.isSome_map]
  exact parent_isSome_of_mem_placedAll member

end Placed

open Placed (frame? lastFrame?)

/-- What comes behind the layers below the moved one gives the same frames, but for guids of
layers that belong to a layer above. -/
theorem Layer.Differ.exists_frames {moved top replaced : Layer α} {place : LayerInfo α}
    {later : List (Layer α)} (differ : Differ moved (moved.movedTo place) top replaced later)
    (owner other : Option (Layer α)) : ∃ front behind front' behind',
      placed owner top = front ++ (placedAll (some moved) moved.children ++ behind) ∧
      placed other replaced =
        front' ++ (placedAll (some (moved.movedTo place)) moved.children ++ behind') ∧
      ∀ guid, (∀ layer ∈ later, layer.guid ≠ guid) →
        behind.map (frame? guid) = behind'.map (frame? guid) := by
  -- Down the path to the moved layer: every layer on it puts itself and its first children in
  -- front, and its other children, which it owns, behind.
  induction differ generalizing owner other with
  | here =>
      obtain ⟨info, children⟩ := moved
      refine ⟨[⟨⟨info, children⟩, owner⟩], [], [⟨⟨info.movedTo place, children⟩, other⟩], [],
        ?_, ?_, fun _ _ => rfl⟩
      · rw [placed, List.append_nil]
        rfl
      · rw [movedTo, placed, List.append_nil]
        rfl
  | @inside info changed before after _ child replaced _ _ ih =>
      let above : Layer α := ⟨info, before ++ child :: after⟩
      let now : Layer α := ⟨changed, before ++ replaced :: after⟩
      obtain ⟨front, behind, front', behind', one, two, same⟩ := ih (some above) (some now)
      refine ⟨⟨above, owner⟩ :: placedAll (some above) before ++ front,
        behind ++ placedAll (some above) after,
        ⟨now, other⟩ :: placedAll (some now) before ++ front',
        behind' ++ placedAll (some now) after, ?_, ?_, fun guid absent => ?_⟩
      · rw [Layer.placed, placedAll_append, placedAll, one]
        simp only [List.cons_append, List.append_assoc]
        rfl
      · rw [Layer.placed, placedAll_append, placedAll, two]
        simp only [List.cons_append, List.append_assoc]
        rfl
      · rw [List.forall_mem_append] at absent
        rw [List.map_append, List.map_append, same guid absent.1]
        refine congrArg _ (Placed.frames_placedAll fun layer member => ?_)
        rw [frame?, frame?, if_neg (absent.2 layer member), if_neg (absent.2 layer member)]

/-- The frame of a layer below the moved one stays, unless a later layer that belongs to a
layer above has its guid. -/
theorem Document.Relocates.frame_eq {first second : Document α} {moved : Layer α}
    {place : LayerInfo α} {later : List (Layer α)}
    (relocates : first.Relocates second moved place later) {layer : Layer α}
    (below : layer ∈ Layer.flattenAll moved.children)
    (absent : ∀ other ∈ later, other.guid ≠ layer.guid) :
    ((Index.ofDocument first).parentOf? layer.guid).map (ParentFrame.ofLayer ·.toLayerInfo) =
      ((Index.ofDocument second).parentOf? layer.guid).map
        (ParentFrame.ofLayer ·.toLayerInfo) := by
  obtain ⟨before, top, replaced, after, children, rfl, differ⟩ := relocates
  obtain ⟨front, behind, front', behind', one, two, same⟩ := differ.exists_frames none none
  -- The last entry that gives a frame answers. One below the moved layer does, so what stands
  -- in front of these does not matter, and behind them only what has the guid of the layer.
  have inside : (placedAll (some moved) moved.children).map (frame? layer.guid) =
      (placedAll (some (moved.movedTo place)) moved.children).map (frame? layer.guid) :=
    Placed.frames_placedAll fun _ _ => rfl
  have found :
      (lastFrame? layer.guid (placedAll (some (moved.movedTo place)) moved.children)).isSome =
        true := Placed.lastFrame?_isSome below
  obtain ⟨frame, known⟩ := Option.isSome_iff_exists.mp found
  rw [← Placed.lastFrame?_placed, ← Placed.lastFrame?_placed, Index.ofDocument, Index.ofDocument,
    children]
  dsimp only
  rw [placedAll_append, placedAll_append, placedAll, placedAll, one, two]
  simp only [Placed.lastFrame?_append]
  rw [Placed.lastFrame?_eq inside, Placed.lastFrame?_eq (same layer.guid absent), known]
  simp only [Option.some_or, Option.or_some]

end DesignExport
