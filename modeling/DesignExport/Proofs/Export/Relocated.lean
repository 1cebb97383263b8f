import DesignExport.Number.Exact
import DesignExport.Proofs.Export.Snippets
import DesignExport.Proofs.Expression.Relocated
set_option autoImplicit false

/-! Copies of layers that sit in different places. A layer has the same code wherever it is
copied from, unless it becomes a shape, or a layer elsewhere answers for one below it. -/

namespace DesignExport

open Compile (Composed)

variable {α : Type} [Scalar α]

namespace Document

def copyStart (document : Document α) (settings : Settings) : Context α :=
  Context.start (Index.ofDocument document) settings .clipboard

/-- A layer is copied as a shape. -/
def CopiesShape (document : Document α) (settings : Settings) (layer : Layer α) : Prop :=
  ∃ tree, ((snippetTree layer).run (document.copyStart settings)).1 = some tree ∧
    tree.isShape = true

theorem copySelected_map_code {document : Document α} {settings : Settings} {guid : String}
    {layer : Layer α} (found : document.find? guid = some layer) :
    (document.copySelected settings guid).map (·.code) =
      if layer.isWidgetRoot then .error (.widgetSelected layer.name)
      else ((compileSnippet layer).run (document.copyStart settings)).1 := by
  rw [copySelected, found]
  dsimp only
  split
  · rfl
  · rw [copyStart]
    generalize (compileSnippet layer).run
      (Context.start (Index.ofDocument document) settings .clipboard) = result
    obtain ⟨outcome, context⟩ := result
    cases outcome <;> rfl

theorem copiesShape_of_isOutlined {document : Document α} {settings : Settings} {layer : Layer α}
    {tree : Node α} (outlined : layer.kind.isOutlined = true)
    (built : ((snippetTree layer).run (document.copyStart settings)).1 = some tree) :
    document.CopiesShape settings layer := by
  refine ⟨tree, built, ?_⟩
  rw [snippetTree_run] at built
  obtain ⟨⟨info, children⟩, own, rfl⟩ := Option.map_eq_some_iff.mp built
  obtain ⟨shape, childless⟩ := Node.isShape_of_isOutlined outlined own
  change children = [] at childless
  rw [childless, Node.unplaced, Node.combineShapes_childless]
  exact shape

/-- Whoever pastes the code of a copy places it. -/
theorem snippetTree_not_placed {layer : Layer α} {start : Context α} {tree : Node α}
    (built : ((snippetTree layer).run start).1 = some tree) (notShape : tree.isShape = false) :
    tree.layout.isEnabled = false := by
  rw [snippetTree_run] at built
  obtain ⟨⟨info, children⟩, -, rfl⟩ := Option.map_eq_some_iff.mp built
  rw [Node.unplaced] at notShape ⊢
  rw [Node.combineShapes_eq notShape]

namespace Relocates

variable {first second : Document α} {moved : Layer α} {place : LayerInfo α}
  {later : List (Layer α)} (relocates : first.Relocates second moved place later)
  (settings : Settings)

include relocates

theorem snippetWidget_eq : ((snippetWidget moved).run (first.copyStart settings)).1 =
    ((snippetWidget (moved.movedTo place)).run (second.copyStart settings)).1 := by
  let named (context : Context α) (guid : Option String) : String :=
    (guid.bind context.widgetName?).getD "snippet"
  have told (layer : Layer α) (context : Context α) : ((snippetWidget layer).run context).1 =
      named context ((context.index.widgetRootOf? layer).map (·.guid)) := by
    change ((context.index.widgetRootOf? layer).bind _).getD _ = _
    dsimp only [named]
    rw [Option.bind_map]
    rfl
  have names : (first.copyStart settings).widgetNames = (second.copyStart settings).widgetNames :=
    Context.nameWidgets_placeless settings [] [] (Index.widgets_placeless relocates.records)
  have roots : ((Index.ofDocument first).widgetRootOf? moved).map (·.guid) =
      ((Index.ofDocument second).widgetRootOf? (moved.movedTo place)).map (·.guid) :=
    Index.widgetRootOf?_guid relocates.records rfl
  have same : named (first.copyStart settings) = named (second.copyStart settings) := by
    funext guid
    dsimp only [named]
    unfold Context.widgetName?
    rw [names]
  rw [told, told, same]
  exact congrArg _ roots

theorem snippetTree_looksLike :
    ((snippetTree moved).run (first.copyStart settings)).2.LooksLike
      ((snippetTree (moved.movedTo place)).run (second.copyStart settings)).2 := by
  have alike := relocates.looksLike settings .clipboard
  have begun : (((snippetWidget moved >>= Compile.beginWidget).run
      (first.copyStart settings)).2).LooksLike
        ((snippetWidget (moved.movedTo place) >>= Compile.beginWidget).run
          (second.copyStart settings)).2 := by
    refine ⟨rfl, rfl, alike.opacity, ?_⟩
    have folders := relocates.snippetWidget_eq settings
    change RasterQueue.start _ ((snippetWidget moved).run _).1 =
      RasterQueue.start _ ((snippetWidget (moved.movedTo place)).run _).1
    rw [folders]
    rfl
  exact (Node.mergedCopy?_building moved).looksLike
    (Node.mergedCopy?_building (moved.movedTo place)) begun

/-- Both trees differ in the layer itself only. -/
theorem snippetTree_eq (absent : ∀ layer ∈ Layer.flattenAll moved.children, ∀ other ∈ later,
      other.guid ≠ layer.guid)
    (one : ¬ first.CopiesShape settings moved)
    (other : ¬ second.CopiesShape settings (moved.movedTo place)) :
    ∃ layout : Layout α, layout.isEnabled = false ∧
      ((snippetTree (moved.movedTo place)).run (second.copyStart settings)).1 =
        ((snippetTree moved).run (first.copyStart settings)).1.map (·.movedTo place layout) := by
  let unplaced : Layout α := { Layout.initial with isEnabled := false }
  -- An outline has its layer in the shape as well; but it is copied as a shape, if at all.
  cases outlined : moved.kind.isOutlined with
  | true =>
      refine ⟨unplaced, rfl, ?_⟩
      have none : ((snippetTree moved).run (first.copyStart settings)).1 = none :=
        Option.eq_none_iff_forall_ne_some.mpr fun _ built =>
          one (copiesShape_of_isOutlined outlined built)
      have alsoNone :
          ((snippetTree (moved.movedTo place)).run (second.copyStart settings)).1 = Option.none :=
        Option.eq_none_iff_forall_ne_some.mpr fun _ built =>
          other (copiesShape_of_isOutlined outlined built)
      rw [none, alsoNone]
      rfl
  | false =>
      obtain ⟨layout, built⟩ := Node.build_movedTo place
        (relocates.buildsLike absent settings .clipboard) outlined
      refine ⟨{ layout with isEnabled := false }, rfl, ?_⟩
      rw [CopiesShape, snippetTree_run] at one other
      rw [snippetTree_run, snippetTree_run]
      change ((Node.build (moved.movedTo place)).run (second.copyStart settings)).1 =
        ((Node.build moved).run (first.copyStart settings)).1.map _ at built
      rw [built] at other ⊢
      generalize ((Node.build moved).run (first.copyStart settings)).1 = found at one other ⊢
      cases found with
      | none => rfl
      | some node =>
          have notShape := Bool.eq_false_iff.mpr fun shape => one ⟨_, rfl, shape⟩
          have neither := Bool.eq_false_iff.mpr fun shape => other ⟨_, rfl, shape⟩
          exact congrArg some (Node.combineShapes_movedTo notShape neither)

theorem compileSnippet_eq (absent : ∀ layer ∈ Layer.flattenAll moved.children, ∀ other ∈ later,
      other.guid ≠ layer.guid)
    (one : ¬ first.CopiesShape settings moved)
    (other : ¬ second.CopiesShape settings (moved.movedTo place)) :
    ((compileSnippet moved).run (first.copyStart settings)).1 =
      ((compileSnippet (moved.movedTo place)).run (second.copyStart settings)).1 := by
  obtain ⟨layout, neither, trees⟩ := relocates.snippetTree_eq settings absent one other
  have alike := relocates.snippetTree_looksLike settings
  obtain ⟨found, ready, built⟩ : ∃ found ready,
      (snippetTree moved).run (first.copyStart settings) = (found, ready) := ⟨_, _, rfl⟩
  obtain ⟨found', ready', built'⟩ : ∃ found ready,
      (snippetTree (moved.movedTo place)).run (second.copyStart settings) = (found, ready) :=
    ⟨_, _, rfl⟩
  rw [built, built'] at trees alike
  change found' = found.map _ at trees
  subst trees
  cases found with
  | none =>
      rw [compileSnippet_run_none built, compileSnippet_run_none built']
      rfl
  | some tree =>
      have notShape : tree.isShape = false :=
        Bool.eq_false_iff.mpr fun shape => one ⟨tree, congrArg Prod.fst built, shape⟩
      have notPlaced := snippetTree_not_placed (congrArg Prod.fst built) notShape
      -- First the same tree in contexts that look alike, then both trees in one context.
      have code : (tree.write.run ready).1.1 =
          ((tree.movedTo place layout).write.run ready').1.1 := by
        have writing := Node.writeWith_writing tree tree.keepsTo_self id
        have across : (tree.write.run ready).1 = (tree.write.run ready').1 := (writing.agrees alike).1
        rw [across]
        exact (Node.write_movedTo place notPlaced neither notShape ready').1
      rw [compileSnippet_run built, compileSnippet_run built', code]
      rfl

end Relocates

/-- A layer that is not copied as a shape has the same code, or the same error, wherever it
sits in its document, and wherever the layers above it sit. -/
theorem copySelected_relocated {first second : Document α} {moved : Layer α} {place : LayerInfo α}
    {later : List (Layer α)} (relocates : first.Relocates second moved place later)
    (absent : ∀ layer ∈ Layer.flattenAll moved.children, ∀ other ∈ later, other.guid ≠ layer.guid)
    {guid : String} (found : first.find? guid = some moved)
    (foundAgain : second.find? guid = some (moved.movedTo place)) {settings : Settings}
    (one : ¬ first.CopiesShape settings moved)
    (other : ¬ second.CopiesShape settings (moved.movedTo place)) :
    (first.copySelected settings guid).map (·.code) =
      (second.copySelected settings guid).map (·.code) := by
  rw [copySelected_map_code found, copySelected_map_code foundAgain,
    relocates.compileSnippet_eq settings absent one other]
  rfl

def dotIcon : Layer Rat :=
  let dot : LayerInfo Rat :=
    { LayerInfo.usual "dot" "Dot" .ellipse with
      hasDefaultName := true
      localBounds := ⟨10, 10, 20, 20⟩ }
  ⟨{ LayerInfo.usual "icon" "Icon" .group with
      hasDefaultName := true
      localBounds := ⟨0, 0, 40, 40⟩ }, [⟨dot, []⟩]⟩

/-- A page with a panel from some point on, on which there is an icon, and a mark behind it. -/
def panelDocument (left : Rat) (icon : Layer Rat) (mark : String) : Document Rat :=
  let panel : LayerInfo Rat :=
    { LayerInfo.usual "panel" "Panel" .group with localBounds := ⟨left, 0, 100, 100⟩ }
  ⟨[], [⟨LayerInfo.usual "home" "Home" .artboard,
    [⟨panel, [icon, Layer.usual mark "Mark" .ellipse]⟩]⟩], ⟨[], []⟩⟩

def turnedPlace : LayerInfo Rat :=
  { LayerInfo.usual "" "" .group with
    transform := ⟨1, 0, 0, 1, 30, 5⟩
    rotation := 45
    isFlipped := true }

theorem relocates_panelDocument (left right : Rat) (place : LayerInfo Rat) (mark : String) :
    (panelDocument left dotIcon mark).Relocates (panelDocument right (dotIcon.movedTo place) mark)
      dotIcon place [Layer.usual mark "Mark" .ellipse] := by
  let above (left : Rat) (icon : Layer Rat) : Layer Rat :=
    ⟨{ LayerInfo.usual "panel" "Panel" .group with localBounds := ⟨left, 0, 100, 100⟩ },
      [icon, Layer.usual mark "Mark" .ellipse]⟩
  have inPanel : Layer.Differ dotIcon (dotIcon.movedTo place) (above left dotIcon)
      (above right (dotIcon.movedTo place)) [Layer.usual mark "Mark" .ellipse] :=
    @Layer.Differ.inside Rat _ _ _ _ _ [] _ [] _ _ rfl .here
  exact ⟨[], _, _, [], rfl, rfl, @Layer.Differ.inside Rat _ _ _ _ _ [] [] _ _ _ rfl inPanel⟩

theorem not_copiesShape_of_map {document : Document Rat} {settings : Settings} {layer : Layer Rat}
    (kind : ((snippetTree layer).run (document.copyStart settings)).1.map (·.isShape) = some false) :
    ¬ document.CopiesShape settings layer := by
  rintro ⟨tree, built, shape⟩
  rw [built, Option.map_some, shape] at kind
  cases kind

theorem copySelected_relocated_panelDocument :
    let first := panelDocument 0 dotIcon "mark"
    let second := panelDocument 50 (dotIcon.movedTo turnedPlace) "mark"
    first.Relocates second dotIcon turnedPlace [Layer.usual "mark" "Mark" .ellipse] ∧
      first.find? "icon" = some dotIcon ∧
      (first.copySelected {} "icon").map (·.code) = (second.copySelected {} "icon").map (·.code) := by
  have relocates := relocates_panelDocument 0 50 turnedPlace "mark"
  have absent : ∀ layer ∈ Layer.flattenAll dotIcon.children,
      ∀ other ∈ [Layer.usual (α := Rat) "mark" "Mark" .ellipse], other.guid ≠ layer.guid := by
    decide
  exact ⟨relocates, rfl, copySelected_relocated relocates absent rfl rfl
    (not_copiesShape_of_map (by decide +kernel)) (not_copiesShape_of_map (by decide +kernel))⟩

/-- Where the mark has the guid of the dot, the dot is placed on the panel, and moving the
panel changes the code of the icon. -/
theorem copySelected_twinDocument :
    let first := panelDocument 0 dotIcon "dot"
    let second := panelDocument 50 dotIcon "dot"
    first.Relocates second dotIcon dotIcon.toLayerInfo [Layer.usual "dot" "Mark" .ellipse] ∧
      first.find? "icon" = some dotIcon ∧ second.find? "icon" = some dotIcon ∧
      ¬ first.CopiesShape {} dotIcon ∧ ¬ second.CopiesShape {} dotIcon ∧
      (first.copySelected {} "icon").map (·.code) ≠
        (second.copySelected {} "icon").map (·.code) := by
  refine ⟨relocates_panelDocument 0 50 dotIcon.toLayerInfo "dot", rfl, rfl,
    not_copiesShape_of_map (by decide +kernel), not_copiesShape_of_map (by decide +kernel), ?_⟩
  decide +kernel

end Document

end DesignExport
