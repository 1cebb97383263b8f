import DesignExport.Proofs.Export.Declarations
import DesignExport.Proofs.Expression.Pieces
import DesignExport.Proofs.Tree.Origins
set_option autoImplicit false

/-! Layers in the file of a widget. Every layer that is to be shown has a piece of code in
the file, unless it is lost in a background that stands aside; a layer that is lost has
none. -/

namespace DesignExport

open Compile (Yields)

variable {α : Type}

/-! ### Modes -/

/-- How a layer wants to appear. -/
def LayerInfo.exportMode (layer : LayerInfo α) : ExportMode :=
  ((layer.textProperty? .exportMode).bind ExportMode.ofName?).getD .inline

theorem ExportMode.ofLayer_yields (layer : LayerInfo α) :
    Yields (ofLayer layer) (· = layer.exportMode) := by
  unfold ofLayer LayerInfo.exportMode
  cases layer.textProperty? .exportMode with
  | none => exact Yields.pure rfl
  | some name =>
      dsimp only
      rw [Option.bind_some]
      cases ofName? name with
      | some mode => exact Yields.pure rfl
      | none => exact Yields.bind_any fun _ => Yields.pure rfl

/-- Layers that appear inline, each with the layers below it. -/
def Layer.AreInline (layers : List (Layer α)) : Prop :=
  ∀ layer ∈ flattenAll layers, layer.exportMode = .inline

instance (layers : List (Layer α)) : Decidable (Layer.AreInline layers) :=
  inferInstanceAs (Decidable (∀ layer ∈ Layer.flattenAll layers, layer.exportMode = .inline))

variable [Scalar α]

namespace Node

/-- The nodes of layers that appear inline are inline. -/
theorem isInline_of_mem_buildAll {layers : List (Layer α)} (inline : Layer.AreInline layers)
    {start : Context α} : ∀ node ∈ ((buildAll layers).run start).1, node.IsInline := by
  intro node member part inside
  obtain ⟨source, among, built⟩ := exists_source_of_mem_buildAll member inside
  rw [(build_run_eq_some built).1.mode_eq]
  exact (ExportMode.ofLayer_yields source.toLayerInfo start).trans (inline source among)

/-- A tree for the widget of a layer: its nodes are inline, it shows all layers that are to
be shown below the layer, and no others. -/
structure Presents (layer : Layer α) (tree : Node α) : Prop where
  inline : tree.IsInline
  all : List.Sublist (Layer.shownAll layer.children) tree.shown
  only : List.Sublist tree.shown ((Layer.flattenAll layer.children).map (·.toLayerInfo))

theorem mergedRoot_yields_presents {layer : Layer α} (inline : Layer.AreInline layer.children) :
    Yields (mergedRoot layer) (Presents layer) := by
  have root : Yields (buildRoot layer) (Presents layer) := by
    have nodes : Yields (buildAll layer.children)
        (fun nodes => (∀ node ∈ nodes, node.IsInline) ∧ Show layer.children nodes) :=
      fun context => ⟨isInline_of_mem_buildAll inline, buildAll_yields_show _ context⟩
    refine Yields.bind nodes fun nodes known => Yields.pure ?_
    obtain ⟨each, shows⟩ := known
    have shown (info : NodeInfo α) (root : info.kind = .widgetRoot) :
        Node.shown ⟨info, nodes⟩ = shownAll nodes :=
      shown_of_holds (Or.inl root) nodes
    refine ⟨throughout_mk.mpr ⟨rfl, each⟩, ?_, ?_⟩
    · rw [shown _ rfl]
      exact shows.all
    · rw [shown _ rfl]
      exact shows.only
  refine Yields.bind root fun tree presents => Yields.bind_any fun settings => Yields.pure ?_
  have modes : KeptByShapes fun info : NodeInfo α => info.mode = .inline :=
    fun _ _ _ inline => inline
  refine ⟨throughout_combineShapes modes tree _ presents.inline, ?_, ?_⟩
  · rw [shown_combineShapes]
    exact presents.all
  · rw [shown_combineShapes]
    exact presents.only

end Node

theorem presents_of_widgetTree {layer : Layer α} {start ready : Context α} {tree : Node α}
    (inline : Layer.AreInline layer.children)
    (built : (widgetTree layer).run start = (tree, ready)) : tree.Presents layer := by
  have merged := Node.mergedRoot_yields_presents inline
    ((widgetClass layer.toLayerInfo >>= Compile.beginWidget).run start).2
  have same : (widgetTree layer).run start = (Node.mergedRoot layer).run
      ((widgetClass layer.toLayerInfo >>= Compile.beginWidget).run start).2 := rfl
  rw [← same, built] at merged
  exact merged

/-! ### The file -/

namespace SourceFile

/-- A piece of code for a layer stands in a file: the layer is shown by a node that the
tree of the widget reaches. -/
def Represents (file : SourceFile) (start : Context α) (tree : Node α) (layer : LayerInfo α) : Prop :=
  ∃ part piece, tree.Reaches part ∧ part.ShowsAs start layer piece ∧ Embedded piece file.source

theorem embedded_of_has {file : SourceFile} {piece text : String} (has : file.Has text)
    (inside : Embedded piece text) : Embedded piece file.source := by
  obtain ⟨before, after, same⟩ := has
  rw [same]
  exact (inside.before before).behind after

end SourceFile

section

variable {layer : Layer α} {start ready : Context α} {tree : Node α} {leaf : LayerInfo α}

/-- What is to be shown of a widget stands in its file or is lost. -/
theorem represents_or_loses (inline : Layer.AreInline layer.children)
    (built : (widgetTree layer).run start = (tree, ready)) (shown : leaf ∈ tree.shown)
    (className : String) (scope : WidgetScope) (nullSafe : Bool) :
    (SourceFile.ofWidget className (tree.write.run ready).1.1 scope nullSafe).Represents start tree
      leaf ∨ tree.Loses leaf := by
  have isReady := widgetTree_isReady built
  have isInline := (presents_of_widgetTree inline built).inline
  rcases Node.exhibited_or_lost isInline shown with ⟨part, reaches, exhibits⟩ | lost
  · have label := (Node.isSupplied_of_reaches isReady reaches).label
    obtain ⟨⟨_, piece, shows, inside⟩, _⟩ :=
      reaches.writeWith_showsOneOf isInline exhibits label id ready isReady.idle_eq
    refine Or.inl ⟨part, piece, reaches, shows, ?_⟩
    refine SourceFile.embedded_of_has (SourceFile.has_body className _ scope nullSafe) ?_
    exact (inside.before _).behind _
  · exact Or.inr lost

/-- What is lost stands nowhere in the file, if layers are told apart by their guids. -/
theorem not_loses_of_represents (inline : Layer.AreInline layer.children)
    (distinct : ((Layer.flattenAll layer.children).map (·.guid)).Nodup)
    (built : (widgetTree layer).run start = (tree, ready)) {file : SourceFile}
    (represents : file.Represents start tree leaf) : ¬ tree.Loses leaf := by
  obtain ⟨part, piece, reaches, shows, _⟩ := represents
  have presents := presents_of_widgetTree inline built
  have layers : ((Layer.flattenAll layer.children).map (·.toLayerInfo)).Nodup := by
    have guids : ((Layer.flattenAll layer.children).map (·.toLayerInfo)).map (·.guid) =
        (Layer.flattenAll layer.children).map (·.guid) := List.map_map
    rw [← guids] at distinct
    exact distinct.of_map _
  exact Node.not_loses_of_exhibits reaches shows.exhibits presents.inline
    (layers.sublist presents.only)

end

/-- Every widget whose layers are inline has a file. A layer that is to be shown below the
widget has a piece of code there or is lost in a background, and not both if the guids of
the layers are distinct. -/
theorem compileWidget_represents {layer : Layer α} {start ready : Context α} {tree : Node α}
    (inline : Layer.AreInline layer.children)
    (built : (widgetTree layer).run start = (tree, ready)) :
    let className := ((widgetClass layer.toLayerInfo).run start).1
    let code := ((widgetCode layer className).run start).1
    let file := SourceFile.ofWidget className code.1 code.2 start.settings.nullSafe
    ((compileWidget layer).run start).1 = .ok file ∧
      ∀ leaf ∈ Layer.shownAll layer.children,
        (file.Represents start tree leaf ∨ tree.Loses leaf) ∧
          (((Layer.flattenAll layer.children).map (·.guid)).Nodup →
            file.Represents start tree leaf → ¬ tree.Loses leaf) := by
  intro className code file
  have body : code.1 = (tree.write.run ready).1.1 := congrArg Prod.fst (widgetCode_run built)
  refine ⟨compileWidget_run_ok layer start, fun leaf shown => ⟨?_, ?_⟩⟩
  · have below := (presents_of_widgetTree inline built).all.subset shown
    have either := represents_or_loses inline built below className code.2 start.settings.nullSafe
    rw [← body] at either
    exact either
  · exact fun distinct represents => not_loses_of_represents inline distinct built represents

/-- A page on a background, with a dot on it. -/
def dottedPage (background : LayerInfo Rat) : Layer Rat :=
  let dot : LayerInfo Rat :=
    { LayerInfo.usual "dot" "Dot" .ellipse with fill := some (.color ⟨0, 0, 255, 255⟩) }
  ⟨{ LayerInfo.usual "home" "Home" .artboard with hasDefaultName := true },
    [⟨background, []⟩, ⟨dot, []⟩]⟩

def filledBackground : LayerInfo Rat :=
  { LayerInfo.usual "back" "bg" .ellipse with fill := some (.color ⟨255, 0, 0, 255⟩) }

/-- A background with a border, and without a fill. -/
def borderedBackground : LayerInfo Rat :=
  { LayerInfo.usual "back" "bg" .ellipse with
    stroke := some ⟨⟨255, 0, 0, 255⟩, 2, true, .inside, .miter, .butt, [], 0, 4⟩ }

def dottedStart (background : LayerInfo Rat) : Context Rat :=
  Context.start (Index.ofDocument ⟨[], [dottedPage background], ⟨[], []⟩⟩) {} .files

theorem compileWidget_represents_dottedPage :
    let page := dottedPage filledBackground
    let start := dottedStart filledBackground
    let tree := ((widgetTree page).run start).1
    let className := ((widgetClass page.toLayerInfo).run start).1
    let code := ((widgetCode page className).run start).1
    let file := SourceFile.ofWidget className code.1 code.2 true
    Layer.AreInline page.children ∧ ((compileWidget page).run start).1 = .ok file ∧
      ∀ leaf ∈ Layer.shownAll page.children,
        (file.Represents start tree leaf ∨ tree.Loses leaf) ∧
          (((Layer.flattenAll page.children).map (·.guid)).Nodup →
            file.Represents start tree leaf → ¬ tree.Loses leaf) := by
  have inline : Layer.AreInline (dottedPage filledBackground).children := by decide +kernel
  exact ⟨inline, compileWidget_represents inline rfl⟩

theorem loses_borderedBackground :
    ((widgetTree (dottedPage borderedBackground)).run (dottedStart borderedBackground)).1.Loses
      borderedBackground := by
  generalize built : ((widgetTree (dottedPage borderedBackground)).run
    (dottedStart borderedBackground)).1 = tree
  have root : tree.kind = .widgetRoot := built ▸ rfl
  have backdrop : (tree.backdrop? tree.children).map (·.shown) = some [borderedBackground] :=
    built ▸ rfl
  obtain ⟨aside, stands, shown⟩ := Option.map_eq_some_iff.mp backdrop
  refine ⟨tree, aside, Node.Reaches.self tree, stands, shown ▸ List.mem_cons_self, ?_⟩
  rintro ⟨-, paints⟩
  rw [NodeInfo.Paints, root] at paints
  obtain ⟨fill, color, filled, -⟩ := paints
  cases filled

/-- A background without a fill is not in the file of its page when one other layer is on
it, and nothing is said about that. -/
theorem not_represents_borderedBackground :
    let page := dottedPage borderedBackground
    let start := dottedStart borderedBackground
    let tree := ((widgetTree page).run start).1
    let className := ((widgetClass page.toLayerInfo).run start).1
    let code := ((widgetCode page className).run start).1
    let file := SourceFile.ofWidget className code.1 code.2 true
    Layer.AreInline page.children ∧ borderedBackground ∈ Layer.shownAll page.children ∧
      ((compileWidget page).run start).1 = .ok file ∧
      ((compileWidget page).run start).2.log = [] ∧
      code.1 = "Scaffold(body: Container(\n// Layer: 'Dot' (Ellipse)\nwidth: 0, height: 0, " ++
        "decoration: BoxDecoration(color: const Color(0xff0000ff), " ++
        "borderRadius: BorderRadius.all(Radius.elliptical(9999.0, 9999.0)), ), ), )" ∧
      ¬ file.Represents start tree borderedBackground := by
  have inline : Layer.AreInline (dottedPage borderedBackground).children := by decide +kernel
  have distinct : ((Layer.flattenAll (dottedPage borderedBackground).children).map (·.guid)).Nodup := by
    decide +kernel
  refine ⟨inline, List.mem_cons_self, compileWidget_run_ok _ _, by decide +kernel, by decide +kernel, ?_⟩
  exact fun represents =>
    not_loses_of_represents inline distinct rfl represents loses_borderedBackground

end DesignExport
