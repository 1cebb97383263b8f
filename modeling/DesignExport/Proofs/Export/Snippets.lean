import DesignExport.Export.Run
import DesignExport.Number.Exact
import DesignExport.Proofs.Export.Tables
import DesignExport.Proofs.Expression.Pieces
import DesignExport.Proofs.Tree.Handed
set_option autoImplicit false

/-! Pieces of code for the clipboard. Pictures are written in place. An expression that is
moved to a method stays behind, and the piece of code only calls the method.

A layer that is copied and the same layer in the file of its widget both come out of one pass
over one node, but the copy does not see the layers above. If one of these asks for boxes to be
merged, the copy keeps boxes that the file draws together. -/

namespace DesignExport

open Compile (Composed Shows)
open NodeInfo (call)

variable {α : Type} [Scalar α]

/-- In a piece of code the markup of a shape is written in place. -/
theorem Picture.source_run_clipboard {unit : ShapeUnit α} (fresh : unit.IsFresh) {context : Context α}
    (clipboard : context.target = .clipboard) : ((source unit).run context).1.1 =
      Dart.stringLiteral (Markup.render context.index.inheritedOpacity unit).1 := by
  obtain ⟨frame, members, box, markup, id⟩ := unit
  obtain ⟨noMarkup, noId⟩ := fresh
  cases noMarkup
  rw [source, Compile.run_get_bind, clipboard]
  rfl

/-- Code calls a method that an expression has been moved to. -/
def WidgetScope.IsCalledIn (scope : WidgetScope) (code : String) : Prop :=
  ∃ name ∈ scope.methods.keys, Embedded (call name) code

namespace Node

variable {tree part : Node α} {start ready : Context α}

/-- Where a method is built, the code of the tree calls one. -/
theorem Builds.exists_call (isReady : Context.IsReadyFor tree start ready)
    {layer : LayerInfo α} (builds : tree.Builds layer) : ∃ owner, tree.Builds owner ∧
      Embedded (call (owner.methodName start.settings.normalizeNameCase)) (tree.write.run ready).1.1 := by
  obtain ⟨part, reaches, isMethod, present, -⟩ := builds
  obtain ⟨outer, reached, inPlace, moved, code⟩ := reaches.exists_inPlace isMethod present
  refine ⟨outer.layer, ⟨outer, reached, moved, code, rfl⟩, ?_⟩
  let piece := call (outer.layer.methodName start.settings.normalizeNameCase)
  have own (edit : Layout α → Layout α) :
      Shows start (ShowsOneOf (· = piece)) (outer.writeWith edit) := by
    intro context same
    have composed : Composed (fun _ => True) (fun _ => True) True True (outer.writeWith edit) :=
      writeWith_composed outer edit
    have kept := (composed.framed.idle_eq context).trans same
    have called := (writeWith_leads_call moved (isSupplied_of_reaches isReady reached).label code
      edit context trivial).1
    rw [Context.settings_eq_of_idle_eq kept] at called
    exact ⟨⟨called ▸ call_ne_empty _, piece, rfl, called ▸ Embedded.self⟩, kept⟩
  obtain ⟨⟨-, found, same, inside⟩, -⟩ := inPlace.writeWith_shows (survivesEdits_showsOneOf _)
    (fun _ shown => shown.1) own id ready isReady.idle_eq
  subst same
  exact inside

end Node

/-- A layer that is copied has been compiled to a piece of code. -/
theorem Document.copySelected_eq_ok {document : Document α} {settings : Settings} {guid : String}
    {snippet : Snippet} (copied : document.copySelected settings guid = .ok snippet) :
    ∃ layer context, document.find? guid = some layer ∧
      (compileSnippet layer).run (Context.start (Index.ofDocument document) settings .clipboard) =
        (.ok snippet.code, context) ∧ snippet.report.fonts = context.fonts := by
  unfold copySelected at copied
  cases found : document.find? guid with
  | none =>
      rw [found] at copied
      cases copied
  | some layer =>
      rw [found] at copied
      dsimp only at copied
      generalize compiled : (compileSnippet layer).run
        (Context.start (Index.ofDocument document) settings .clipboard) = run at copied
      obtain ⟨result, context⟩ := run
      refine ⟨layer, context, rfl, ?_⟩
      cases result with
      | error fault => split at copied <;> cases copied
      | ok code =>
          split at copied
          · cases copied
          · cases copied
            exact ⟨compiled, rfl⟩

/-- A piece of code is written from a tree. -/
theorem compileSnippet_eq_ok {layer : Layer α} {start after : Context α} {code : String}
    (compiled : (compileSnippet layer).run start = (.ok code, after)) :
    ∃ tree ready, (snippetTree layer).run start = (some tree, ready) ∧
      code = (tree.write.run ready).1.1 ∧
      after = { (tree.write.run ready).2 with scope := WidgetScope.empty "" } := by
  obtain ⟨found, ready, built⟩ : ∃ found ready, (snippetTree layer).run start = (found, ready) :=
    ⟨_, _, rfl⟩
  cases found with
  | none =>
      have none := compileSnippet_run_none built
      rw [compiled] at none
      cases none
  | some tree =>
      rw [compileSnippet_run built] at compiled
      split at compiled
      · cases compiled
      · cases compiled
        exact ⟨tree, ready, built, rfl, rfl⟩

/-- A copied piece of code has all that is drawn for it in place, and nothing but the bodies
of build methods is left behind. It calls such a method exactly if a method is built for a
layer that is written with it. -/
theorem Document.copySelected_carries {document : Document α} {settings : Settings} {guid : String}
    {snippet : Snippet} (copied : document.copySelected settings guid = .ok snippet) :
    let start := Context.start (Index.ofDocument document) settings .clipboard
    ∃ layer tree ready, document.find? guid = some layer ∧
      (snippetTree layer).run start = (some tree, ready) ∧
      snippet.code = (tree.write.run ready).1.1 ∧
      let scope := (tree.write.run ready).2.scope
      scope.pictures = [] ∧
        (∀ part, tree.Reaches part → ∀ name markup,
          part.RefersTo start (.constant name markup) → name = Dart.stringLiteral markup) ∧
        (scope.IsCalledIn snippet.code ↔ ∃ layer, tree.Builds layer) ∧
        (scope.methods = [] ↔ ¬ ∃ layer, tree.Builds layer) := by
  intro start
  obtain ⟨layer, _, found, compiled, -⟩ := copySelected_eq_ok copied
  obtain ⟨tree, ready, built, code, -⟩ := compileSnippet_eq_ok compiled
  have isReady := snippetTree_isReady built
  obtain ⟨_, fresh⟩ := snippetTree_isBuilt built
  have methods {name : String} : name ∈ (tree.write.run ready).2.scope.methods.keys ↔
      ∃ layer, tree.Builds layer ∧ name = layer.methodName start.settings.normalizeNameCase :=
    Node.mem_methods_iff isReady fresh.noMethods
  have clipboard : ready.target = .clipboard := Context.target_eq_of_idle_eq isReady.idle_eq
  refine ⟨layer, tree, ready, found, built, code, ?_, ?_, ?_, ?_⟩
  · rw [tree.write_composed.pictures_eq_of_clipboard ready clipboard]
    exact isReady.noPictures
  · intro part reaches name markup refers
    have supplied := Node.isSupplied_of_reaches isReady reaches
    cases refers with
    | picture isDrawn shape same =>
        have inPlace := Picture.source_run_clipboard (supplied.fresh shape)
          (Context.target_eq_of_idle_eq same)
        rw [inPlace, Context.index_eq_of_idle_eq same]
  · constructor
    · rintro ⟨name, called, -⟩
      obtain ⟨layer, builds, -⟩ := methods.mp called
      exact ⟨layer, builds⟩
    · rintro ⟨layer, builds⟩
      obtain ⟨owner, moved, calls⟩ := builds.exists_call isReady
      rw [code]
      exact ⟨_, methods.mpr ⟨owner, moved, rfl⟩, calls⟩
  · rw [← List.map_eq_nil_iff (f := Prod.fst), List.eq_nil_iff_forall_not_mem]
    constructor
    · rintro none ⟨layer, builds⟩
      exact none _ (methods.mpr ⟨layer, builds, rfl⟩)
    · intro none name member
      obtain ⟨layer, builds, -⟩ := methods.mp member
      exact none ⟨layer, builds⟩

/-- An icon that consists of a dot with a method of its own. -/
def movedDotIcon : Layer Rat :=
  let dot : LayerInfo Rat :=
    { LayerInfo.usual "dot" "Dot" .ellipse with properties := [("exportMode", .text "method")] }
  ⟨LayerInfo.usual "icon" "Icon" .group, [⟨dot, []⟩]⟩

def movedDotDocument : Document Rat :=
  ⟨[], [⟨LayerInfo.usual "home" "Home" .artboard, [movedDotIcon]⟩], ⟨[], []⟩⟩

def movedDotSnippet : Snippet :=
  ⟨"Stack(\n// Layer: 'Icon' (Group)\nchildren: <Widget>[_buildDot(context), ], )",
    ⟨"Flutter code copied to clipboard", [], [], []⟩⟩

theorem copySelected_movedDotIcon :
    movedDotDocument.copySelected {} "icon" = .ok movedDotSnippet := by
  decide +kernel

theorem copySelected_carries_movedDotIcon :
    movedDotDocument.copySelected {} "icon" = .ok movedDotSnippet ∧
      ∃ (tree : Node Rat) (ready : Context Rat), movedDotSnippet.code = (tree.write.run ready).1.1 ∧
        (tree.write.run ready).2.scope.pictures = [] ∧
        ((tree.write.run ready).2.scope.IsCalledIn movedDotSnippet.code ↔
          ∃ layer, tree.Builds layer) := by
  obtain ⟨_, tree, ready, -, -, code, pictures, -, called, -⟩ :=
    Document.copySelected_carries copySelected_movedDotIcon
  exact ⟨copySelected_movedDotIcon, tree, ready, code, pictures, called⟩

/-- The code of the icon calls a method, and there is no such method. -/
theorem movedDotSnippet_lacks_method :
    movedDotDocument.copySelected {} "icon" = .ok movedDotSnippet ∧
      (Text.cutAround? "_buildDot(context)".toList movedDotSnippet.code.toList).isSome ∧
      Text.cutAround? "Widget _buildDot(".toList movedDotSnippet.code.toList = none :=
  ⟨copySelected_movedDotIcon, by decide +kernel, by decide +kernel⟩

/-! ### Copies of what a file has -/

namespace Node

theorem children_collapse_withLayout (info : NodeInfo α) (layout : Layout α)
    (children : List (Node α)) :
    (collapse ⟨{ info with layout := layout }, children⟩).children =
      (collapse ⟨info, children⟩).children := by
  cases children with
  | nil => rfl
  | cons only rest =>
      cases rest with
      | cons => rfl
      | nil =>
          unfold collapse
          dsimp only
          split
          · rw [apply_ite Node.children, apply_ite Node.children]
            rfl
          · rfl

/-- The pass does not look at the place of the node itself. -/
theorem children_combineShapes_unplaced (node : Node α) (eager : Bool) :
    (node.unplaced.combineShapes eager).children = (node.combineShapes eager).children := by
  obtain ⟨info, children⟩ := node
  rw [combineShapes, unplaced, combineShapes, mergeChildren_eq, mergeChildren_eq]
  exact children_collapse_withLayout info _ _

end Node

variable {document : Document α} {settings : Settings}

/-- Boxes below a layer merge in the file of its widget where they do not in a copy. -/
def Node.MergesOnlyInFile (settings : Settings) (widget layer : Layer α) (node : Node α) : Prop :=
  settings.combineShapes = false ∧ widget.HasEagerAbove layer ∧ node.joinsBoxes = true

/-- A layer has the same children in a copy and in the file of its widget, unless boxes are
merged only in the file. Then the file has fewer boxes. -/
theorem snippetTree_children {widget layer : Layer α} {exporting copying : Context α}
    {node copied : Node α} {eager : Bool} (distinct : document.HasDistinctGuids)
    (inside : widget ∈ Layer.flattenAll document.children)
    (below : layer ∈ Layer.flattenAll widget.children)
    (exports : exporting.Serves document settings) (copies : copying.Serves document settings)
    (hands : ((Node.buildRoot widget).run exporting).1.Hands settings.combineShapes node eager)
    (same : node.layer.guid = layer.guid)
    (found : ((snippetTree layer).run copying).1 = some copied) :
    let exported := node.combineShapes eager
    (exported.isPicture = false → exported ∈ ((widgetTree widget).run exporting).1.parts) ∧
      (¬ node.MergesOnlyInFile settings widget layer → copied.children = exported.children) ∧
      (node.MergesOnlyInFile settings widget layer →
        Node.boxCountAll exported.children < Node.boxCountAll copied.children) := by
  intro exported
  obtain ⟨made, asked⟩ :=
    hands.source_buildRoot (Layer.nodup_flatten distinct inside) below same
  obtain ⟨other, copiedNode, own⟩ :=
    Option.map_eq_some_iff.mp ((snippetTree_run layer copying).symm.trans found)
  have sameNode : other = node := by
    have agree := Node.build_decides layer copying exporting (copies.shares exports)
    rw [copiedNode, made] at agree
    exact Option.some.inj agree
  have children : copied.children = (node.combineShapes settings.combineShapes).children := by
    rw [← own, sameNode, Node.children_combineShapes_unplaced, copies.settings_eq]
  have built : node.IsAsBuilt := (Node.build_yields layer exporting node made).2
  obtain ⟨alike, fewer⟩ := Node.children_combineShapes_true built
  refine ⟨fun alone => ?_, fun spared => ?_, fun merges => ?_⟩
  · rw [widgetTree_run, exports.settings_eq]
    exact hands.mem_parts_combineShapes alone (Node.buildRoot_yields widget exporting)
  · rw [children]
    change _ = (node.combineShapes eager).children
    cases plain : settings.combineShapes with
    | true => rw [asked.mpr (Or.inl plain)]
    | false =>
        cases merges : eager with
        | false => rfl
        | true =>
            have above := (asked.mp merges).resolve_left (by rw [plain]; exact Bool.false_ne_true)
            refine (alike (Bool.eq_false_iff.mpr fun joins => ?_)).symm
            exact spared ⟨plain, above, joins⟩
  · obtain ⟨plain, above, joins⟩ := merges
    have inFile : eager = true := asked.mpr (Or.inr above)
    change Node.boxCountAll (node.combineShapes eager).children < _
    rw [children, inFile, plain]
    exact fewer joins

/-- An icon of a dot, a line and a title. -/
def dottedIcon : Layer Rat :=
  ⟨LayerInfo.usual "icon" "Icon" .group,
    [Layer.usual "dot" "Dot" .ellipse, Layer.usual "line" "Line" (.path "M0 0H9"),
      Layer.usual "title" "Title" (.text TextBlock.empty)]⟩

/-- A page with the icon that asks for boxes to be merged. -/
def eagerPage : Layer Rat :=
  ⟨{ LayerInfo.usual "home" "Home" .artboard with properties := [("combineShapes", .flag true)] },
    [dottedIcon]⟩

def eagerDocument : Document Rat :=
  ⟨[], [eagerPage], ⟨[], []⟩⟩

def eagerStart (target : Target) : Context Rat :=
  Context.start (Index.ofDocument eagerDocument) {} target

/-- The icon before shapes are merged. -/
def dottedIconNode : Node Rat :=
  let root := ((Node.buildRoot eagerPage).run (eagerStart .files)).1
  root.children.headD root

theorem hands_dottedIconNode :
    ((Node.buildRoot eagerPage).run (eagerStart .files)).1.Hands false dottedIconNode true :=
  Node.Hands.child List.mem_cons_self (Node.Hands.self _ _)

theorem hasEagerAbove_dottedIcon : eagerPage.HasEagerAbove dottedIcon :=
  ⟨eagerPage, eagerPage.mem_flatten_self, rfl, List.mem_cons_self⟩

theorem snippetTree_children_dottedIcon :
    let exported := dottedIconNode.combineShapes true
    ∃ copied, ((snippetTree dottedIcon).run (eagerStart .clipboard)).1 = some copied ∧
      dottedIconNode.MergesOnlyInFile {} eagerPage dottedIcon ∧
      exported ∈ ((widgetTree eagerPage).run (eagerStart .files)).1.parts ∧
      Node.boxCountAll exported.children < Node.boxCountAll copied.children := by
  intro exported
  have merges : dottedIconNode.MergesOnlyInFile {} eagerPage dottedIcon :=
    ⟨rfl, hasEagerAbove_dottedIcon, rfl⟩
  have copied : (((snippetTree dottedIcon).run (eagerStart .clipboard)).1).isSome := rfl
  obtain ⟨copied, found⟩ := Option.isSome_iff_exists.mp copied
  obtain ⟨kept, -, fewer⟩ := snippetTree_children (by decide +kernel) List.mem_cons_self
    List.mem_cons_self (Context.serves_start .files) (Context.serves_start .clipboard)
    hands_dottedIconNode rfl found
  exact ⟨copied, found, merges, kept rfl, fewer merges⟩

/-- In the file of the page the dot and the line of the icon are one shape; in a copy of the
icon they are not. -/
theorem children_dottedIcon_ne :
    eagerDocument.HasDistinctGuids ∧ dottedIcon.isVisible = true ∧
      (((snippetTree dottedIcon).run (eagerStart .clipboard)).1.map (·.children.length)) = some 3 ∧
      ∃ exported ∈ ((widgetTree eagerPage).run (eagerStart .files)).1.parts,
        exported.layer.guid = dottedIcon.guid ∧ exported.mode = .inline ∧
          exported.children.length = 2 := by
  refine ⟨by decide +kernel, rfl, by decide +kernel, dottedIconNode.combineShapes true, ?_, rfl, rfl,
    by decide +kernel⟩
  exact List.mem_cons_of_mem _ List.mem_cons_self

end DesignExport
