import DesignExport.Number.Exact
import DesignExport.Proofs.Export.Trees
import DesignExport.Proofs.Expression.Nodes
import DesignExport.Proofs.Tree.Harmless
set_option autoImplicit false

/-! The code of whole documents whose names do no harm. Every node is written as nothing or
as one expression, and an argument is left without a value exactly where the only layer
on a background has no code. -/

namespace DesignExport

open Compile (Keeps)
open DesignExport.Dart (IsCall IsExpression)
open DesignExport.Naming (IsIdentifier)

variable {α : Type}

section Trees

variable {document : Document α} {settings : Settings}

/-- A context for a document in front of the first build method of a widget. -/
def Context.Readies (document : Document α) (settings : Settings) (context : Context α) : Prop :=
  context.Serves document settings ∧ context.scope.methods = []

theorem Context.isHarmlessInvariant_readies (document : Document α) (harmless : settings.IsHarmless) :
    IsHarmlessInvariant (Readies document settings) where
  steady := fun _ _ ground ready => ⟨ready.1.of_sameGround ground, ground.methods_eq.trans ready.2⟩
  isHarmless := fun _ ready => ready.1.isHarmless harmless

/-- A context for a document in which all build methods are those of one tree. -/
def Context.HasMethodsOf (document : Document α) (settings : Settings) (tree : Node α)
    (context : Context α) : Prop :=
  context.Serves document settings ∧ ∀ entry ∈ context.scope.methods,
    ∃ part ∈ tree.parts, part.mode = .method ∧ CallWith part.LeavesGap entry.2

theorem Context.isHarmlessInvariant_hasMethodsOf (document : Document α) (harmless : settings.IsHarmless)
    (tree : Node α) : IsHarmlessInvariant (HasMethodsOf document settings tree) where
  steady := fun _ _ ground known =>
    ⟨known.1.of_sameGround ground, fun entry member => known.2 entry (ground.methods_eq ▸ member)⟩
  isHarmless := fun _ known => known.1.isHarmless harmless

theorem widgetClass_keeps (harmless : settings.IsHarmless) (layer : LayerInfo α) :
    Keeps (Context.Serves document settings) (widgetClass layer) IsIdentifier := by
  refine Keeps.get fun context serves => Keeps.pure ?_
  cases named : context.widgetName? layer.guid with
  | none =>
      rw [serves.settings_eq]
      exact Naming.isIdentifier_widgetClassName layer harmless.widgetPrefix
  | some name => exact (serves.isHarmless harmless).widget layer.guid name named

theorem snippetWidget_keeps (harmless : settings.IsHarmless) (layer : Layer α) :
    Keeps (Context.Serves document settings) (snippetWidget layer) IsIdentifier := by
  refine Keeps.get fun context serves => Keeps.pure ?_
  cases named : (context.index.widgetRootOf? layer).bind
      (fun widget => context.widgetName? widget.guid) with
  | none => rfl
  | some name =>
      obtain ⟨widget, _, found⟩ := Option.bind_eq_some_iff.mp named
      exact (serves.isHarmless harmless).widget widget.guid name found

namespace Node

variable [Scalar α] (documentHarmless : document.IsHarmless) (settingsHarmless : settings.IsHarmless)
  {layer : Layer α} (inside : layer ∈ Layer.flattenAll document.children)

include documentHarmless settingsHarmless inside

theorem mergedRoot_keeps :
    Keeps (Context.Readies document settings) (mergedRoot layer) (Throughout NodeInfo.IsHarmless) := by
  have invariant := Context.isHarmlessInvariant_readies document settingsHarmless
  refine (buildRoot_keeps invariant layer (documentHarmless.below inside)).bind fun root harmless => ?_
  refine (Compile.settings_keeps invariant).bind fun settings _ => Keeps.pure ?_
  exact throughout_combineShapes NodeInfo.isHarmless_keptByShapes root _ harmless

theorem mergedCopy?_keeps : Keeps (Context.Readies document settings) (mergedCopy? layer)
    (fun found => ∀ node ∈ found, node.Throughout NodeInfo.IsHarmless) := by
  have invariant := Context.isHarmlessInvariant_readies document settingsHarmless
  refine (build_keeps invariant layer (documentHarmless.below inside)).bind fun found harmless => ?_
  cases found with
  | none => exact Keeps.pure forall_mem_none
  | some node =>
      have unplaced : node.unplaced.Throughout NodeInfo.IsHarmless := by
        obtain ⟨info, children⟩ := node
        obtain ⟨own, below⟩ := throughout_mk.mp (harmless _ rfl)
        exact throughout_mk.mpr
          ⟨⟨own.layer, own.kind, own.decorators, own.mode, own.params⟩, below⟩
      refine (Compile.settings_keeps invariant).bind fun settings _ => Keeps.pure ?_
      intro merged same
      cases same
      exact throughout_combineShapes NodeInfo.isHarmless_keptByShapes _ _ unplaced

end Node

/-- A tree that is written for a harmless document has harmless nodes. Its context has served
no build method. -/
theorem Document.Writes.harmless [Scalar α] (documentHarmless : document.IsHarmless)
    (settingsHarmless : settings.IsHarmless) {tree : Node α} {ready : Context α}
    (writes : document.Writes settings tree ready) :
    tree.Throughout NodeInfo.IsHarmless ∧ ready.Readies document settings := by
  have begun {start : Context α} {name : Compile α String}
      (serves : start.Serves document settings)
      (named : Keeps (Context.Serves document settings) name IsIdentifier) :
      ((name >>= Compile.beginWidget).run start).2.Readies document settings :=
    ⟨((named.bind fun _ => Context.beginWidget_keeps) start serves).2, rfl⟩
  cases writes with
  | @widget layer start _ _ inside serves built =>
      have ready := begun serves (widgetClass_keeps settingsHarmless layer.toLayerInfo)
      have whole := Node.mergedRoot_keeps documentHarmless settingsHarmless inside _ ready
      have same : (widgetTree layer).run start = (Node.mergedRoot layer).run
          ((widgetClass layer.toLayerInfo >>= Compile.beginWidget).run start).2 := rfl
      rw [← same, built] at whole
      exact whole
  | @snippet layer start _ _ inside serves built =>
      have ready := begun serves (snippetWidget_keeps settingsHarmless layer)
      have whole := Node.mergedCopy?_keeps documentHarmless settingsHarmless inside _ ready
      have same : (snippetTree layer).run start = (Node.mergedCopy? layer).run
          ((snippetWidget layer >>= Compile.beginWidget).run start).2 := rfl
      rw [← same, built] at whole
      exact ⟨whole.1 tree rfl, whole.2⟩

end Trees

/-! ### The code of plain documents -/

section Code

variable {document : Document Float} {settings : Settings} (documentPlain : document.IsPlain)
  (settingsPlain : settings.IsPlain) {tree : Node Float} {ready : Context Float}
  (writes : document.Writes settings tree ready)

include documentPlain settingsPlain writes

/-- Wherever a node of a plain document is written, nothing is, or one expression. -/
theorem Node.isExpression_of_writes {part : Node Float} (inside : part ∈ tree.parts)
    (edit : Layout Float → Layout Float) {context : Context Float}
    (serves : context.Serves document settings) :
    ((part.writeWith edit).run context).1.1 = "" ∨
      IsExpression ((part.writeWith edit).run context).1.1 := by
  have settingsHarmless := settingsPlain.isHarmless
  have invariant := Context.isHarmlessInvariant_serves document settingsHarmless
  have harmless := (writes.harmless documentPlain.isHarmless settingsHarmless).1.part inside
  have accepts : part.AcceptsMethods (Context.Serves document settings) :=
    fun _ _ _ name code _ _ known => known.withMethod name code
  rcases (writeWith_keeps invariant part harmless accepts edit context serves).1 with
    ⟨_, empty⟩ | ⟨_, lacks, call, _⟩
  · exact Or.inl empty
  · exact Or.inr call.isExpression

end Code

/-- A page with a text that reads like code. -/
def quotedPage : Layer Float :=
  let block : TextBlock Float := { TextBlock.empty with text := "it's ), // [" }
  ⟨LayerInfo.usual "home" "Home page" .artboard, [Layer.usual "title" "Title 1" (.text block)]⟩

def quotedDocument : Document Float :=
  ⟨[], [quotedPage], ⟨[], []⟩⟩

theorem isPlain_quotedDocument : quotedDocument.IsPlain := by
  decide

theorem Settings.isPlain_usual : Settings.IsPlain {} :=
  ⟨trivial, by decide, by decide⟩

def quotedStart : Context Float :=
  Context.start (Index.ofDocument quotedDocument) {} .files

theorem writes_quotedPage : quotedDocument.Writes {} ((widgetTree quotedPage).run quotedStart).1
    ((widgetTree quotedPage).run quotedStart).2 :=
  Document.Writes.widget List.mem_cons_self (Context.serves_start .files) rfl

theorem Node.isExpression_of_writes_quotedPage :
    let tree := ((widgetTree quotedPage).run quotedStart).1
    ((tree.writeWith id).run quotedStart).1.1 = "" ∨
      IsExpression ((tree.writeWith id).run quotedStart).1.1 := by
  intro tree
  have inside : tree ∈ tree.parts := mem_parts.mpr (Or.inl rfl)
  exact isExpression_of_writes isPlain_quotedDocument Settings.isPlain_usual writes_quotedPage inside
    id (Context.serves_start .files)

section Code

variable {document : Document Float} {settings : Settings} (documentHarmless : document.IsHarmless)
  (settingsHarmless : settings.IsHarmless) {tree : Node Float} {ready : Context Float}
  (writes : document.Writes settings tree ready)

include documentHarmless settingsHarmless writes

/-- The code of a tree has an argument without a value exactly if the tree leaves a gap,
and the body of a build method exactly if its node does. -/
theorem Node.gaps_of_writes :
    tree.CodeOf (tree.write.run ready).1.1 ∧
      ∀ entry ∈ (tree.write.run ready).2.scope.methods,
        ∃ part ∈ tree.parts, part.mode = .method ∧ CallWith part.LeavesGap entry.2 := by
  obtain ⟨harmless, serves, unmethodical⟩ := writes.harmless documentHarmless settingsHarmless
  have invariant := Context.isHarmlessInvariant_hasMethodsOf document settingsHarmless tree
  have accepts : tree.AcceptsMethods (Context.HasMethodsOf document settings tree) := by
    intro part inside isMethod name code call context known
    refine ⟨known.1.withMethod name code, fun entry member => ?_⟩
    rcases Table.mem_of_mem_insert member with new | old
    · exact ⟨part, inside, isMethod, new ▸ call⟩
    · exact known.2 entry old
  have begun : ready.HasMethodsOf document settings tree := by
    refine ⟨serves, fun entry member => ?_⟩
    rw [unmethodical] at member
    exact absurd member List.not_mem_nil
  obtain ⟨codeOf, later⟩ := writeWith_keeps invariant tree harmless accepts id ready begun
  exact ⟨codeOf, later.2⟩

end Code

theorem Node.gaps_of_writes_quotedPage :
    let tree := ((widgetTree quotedPage).run quotedStart).1
    let written := tree.write.run ((widgetTree quotedPage).run quotedStart).2
    tree.CodeOf written.1.1 ∧ ∀ entry ∈ written.2.scope.methods,
      ∃ part ∈ tree.parts, part.mode = .method ∧ CallWith part.LeavesGap entry.2 :=
  gaps_of_writes isPlain_quotedDocument.isHarmless Settings.isPlain_usual.isHarmless writes_quotedPage

/-- A page on whose background there is only a group without layers. -/
def blankPage : Layer Rat :=
  let background : LayerInfo Rat :=
    { LayerInfo.usual "back" "bg" .ellipse with fill := some (.color ⟨0, 0, 255, 255⟩) }
  ⟨{ LayerInfo.usual "home" "Home" .artboard with hasDefaultName := true },
    [⟨background, []⟩, Layer.usual "empty" "Empty" .group]⟩

def blankPageCode : String :=
  ((widgetCode blankPage "Home").run
    (Context.start (Index.ofDocument ⟨[], [blankPage], ⟨[], []⟩⟩) {} .files)).1.1

/-- The page has an argument for its body, and no body. -/
theorem blankPageCode_lacks_body :
    blankPageCode = "Scaffold(backgroundColor: const Color(0xff0000ff), body: , )" ∧
      IsCall blankPageCode true := by
  have code : blankPageCode = "Scaffold(backgroundColor: const Color(0xff0000ff), body: , )" := by
    decide +kernel
  refine ⟨code, ?_⟩
  rw [code]
  exact rfl

end DesignExport
