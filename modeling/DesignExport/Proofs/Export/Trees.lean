import DesignExport.Export.Widget
import DesignExport.Proofs.Compile.Keeps
import DesignExport.Proofs.Document.Owners
import DesignExport.Proofs.Expression.Calls
set_option autoImplicit false

/-! The trees that are written, and the contexts that they are written in. Such contexts know
one document and its settings; if both are harmless, so is all that they offer to code. -/

namespace DesignExport

section Serving

open Compile (Keeps SameGround)
open DesignExport.Dart (IsQuotable)
open DesignExport.Naming (IsIdentifier)

variable {α : Type}

/-- The class names of the widgets of a document. -/
def Document.widgetNames (document : Document α) (settings : Settings) : Table String :=
  (Context.nameWidgets settings (Index.ofDocument document).widgets [] []).1

/-- The folder for the images of a widget. -/
def RasterQueue.folderOf (widget : String) : String :=
  (RasterQueue.start (RasterQueue.empty : RasterQueue Unit) widget).folder

/-- A context in the compile of something from a document. -/
structure Context.Serves (document : Document α) (settings : Settings) (context : Context α) :
    Prop where
  index_eq : context.index = Index.ofDocument document
  settings_eq : context.settings = settings
  widgetNames_eq : context.widgetNames = document.widgetNames settings
  /-- No widget has been begun, or one with a name of code. -/
  folder : context.raster.folder = "" ∨
    ∃ widget, IsIdentifier widget ∧ context.raster.folder = RasterQueue.folderOf widget

namespace Context

variable {document : Document α} {settings : Settings}

theorem serves_start (target : Target) :
    (Context.start (Index.ofDocument document) settings target).Serves document settings :=
  ⟨rfl, rfl, rfl, Or.inl rfl⟩

theorem Serves.of_sameGround {first second : Context α} (serves : first.Serves document settings)
    (ground : SameGround first second) : second.Serves document settings := by
  obtain ⟨index, own, names, folder⟩ := serves
  rw [← ground.index_eq] at index
  rw [← ground.settings_eq] at own
  rw [← ground.widgetNames_eq] at names
  rw [← ground.folder_eq] at folder
  exact ⟨index, own, names, folder⟩

theorem Serves.withMethod {context : Context α} (serves : context.Serves document settings)
    (name body : String) : (context.withMethod name body).Serves document settings :=
  ⟨serves.index_eq, serves.settings_eq, serves.widgetNames_eq, serves.folder⟩

theorem isIdentifier_nameWidgets
    (isPrefix : settings.widgetPrefix = "" ∨ IsIdentifier settings.widgetPrefix) :
    ∀ (widgets : List (Layer α)) (names : Table String) (taken : List String),
      (∀ entry ∈ names, IsIdentifier entry.2) →
        ∀ entry ∈ (nameWidgets settings widgets names taken).1, IsIdentifier entry.2
  | [], _, _, known => known
  | widget :: rest, names, taken, known => by
      refine isIdentifier_nameWidgets isPrefix rest _ _ fun entry member => ?_
      rcases Table.mem_of_mem_insert member with new | old
      · rw [new]
        exact Naming.isIdentifier_widgetClassName widget.toLayerInfo isPrefix
      · exact known entry old

end Context

theorem RasterQueue.isQuotable_folderOf {widget : String} (identifier : IsIdentifier widget) :
    IsQuotable (folderOf widget) := by
  have folders : IsQuotable "assets/images/" := by decide
  have words : ∀ char ∈ widget.toList, Text.isPlainChar char = true := by
    intro char member
    have word := identifier.every char member
    simp only [Dart.isWordChar, Bool.or_eq_true, decide_eq_true_eq] at word
    rcases word with letter | underscore
    · simp only [Text.isPlainChar, letter, Bool.true_or]
    · rw [underscore]
      rfl
  refine folders.append (Text.Every.ofList fun char member => ?_)
  have lowered := (List.mem_filter.mp member).1
  rw [Text.lower_of_ascii fun other inside => Text.toNat_of_isPlainChar (words other inside)] at lowered
  obtain ⟨own, inside, same⟩ := List.mem_map.mp lowered
  rw [← same]
  exact Dart.isQuotableChar_of_isPlainChar (Text.isPlainChar_toLower (words own inside))

namespace Context

variable {document : Document α} {settings : Settings}

theorem Serves.isHarmless {context : Context α} (serves : context.Serves document settings)
    (harmless : settings.IsHarmless) : context.IsHarmless where
  widthUnit := serves.settings_eq ▸ harmless.widthUnit
  image := by
    intro key name found
    rw [serves.settings_eq] at found
    exact harmless.images (key, name) (Table.mem_of_find? found)
  folder := by
    rcases serves.folder with none | ⟨widget, identifier, folder⟩
    · rw [none]
      decide
    · rw [folder]
      exact RasterQueue.isQuotable_folderOf identifier
  widget := by
    intro guid name found
    rw [widgetName?, serves.widgetNames_eq] at found
    exact isIdentifier_nameWidgets harmless.widgetPrefix _ [] [] (fun _ absent => absurd absent List.not_mem_nil)
      (guid, name) (Table.mem_of_find? found)

/-- While a document is compiled, what a context offers stays harmless. -/
theorem isHarmlessInvariant_serves (document : Document α) (harmless : settings.IsHarmless) :
    IsHarmlessInvariant (Context.Serves document settings) :=
  ⟨fun _ _ ground serves => serves.of_sameGround ground, fun _ serves => serves.isHarmless harmless⟩

theorem beginWidget_keeps {widget : String} (identifier : IsIdentifier widget) :
    Keeps (Context.Serves document settings) (Compile.beginWidget widget) (fun _ => True) :=
  fun _ serves => ⟨trivial, serves.index_eq, serves.settings_eq, serves.widgetNames_eq,
    Or.inr ⟨widget, identifier, rfl⟩⟩

end Context

end Serving

/-! ### Trees

The merged tree below the root of a widget, and that of a copied layer. -/

open Compile (Keeps)
open DesignExport.Naming (IsIdentifier)

variable {α : Type}

theorem Document.IsHarmless.below {document : Document α} (harmless : document.IsHarmless)
    {layer : Layer α} (inside : layer ∈ Layer.flattenAll document.children) :
    ∀ part ∈ layer.flatten, part.toLayerInfo.IsHarmless :=
  fun part below => harmless part (Layer.mem_flattenAll_trans inside below)

section

variable [Scalar α]

/-! ### The trees of a document -/

namespace Node

/-- The root of a widget once its shapes are merged. -/
def mergedRoot (layer : Layer α) : Compile α (Node α) := do
  let root ← buildRoot layer
  pure (root.combineShapes (← Compile.settings).combineShapes)

/-- Whoever pastes the code of a copied layer places it. -/
def unplaced (node : Node α) : Node α :=
  { node with layout := { node.layout with isEnabled := false } }

/-- A copied layer once its shapes are merged, unless it cannot be drawn. -/
def mergedCopy? (layer : Layer α) : Compile α (Option (Node α)) := do
  match ← build layer with
  | none => pure none
  | some node => do
      pure (some (node.unplaced.combineShapes (← Compile.settings).combineShapes))

end Node

/-- The tree that the code of a widget is written from. -/
def widgetTree (layer : Layer α) : Compile α (Node α) := do
  Compile.beginWidget (← widgetClass layer.toLayerInfo)
  Node.mergedRoot layer

/-- The tree that the code of a copied layer is written from. -/
def snippetTree (layer : Layer α) : Compile α (Option (Node α)) := do
  Compile.beginWidget (← snippetWidget layer)
  Node.mergedCopy? layer

/-- The code of a widget and its tables come from its tree. -/
theorem widgetCode_run {layer : Layer α} {start ready : Context α} {tree : Node α}
    (built : (widgetTree layer).run start = (tree, ready)) :
    ((widgetCode layer ((widgetClass layer.toLayerInfo).run start).1).run start).1 =
      ((tree.write.run ready).1.1, (tree.write.run ready).2.scope) := by
  have same : ((widgetCode layer ((widgetClass layer.toLayerInfo).run start).1).run start).1 =
      ((((widgetTree layer).run start).1.write.run ((widgetTree layer).run start).2).1.1,
        (((widgetTree layer).run start).1.write.run ((widgetTree layer).run start).2).2.scope) := rfl
  rw [same, built]

/-- So does the code of a copied layer, if there is any. -/
theorem compileSnippet_run {layer : Layer α} {start ready : Context α} {tree : Node α}
    (built : (snippetTree layer).run start = (some tree, ready)) :
    (compileSnippet layer).run start =
      (if (tree.write.run ready).1.1.isEmpty then .error (.nothingToExport layer.name)
        else .ok (tree.write.run ready).1.1,
        { (tree.write.run ready).2 with scope := WidgetScope.empty "" }) := by
  rw [snippetTree, Compile.run_bind, Compile.run_bind, Node.mergedCopy?, Compile.run_bind] at built
  rw [compileSnippet, Compile.run_bind, Compile.run_bind, Compile.run_bind]
  generalize (Compile.beginWidget ((snippetWidget layer).run start).1).run
    ((snippetWidget layer).run start).2 = begun at built ⊢
  cases found : ((Node.build layer).run begun.2).1 with
  | none =>
      rw [found] at built
      cases built
  | some node =>
      rw [found] at built
      cases built
      exact (apply_ite (fun step : Compile α (Except ExportError String) => step.run _) _ _ _).trans
        (apply_ite (fun result => (result, _)) _ _ _).symm

theorem compileSnippet_run_none {layer : Layer α} {start ready : Context α}
    (built : (snippetTree layer).run start = (none, ready)) :
    ((compileSnippet layer).run start).1 = .error (.nothingToExport layer.name) := by
  rw [snippetTree, Compile.run_bind, Compile.run_bind, Node.mergedCopy?, Compile.run_bind] at built
  rw [compileSnippet, Compile.run_bind, Compile.run_bind, Compile.run_bind]
  generalize (Compile.beginWidget ((snippetWidget layer).run start).1).run
    ((snippetWidget layer).run start).2 = begun at built ⊢
  cases found : ((Node.build layer).run begun.2).1 with
  | none => rfl
  | some node =>
      rw [found] at built
      cases built

/-- A tree that is written for a layer of a document, and the context it is written in. -/
inductive Document.Writes (document : Document α) (settings : Settings) :
    Node α → Context α → Prop where
  | widget {layer : Layer α} {start ready : Context α} {tree : Node α}
      (inside : layer ∈ Layer.flattenAll document.children)
      (serves : start.Serves document settings)
      (built : (widgetTree layer).run start = (tree, ready)) : Writes document settings tree ready
  | snippet {layer : Layer α} {start ready : Context α} {tree : Node α}
      (inside : layer ∈ Layer.flattenAll document.children)
      (serves : start.Serves document settings)
      (built : (snippetTree layer).run start = (some tree, ready)) :
      Writes document settings tree ready

end

end DesignExport
