import DesignExport.Export.Run
import DesignExport.Proofs.Access.Nodes
import DesignExport.Proofs.Document.Lineage
import DesignExport.Proofs.Export.Watched
import DesignExport.Proofs.Export.Trees
import DesignExport.Proofs.Tree.Origins
set_option autoImplicit false

/-! Exports and copies with all accesses checked. None of them is out of range if the runs
of the texts are bounded, whatever the settings are and whatever the host answers. -/

namespace DesignExport

open Checked (Meets)

variable {α : Type}

/-- The runs of the layer, if it is a text, and of the texts below it are bounded. -/
def Layer.HasBoundedTexts (layer : Layer α) : Prop :=
  ∀ part ∈ layer.flatten, part.toLayerInfo.HasBoundedRuns

/-- The runs of every text of a document are bounded. -/
def Document.HasBoundedRuns (document : Document α) : Prop :=
  ∀ layer ∈ Layer.flattenAll document.children, layer.toLayerInfo.HasBoundedRuns

instance (document : Document α) : Decidable document.HasBoundedRuns :=
  inferInstanceAs (Decidable
    (∀ layer ∈ Layer.flattenAll document.children, layer.toLayerInfo.HasBoundedRuns))

variable [Scalar α]

/-! ### Compiles -/

def checkedWidgetCode (layer : Layer α) (className : String) : Checked α (String × WidgetScope) := do
  Checked.of (Compile.beginWidget className)
  let root ← Checked.of (Node.buildRoot layer)
  let merged ← root.checkedCombineShapes (← Checked.of Compile.settings).combineShapes
  let (body, _) ← merged.checkedWriteWith id
  pure (body, ← Checked.of Compile.finishWidget)

def checkedCompileWidget (layer : Layer α) : Checked α (Except ExportError SourceFile) := do
  let className ← Checked.of (widgetClass layer.toLayerInfo)
  let (body, scope) ← checkedWidgetCode layer className
  if body.isEmpty then pure (.error (.nothingToExport className))
  else
    let nullSafe := (← Checked.of Compile.settings).nullSafe
    pure (.ok (SourceFile.ofWidget className body scope nullSafe))

def checkedCompileSnippet (layer : Layer α) : Checked α (Except ExportError String) := do
  Checked.of (Compile.beginWidget (← Checked.of (snippetWidget layer)))
  match ← Checked.of (Node.build layer) with
  | none => pure (.error (.nothingToExport layer.name))
  | some node =>
      let merged ← node.unplaced.checkedCombineShapes (← Checked.of Compile.settings).combineShapes
      let (code, _) ← merged.checkedWriteWith id
      let _ ← Checked.of Compile.finishWidget
      if code.isEmpty then pure (.error (.nothingToExport layer.name)) else pure (.ok code)

namespace Node

/-- Merging shapes does not change texts. -/
theorem hasBoundedRuns_combineShapes {node : Node α} (bounded : node.HasBoundedRuns) (eager : Bool) :
    (node.combineShapes eager).HasBoundedRuns := by
  apply throughout_combineShapes _ node eager bounded
  intro info frame members own
  exact own

omit [Scalar α] in
theorem hasBoundedRuns_unplaced {node : Node α} (bounded : node.HasBoundedRuns) :
    node.unplaced.HasBoundedRuns := by
  obtain ⟨info, children⟩ := node
  obtain ⟨own, below⟩ := throughout_mk.mp bounded
  exact throughout_mk.mpr ⟨own, below⟩

end Node

section

variable {layer : Layer α} (bounded : layer.HasBoundedTexts)

include bounded

theorem Node.buildRoot_hasBoundedRuns : Compile.Yields (buildRoot layer) HasBoundedRuns := by
  obtain ⟨info, children⟩ := layer
  rw [Layer.HasBoundedTexts, Layer.flatten] at bounded
  obtain ⟨own, below⟩ := List.forall_mem_cons.mp bounded
  intro context
  unfold HasBoundedRuns
  apply buildRoot_throughout
  · intro source inside node made
    rw [made.layer_eq]
    exact below source inside
  · exact own

theorem Node.build_hasBoundedRuns :
    Compile.Yields (build layer) (fun built => ∀ node ∈ built, node.HasBoundedRuns) := by
  intro context node built part inside
  obtain ⟨source, among, origin⟩ := exists_source built inside
  rw [(build_run_eq_some origin).1.layer_eq]
  exact bounded source among

theorem checkedWidgetCode_meets (className : String) :
    Meets (checkedWidgetCode layer className) (widgetCode layer className) := by
  apply (Meets.of (Compile.beginWidget className)).bind
  intro _
  apply (Meets.of (Node.buildRoot layer)).bind_yields (Node.buildRoot_hasBoundedRuns bounded)
  intro root texts
  apply (Meets.of Compile.settings).bind
  intro settings
  apply Meets.access (Node.checkedCombineShapes_eq root settings.combineShapes)
  apply (Node.checkedWriteWith_meets (Node.hasBoundedRuns_combineShapes texts _) id).bind
  intro written
  apply (Meets.of Compile.finishWidget).bind
  intro scope
  exact Meets.pure _

theorem checkedCompileWidget_meets : Meets (checkedCompileWidget layer) (compileWidget layer) := by
  apply (Meets.of (widgetClass layer.toLayerInfo)).bind
  intro className
  apply (checkedWidgetCode_meets bounded className).bind
  intro written
  apply Meets.ite
  · intro _
    exact Meets.pure _
  · intro _
    apply (Meets.of Compile.settings).bind
    intro settings
    exact Meets.pure _

theorem checkedCompileSnippet_meets :
    Meets (checkedCompileSnippet layer) (compileSnippet layer) := by
  apply (Meets.of (snippetWidget layer)).bind
  intro widget
  apply (Meets.of (Compile.beginWidget widget)).bind
  intro _
  apply (Meets.of (Node.build layer)).bind_yields (Node.build_hasBoundedRuns bounded)
  intro built texts
  cases built with
  | none => exact Meets.pure _
  | some node =>
      have plain := Node.hasBoundedRuns_unplaced (texts node rfl)
      apply (Meets.of Compile.settings).bind
      intro settings
      apply Meets.access (Node.checkedCombineShapes_eq node.unplaced settings.combineShapes)
      apply (Node.checkedWriteWith_meets (Node.hasBoundedRuns_combineShapes plain _) id).bind
      intro written
      apply (Meets.of Compile.finishWidget).bind
      intro _
      apply Meets.ite
      · intro _
        exact Meets.pure _
      · intro _
        exact Meets.pure _

end

/-! ### Exports -/

variable {β : Type} {m : Type → Type} [Monad m]

/-- The host of an export that can stop. It answers as before. -/
def Host.lifted (host : Host m α) : Host (OptionT m) α where
  write name text := OptionT.lift (host.write name text)
  render requests := OptionT.lift (host.render requests)

namespace Exporting

/-- A compile that stops ends the export. -/
def checked (step : Checked α β) : Exporting (OptionT m) α β :=
  fun context => OptionT.mk (pure (step.run context))

/-- Hands what a widget is compiled to, if there is anything, to the host. -/
def writeCompiled (host : Host m α) (result : Except ExportError SourceFile) :
    Exporting m α (Except ExportError String) := do
  match result with
  | .error error => pure (.error error)
  | .ok file =>
      match ← host.write file.fileName file.source with
      | .error error => pure (.error error)
      | .ok _ => pure (.ok file.fileName)

/-- What is left to do when a widget is written, or is not. -/
def writeRest (host : Host m α) (widget : Layer α) (others : Exporting m α (List String))
    (result : Except ExportError String) : Exporting m α (List String) := do
  let written ←
    match result with
    | .ok file => pure [file]
    | .error error => do
        noteFailure widget error
        pure []
  renderPending host
  let files ← others
  pure (written ++ files)

/-- What is left to do when the only widget is written, or is not. -/
def reportWidget (host : Host m α) (widget : Layer α) (assets : Assets α)
    (result : Except ExportError String) : Exporting m α Report := do
  let (message, written) ←
    match result with
    | .ok file => pure ("Exported '" ++ file ++ "' successfully", [file])
    | .error error => do
        noteFailure widget error
        pure ("Widget export failed", [])
  let assetFiles ← writeAssets host assets
  renderPending host
  report message (written ++ assetFiles)

def checkedWriteWidget (host : Host (OptionT m) α) (widget : Layer α) :
    Exporting (OptionT m) α (Except ExportError String) := do
  writeCompiled host (← checked (checkedCompileWidget widget))

def checkedWriteWidgets (host : Host (OptionT m) α) :
    List (Layer α) → Exporting (OptionT m) α (List String)
  | [] => pure []
  | widget :: rest => do
      writeRest host widget (checkedWriteWidgets host rest) (← checkedWriteWidget host widget)

theorem writeWidget_eq (host : Host m α) (widget : Layer α) :
    writeWidget host widget = compile (compileWidget widget) >>= writeCompiled host :=
  rfl

theorem writeWidgets_cons (host : Host m α) (widget : Layer α) (rest : List (Layer α)) :
    writeWidgets host (widget :: rest) =
      writeWidget host widget >>= writeRest host widget (writeWidgets host rest) :=
  rfl

omit [Scalar α] in
theorem checked_eq {step : Checked α β} {other : Compile α β} (meets : Meets step other) :
    (checked step : Exporting (OptionT m) α β) = compile other := by
  funext context
  exact congrArg (fun result => OptionT.mk (pure result)) (meets context)

theorem checkedWriteWidget_eq (host : Host (OptionT m) α) {widget : Layer α}
    (bounded : widget.HasBoundedTexts) : checkedWriteWidget host widget = writeWidget host widget := by
  rw [checkedWriteWidget, writeWidget_eq, checked_eq (checkedCompileWidget_meets bounded)]

theorem checkedWriteWidgets_eq (host : Host (OptionT m) α) (widgets : List (Layer α))
    (bounded : ∀ widget ∈ widgets, widget.HasBoundedTexts) :
    checkedWriteWidgets host widgets = writeWidgets host widgets := by
  induction widgets with
  | nil => rfl
  | cons widget rest ih =>
      obtain ⟨first, others⟩ := List.forall_mem_cons.mp bounded
      rw [checkedWriteWidgets, writeWidgets_cons, checkedWriteWidget_eq host first, ih others]

end Exporting

/-- What goes on in a world without stops goes on in one that can stop. -/
def Correspondence.lifting [LawfulMonad m] : Correspondence m (OptionT m) where
  Holds first second := second = OptionT.lift first
  pure value := (OptionT.lift_pure value).symm
  bind := by
    intro β γ first second next other same rest
    rw [same, OptionT.lift_bind, funext rest]

omit [Scalar α] in
theorem Host.lifted_lifting [LawfulMonad m] (host : Host m α) :
    Correspondence.lifting.Hosts host host.lifted where
  write _ _ := rfl
  render _ := rfl

namespace Document

def checkedExportAll (document : Document α) (settings : Settings) (host : Host (OptionT m) α) :
    OptionT m Report := do
  let index := Index.ofDocument document
  let widgets := exportedWidgets index
  let steps : Exporting (OptionT m) α Report := do
    let written ← Exporting.checkedWriteWidgets host widgets
    let assets ← Exporting.writeAssets host document.assets
    Exporting.report
      ("Exported " ++ toString written.length ++ " of " ++ toString widgets.length ++ " widgets")
      (written ++ assets)
  let (report, _) ← steps.run (Context.start index settings .files)
  pure report

def checkedExportWidget (document : Document α) (settings : Settings) (host : Host (OptionT m) α)
    (widget : Layer α) : OptionT m Report := do
  let steps : Exporting (OptionT m) α Report := do
    Exporting.reportWidget host widget document.assets (← Exporting.checkedWriteWidget host widget)
  let (report, _) ← steps.run (Context.start (Index.ofDocument document) settings .files)
  pure report

def checkedExportSelected (document : Document α) (settings : Settings)
    (host : Host (OptionT m) α) (guid : String) : OptionT m (Except ExportError Report) := do
  match document.find? guid with
  | none => pure (.error (.unknownLayer guid))
  | some layer =>
      match (Index.ofDocument document).widgetRootOf? layer with
      | none => pure (.error .outsideWidgets)
      | some widget => do
          let report ← document.checkedExportWidget settings host widget
          pure (.ok report)

def checkedCopySelected (document : Document α) (settings : Settings) (guid : String) :
    Option (Except ExportError Snippet) := do
  match document.find? guid with
  | none => pure (.error (.unknownLayer guid))
  | some layer =>
      if layer.isWidgetRoot then pure (.error (.widgetSelected layer.name))
      else
        let (result, context) ←
          (checkedCompileSnippet layer).run (Context.start (Index.ofDocument document) settings .clipboard)
        match result with
        | .error error => pure (.error error)
        | .ok code =>
            pure (.ok ⟨code, ⟨"Flutter code copied to clipboard", [], context.log, context.fonts⟩⟩)

omit [Scalar α] in
theorem mem_of_find?_eq_some {document : Document α} {guid : String} {layer : Layer α}
    (found : document.find? guid = some layer) : layer ∈ Layer.flattenAll document.children := by
  rw [find?, Layer.findAmong?_eq_find?_flattenAll] at found
  exact List.mem_of_find?_eq_some found

section

variable {document : Document α} (bounded : document.HasBoundedRuns)

include bounded

omit [Scalar α] in
theorem HasBoundedRuns.below {layer : Layer α}
    (inside : layer ∈ Layer.flattenAll document.children) : layer.HasBoundedTexts :=
  fun part below => bounded part (Layer.mem_flattenAll_trans inside below)

theorem checkedExportAll_eq (settings : Settings) (host : Host (OptionT m) α) :
    document.checkedExportAll settings host = document.exportAll settings host := by
  have widgets : ∀ widget ∈ exportedWidgets (Index.ofDocument document),
      widget.HasBoundedTexts := by
    intro widget member
    have among := List.mem_of_mem_filter member
    rw [Index.widgets_ofDocument] at among
    exact bounded.below (List.mem_of_mem_filter among)
  unfold checkedExportAll exportAll
  dsimp only
  rw [Exporting.checkedWriteWidgets_eq host _ widgets]

theorem checkedExportWidget_eq (settings : Settings) (host : Host (OptionT m) α) {widget : Layer α}
    (inside : widget ∈ Layer.flattenAll document.children) :
    document.checkedExportWidget settings host widget =
      document.exportWidget settings host widget := by
  let start : Context α := Context.start (Index.ofDocument document) settings .files
  let follow := Exporting.reportWidget host widget document.assets
  -- Both go on in the same way from the result of the widget.
  have exported : document.exportWidget settings host widget =
      (Exporting.writeWidget host widget >>= follow).run start >>= fun result => pure result.1 := rfl
  have checked : document.checkedExportWidget settings host widget =
      (Exporting.checkedWriteWidget host widget >>= follow).run start >>=
        fun result => pure result.1 := rfl
  rw [exported, checked, Exporting.checkedWriteWidget_eq host (bounded.below inside)]

theorem checkedExportSelected_eq (settings : Settings) (host : Host (OptionT m) α) (guid : String) :
    document.checkedExportSelected settings host guid =
      document.exportSelected settings host guid := by
  unfold checkedExportSelected exportSelected
  cases found : document.find? guid with
  | none => rfl
  | some layer =>
      dsimp only
      cases enclosing : (Index.ofDocument document).widgetRootOf? layer with
      | none => rfl
      | some widget =>
          have inside := Index.mem_of_widgetRootOf?_eq_some (mem_of_find?_eq_some found) enclosing
          dsimp only
          rw [checkedExportWidget_eq bounded settings host inside]

theorem checkedCopySelected_eq (settings : Settings) (guid : String) :
    document.checkedCopySelected settings guid = some (document.copySelected settings guid) := by
  unfold checkedCopySelected copySelected
  cases found : document.find? guid with
  | none => rfl
  | some layer =>
      dsimp only
      by_cases root : layer.isWidgetRoot = true
      · rw [if_pos root, if_pos root]
        rfl
      · have meets :=
          checkedCompileSnippet_meets (bounded.below (mem_of_find?_eq_some found))
        rw [if_neg root, if_neg root, meets]
        generalize (compileSnippet layer).run _ = compiled
        obtain ⟨result, context⟩ := compiled
        cases result with
        | error error => rfl
        | ok code => rfl

end

/-- Exports and copies finish with all accesses checked, and do what they do without. -/
theorem exports_access_in_range [LawfulMonad m] {document : Document α}
    (bounded : document.HasBoundedRuns) (settings : Settings) (host : Host m α) :
    (document.checkedExportAll settings host.lifted).run = some <$> document.exportAll settings host ∧
      (∀ guid : String, (document.checkedExportSelected settings host.lifted guid).run =
        some <$> document.exportSelected settings host guid) ∧
      ∀ guid : String, document.checkedCopySelected settings guid =
        some (document.copySelected settings guid) := by
  have lifted {β : Type} (step : m β) : (OptionT.lift step).run = some <$> step := by
    rw [OptionT.run_lift, map_eq_pure_bind]
  have hosts := host.lifted_lifting
  constructor
  · have same := Correspondence.exportAll_holds hosts document settings
    rw [checkedExportAll_eq bounded, same, lifted]
  · constructor
    · intro guid
      have same := Correspondence.exportSelected_holds hosts document settings guid
      rw [checkedExportSelected_eq bounded, same, lifted]
    · intro guid
      exact checkedCopySelected_eq bounded settings guid

/-- A dashed line and a text of several runs on a background. Not all characters have one
byte, and the first dash has no length. -/
def cardDocument (length : Nat) : Document Rat :=
  let dashed : Stroke Rat := ⟨⟨0, 0, 0, 255⟩, 1, true, .center, .miter, .butt, [0, 2], 0, 4⟩
  let runs : List (TextRun Rat) :=
    [{ TextRun.usual with length := 1 }, { TextRun.usual with length := length, size := 20 },
      { TextRun.usual with length := 3 }]
  let title : TextBlock Rat := { TextBlock.empty with text := "Größe (m)", runs := runs }
  ⟨[], [⟨LayerInfo.usual "home" "Home" .artboard,
      [⟨LayerInfo.usual "card" "Kärtchen (neu)" .group,
        [Layer.usual "back" "bg" (.path "M0 0L10 10"),
          ⟨{ LayerInfo.usual "line" "Line" (.path "M0 0L10 10") with stroke := some dashed }, []⟩,
          Layer.usual "title" "Titel" (.text title)]⟩]⟩], ⟨[], []⟩⟩

def silentHost : Host Id Rat where
  write _ _ := .ok ()
  render _ := .ok ()

theorem exports_access_in_range_card :
    (cardDocument 4).HasBoundedRuns ∧
      ((cardDocument 4).checkedExportAll {} silentHost.lifted).run =
        some ((cardDocument 4).exportAll {} silentHost) ∧
      ((cardDocument 4).checkedExportSelected {} silentHost.lifted "title").run =
        some ((cardDocument 4).exportSelected {} silentHost "title") ∧
      (cardDocument 4).checkedCopySelected {} "card" =
        some ((cardDocument 4).copySelected {} "card") := by
  have bounded : (cardDocument 4).HasBoundedRuns := by decide +kernel
  obtain ⟨all, selected, copied⟩ := exports_access_in_range bounded {} silentHost
  exact ⟨bounded, all, selected "title", copied "card"⟩

/-- The end of a run that has no place in a machine word is not a position. -/
example : ((cardDocument (UInt64.size - 1)).checkedCopySelected {} "title").isNone = true := by
  decide +kernel

end Document

end DesignExport
