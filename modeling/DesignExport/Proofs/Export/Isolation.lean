import DesignExport.Number.Exact
import DesignExport.Proofs.Export.Watched
import DesignExport.Proofs.Export.Widget
import Mathlib.Data.List.Forall2
set_option autoImplicit false

/-! The calls of an export. Between two widgets a context differs from the one at
the start in its diagnostics, its fonts and the folder for images. No compile reads
these before it has set them anew, so the calls for each widget can be told from the
document and the settings. So what a host is asked for does not depend on what it answered
before, and the file of a widget does not depend on the widgets that are exported with it. -/

namespace DesignExport

open Exporting (Makes)

variable {α σ τ : Type}

/-! ### Calls -/

section Calls

/-- A context with nothing of a widget in it but renders that wait. -/
structure Context.Stands (idle : Context α) (fonts : List String)
    (pending : List (RasterRequest α)) (context : Context α) : Prop where
  idle_eq : context.idle = idle
  fonts_eq : context.fonts = fonts
  pending_eq : context.raster.pending = pending

namespace HostCall

def ofFile (file : SourceFile) : HostCall α :=
  .write file.fileName file.source

/-- A widget that is not compiled is not written. -/
def ofResult : Except ExportError SourceFile → List (HostCall α)
  | .error _ => []
  | .ok file => [ofFile file]

def ofRenders (requests : List (RasterRequest α)) : List (HostCall α) :=
  if requests.isEmpty then [] else [.render requests]

def ofAsset (file : Option SourceFile) : List (HostCall α) :=
  file.toList.map ofFile

end HostCall

namespace Exporting

section

variable (host : Host (StateM σ) α) {idle : Context α} {fonts : List String}
  {pending : List (RasterRequest α)}

theorem noteError_makes (message : String) (layer : Option (LayerInfo α)) :
    Makes (σ := σ) (Context.Stands idle fonts pending) (noteError message layer) []
      (fun _ => Context.Stands idle fonts pending) := by
  refine Makes.compile fun context stands => ?_
  exact ⟨stands.idle_eq, stands.fonts_eq, stands.pending_eq⟩

theorem renderPending_makes :
    Makes (Context.Stands idle fonts pending) (renderPending host.watched)
      (HostCall.ofRenders pending) (fun _ => Context.Stands idle fonts []) := by
  have taken : Makes (σ := σ) (Context.Stands idle fonts pending) (compile Compile.takeRenders) []
      (fun requests context => requests = pending ∧ Context.Stands idle fonts [] context) := by
    refine Makes.compile fun context stands => ?_
    exact ⟨stands.pending_eq, stands.idle_eq, stands.fonts_eq, rfl⟩
  refine Makes.quiet_bind taken fun requests => Makes.of_fact fun same => ?_
  rw [same, HostCall.ofRenders]
  split
  · exact Makes.pure fun _ stands => stands
  · refine Makes.bind_quiet (Makes.watch _ _) fun reply => ?_
    cases reply with
    | ok done => exact Makes.pure fun _ stands => stands
    | error error => exact noteError_makes _ _

theorem writeAsset_makes (file : Option SourceFile) :
    Makes (Context.Stands idle fonts pending) (writeAsset host.watched file)
      (HostCall.ofAsset file) (fun _ => Context.Stands idle fonts pending) := by
  cases file with
  | none => exact Makes.pure fun _ stands => stands
  | some file =>
      refine Makes.bind_quiet (Makes.watch _ _) fun reply => ?_
      cases reply with
      | ok done => exact Makes.pure fun _ stands => stands
      | error error =>
          exact Makes.quiet_bind (noteError_makes _ _) fun _ => Makes.pure fun _ stands => stands

theorem report_makes (message : String) (files : List String) :
    Makes (σ := σ) (Context.Stands idle fonts pending) (report message files) []
      (fun report _ => report.fonts = fonts) := by
  intro context world stands
  exact ⟨(List.append_nil _).symm, stands.fonts_eq⟩

end

end Exporting

variable [Scalar α]

/-- The calls for a widget. -/
def widgetCalls (idle : Context α) (widget : Layer α) : List (HostCall α) :=
  HostCall.ofResult ((compileWidget widget).run idle).1 ++
    HostCall.ofRenders ((compileWidget widget).run idle).2.raster.pending

theorem Context.Stands.after_compileWidget {idle context : Context α} {fonts : List String}
    (stands : Context.Stands idle fonts [] context) (widget : Layer α) :
    ((compileWidget widget).run context).1 = ((compileWidget widget).run idle).1 ∧
      Context.Stands idle (addAllOnce ((compileWidget widget).run idle).2.fonts fonts)
        ((compileWidget widget).run idle).2.raster.pending
        ((compileWidget widget).run context).2 := by
  have same := compileWidget_run widget context
  have kept := (compileWidget_framed widget).idle_eq context
  rw [stands.idle_eq] at same kept
  rw [same] at kept ⊢
  refine ⟨rfl, kept, ?_, ?_⟩
  · rw [← stands.fonts_eq]
    rfl
  · change context.raster.pending ++ _ = _
    rw [stands.pending_eq, List.nil_append]

/-- The fonts in use after some widgets. -/
def widgetFonts (idle : Context α) : List (Layer α) → List String → List String
  | [], fonts => fonts
  | widget :: rest, fonts =>
      widgetFonts idle rest (addAllOnce ((compileWidget widget).run idle).2.fonts fonts)

def assetCalls (assets : Assets α) (settings : Settings) : List (HostCall α) :=
  HostCall.ofAsset (ColorClass.file? assets settings).1 ++
    HostCall.ofAsset (TextStyleClass.file? assets settings).1

namespace Exporting

variable (host : Host (StateM σ) α) {idle : Context α} {fonts : List String}
  {pending : List (RasterRequest α)}

theorem compileWidget_makes (widget : Layer α) :
    Makes (σ := σ) (Context.Stands idle fonts []) (compile (compileWidget widget)) []
      (fun result context =>
        result = ((compileWidget widget).run idle).1 ∧
          Context.Stands idle (addAllOnce ((compileWidget widget).run idle).2.fonts fonts)
            ((compileWidget widget).run idle).2.raster.pending context) :=
  Makes.compile fun _ stands => stands.after_compileWidget widget

theorem writeWidget_makes (widget : Layer α) :
    Makes (Context.Stands idle fonts []) (writeWidget host.watched widget)
      (HostCall.ofResult ((compileWidget widget).run idle).1)
      (fun _ => Context.Stands idle (addAllOnce ((compileWidget widget).run idle).2.fonts fonts)
        ((compileWidget widget).run idle).2.raster.pending) := by
  refine Makes.quiet_bind (compileWidget_makes widget) fun result => Makes.of_fact fun same => ?_
  rw [← same]
  cases result with
  | error error => exact Makes.pure fun _ stands => stands
  | ok file =>
      refine Makes.bind_quiet (Makes.watch _ _) fun reply => ?_
      cases reply with
      | error error => exact Makes.pure fun _ stands => stands
      | ok done => exact Makes.pure fun _ stands => stands

theorem writeAssets_makes (assets : Assets α) :
    Makes (Context.Stands idle fonts pending) (writeAssets host.watched assets)
      (assetCalls assets idle.settings) (fun _ => Context.Stands idle fonts pending) := by
  have noted (result : Option SourceFile × Log) :
      Makes (σ := σ) (Context.Stands idle fonts pending) (compile (Compile.noting result)) []
        (fun file context => file = result.1 ∧ Context.Stands idle fonts pending context) := by
    refine Makes.compile fun context stands => ?_
    exact ⟨rfl, stands.idle_eq, stands.fonts_eq, stands.pending_eq⟩
  have read : Makes (σ := σ) (Context.Stands idle fonts pending) (compile Compile.settings) []
      (fun settings context =>
        settings = idle.settings ∧ Context.Stands idle fonts pending context) := by
    refine Makes.compile fun context stands => ⟨?_, stands⟩
    change context.idle.settings = idle.settings
    rw [stands.idle_eq]
  refine Makes.quiet_bind read fun settings => Makes.of_fact fun same => ?_
  rw [same]
  refine Makes.quiet_bind (noted _) fun colors => Makes.of_fact fun colorFile => ?_
  refine Makes.quiet_bind (noted _) fun styles => Makes.of_fact fun styleFile => ?_
  rw [colorFile, styleFile]
  refine Makes.bind (writeAsset_makes host _) fun colorFiles => ?_
  exact Makes.bind_quiet (writeAsset_makes host _) fun _ => Makes.pure fun _ stands => stands

/-- One widget after the other, whether or not those before it could be written. -/
theorem writeWidgets_makes (widgets : List (Layer α)) :
    ∀ fonts : List String,
      Makes (Context.Stands idle fonts []) (writeWidgets host.watched widgets)
        (widgets.flatMap (widgetCalls idle))
        (fun _ => Context.Stands idle (widgetFonts idle widgets fonts) []) := by
  induction widgets with
  | nil => exact fun _ => Makes.pure fun _ stands => stands
  | cons widget rest ih =>
      intro fonts
      rw [List.flatMap_cons, widgetCalls, List.append_assoc]
      refine Makes.bind (writeWidget_makes host widget) fun result => ?_
      have others (written : List String) :
          Makes (Context.Stands idle
              (addAllOnce ((compileWidget widget).run idle).2.fonts fonts)
              ((compileWidget widget).run idle).2.raster.pending)
            (do
              renderPending host.watched
              let files ← writeWidgets host.watched rest
              pure (written ++ files))
            (HostCall.ofRenders ((compileWidget widget).run idle).2.raster.pending ++
              rest.flatMap (widgetCalls idle))
            (fun _ => Context.Stands idle (widgetFonts idle (widget :: rest) fonts) []) := by
        refine Makes.bind (renderPending_makes host) fun _ => ?_
        exact Makes.bind_quiet (ih _) fun _ => Makes.pure fun _ stands => stands
      cases result with
      | ok file => exact Makes.quiet_bind (Makes.pure fun _ stands => stands) others
      | error error =>
          refine Makes.quiet_bind (noteError_makes _ _) fun _ => ?_
          exact Makes.quiet_bind (Makes.pure fun _ stands => stands) others

end Exporting

end Calls

/-! ### Files -/

/-- The files among calls, with name and text. -/
def HostCall.writes (calls : List (HostCall α)) : List (String × String) :=
  calls.filterMap fun call =>
    match call with
    | .write name text => some (name, text)
    | .render _ => none

open HostCall (writes)

theorem writes_append (first second : List (HostCall α)) :
    writes (first ++ second) = writes first ++ writes second :=
  List.filterMap_append

theorem writes_ofRenders (requests : List (RasterRequest α)) :
    writes (HostCall.ofRenders requests) = [] := by
  unfold HostCall.ofRenders
  split
  · rfl
  · rfl

namespace Document

variable (document : Document α) (settings : Settings)

/-- The context of an export between two widgets, but for its records. -/
def exportIdle : Context α :=
  (Context.start (Index.ofDocument document) settings .files).idle

theorem start_stands :
    Context.Stands (document.exportIdle settings) [] []
      (Context.start (Index.ofDocument document) settings .files) :=
  ⟨rfl, rfl, rfl⟩

end Document

variable [Scalar α]

/-- Every widget has one file. -/
theorem writes_widgetCalls (idle : Context α) (widget : Layer α) :
    ∃ file : SourceFile, ((compileWidget widget).run idle).1 = .ok file ∧
      writes (widgetCalls idle widget) = [(file.fileName, file.source)] := by
  obtain ⟨file, compiled⟩ := compileWidget_yields widget idle
  refine ⟨file, compiled, ?_⟩
  rw [widgetCalls, writes_append, writes_ofRenders, compiled]
  rfl

/-- The files of widgets stand in the order of the widgets. -/
theorem writes_flatMap_widgetCalls (idle : Context α) (widgets : List (Layer α)) :
    List.Forall₂ (fun widget file => writes (widgetCalls idle widget) = [file]) widgets
      (writes (widgets.flatMap (widgetCalls idle))) := by
  induction widgets with
  | nil => exact List.Forall₂.nil
  | cons widget rest ih =>
      obtain ⟨file, _, one⟩ := writes_widgetCalls idle widget
      rw [List.flatMap_cons, writes_append, one]
      exact List.Forall₂.cons one ih

namespace Document

variable (document : Document α) (settings : Settings)

/-- The calls of an export of all widgets. -/
def exportCalls : List (HostCall α) :=
  (exportedWidgets (Index.ofDocument document)).flatMap
      (widgetCalls (document.exportIdle settings)) ++
    assetCalls document.assets settings

theorem exportAll_calls (host : Host (StateM σ) α) (state : σ) :
    ((document.exportAll settings host.watched).run ⟨state, []⟩).2.calls =
        document.exportCalls settings ∧
      ((document.exportAll settings host.watched).run ⟨state, []⟩).1.fonts =
        widgetFonts (document.exportIdle settings)
          (exportedWidgets (Index.ofDocument document)) [] := by
  refine Makes.run_eq
    (fun (report : Report) => report.fonts = widgetFonts (document.exportIdle settings)
      (exportedWidgets (Index.ofDocument document)) [])
    (Makes.bind (Exporting.writeWidgets_makes host _ []) fun written => ?_)
    (start_stands document settings) ⟨state, []⟩
  refine Makes.bind_quiet (Exporting.writeAssets_makes host document.assets) fun assets => ?_
  exact Exporting.report_makes _ _

theorem exportAll_fonts (host : Host (StateM σ) α) (state : σ) :
    ((document.exportAll settings host).run state).1.fonts =
      widgetFonts (document.exportIdle settings)
        (exportedWidgets (Index.ofDocument document)) [] := by
  have watched := exportAll_watched document settings host ⟨state, []⟩
  rw [← watched]
  exact (exportAll_calls document settings host state).2

/-- The calls of an export of one widget. -/
def exportWidgetCalls (widget : Layer α) : List (HostCall α) :=
  let compiled := (compileWidget widget).run (document.exportIdle settings)
  HostCall.ofResult compiled.1 ++
    (assetCalls document.assets settings ++ HostCall.ofRenders compiled.2.raster.pending)

theorem exportWidget_calls (host : Host (StateM σ) α) (state : σ) (widget : Layer α) :
    let run := (document.exportWidget settings host.watched widget).run ⟨state, []⟩
    run.2.calls = document.exportWidgetCalls settings widget ∧
      run.1.fonts = widgetFonts (document.exportIdle settings) [widget] [] := by
  have others (fonts : List String) (pending : List (RasterRequest α)) (message : String)
      (written : List String) :
      Makes (Context.Stands (document.exportIdle settings) fonts pending)
        (do
          let assets ← Exporting.writeAssets host.watched document.assets
          Exporting.renderPending host.watched
          Exporting.report message (written ++ assets))
        (assetCalls document.assets settings ++ HostCall.ofRenders pending)
        (fun report _ => report.fonts = fonts) := by
    refine Makes.bind (Exporting.writeAssets_makes host document.assets) fun assets => ?_
    refine Makes.bind_quiet (Exporting.renderPending_makes host) fun _ => ?_
    exact Exporting.report_makes _ _
  refine Makes.run_eq (fun report : Report => report.fonts =
      widgetFonts (document.exportIdle settings) [widget] [])
    (Makes.bind (Exporting.writeWidget_makes host widget) fun result => ?_)
    (start_stands document settings) ⟨state, []⟩
  cases result with
  | ok file =>
      exact Makes.quiet_bind (Makes.pure fun _ stands => stands) fun value =>
        others _ _ value.1 value.2
  | error error =>
      refine Makes.quiet_bind (Exporting.noteError_makes _ _) fun _ => ?_
      exact Makes.quiet_bind (Makes.pure fun _ stands => stands) fun value =>
        others _ _ value.1 value.2

/-- However the calls of two hosts turn out, both get the same calls in the same
order. Only the message, the files and the diagnostics of the reports can differ. -/
theorem exportAll_calls_eq_of_hosts (host : Host (StateM σ) α) (state : σ)
    (other : Host (StateM τ) α) (otherState : τ) :
    let report := ((document.exportAll settings host).run state).1
    let otherReport := ((document.exportAll settings other).run otherState).1
    ((document.exportAll settings host.watched).run ⟨state, []⟩).2.calls =
        ((document.exportAll settings other.watched).run ⟨otherState, []⟩).2.calls ∧
      otherReport = { report with
        message := otherReport.message
        files := otherReport.files
        diagnostics := otherReport.diagnostics } := by
  intro report otherReport
  have calls := (exportAll_calls document settings host state).1
  have otherCalls := (exportAll_calls document settings other otherState).1
  have sameFonts : otherReport.fonts = report.fonts :=
    (exportAll_fonts document settings other otherState).trans
      (exportAll_fonts document settings host state).symm
  refine ⟨calls.trans otherCalls.symm, ?_⟩
  exact congrArg (Report.mk otherReport.message otherReport.files otherReport.diagnostics) sameFonts

/-- The files of an export of all widgets are one for each widget, in their order,
and those of the assets. The one for the widget around a layer is the file that an
export of this layer writes for it. -/
theorem exportSelected_file_eq_exportAll (guid : String) {layer widget : Layer α} {position : Nat}
    (found : document.find? guid = some layer)
    (enclosing : (Index.ofDocument document).widgetRootOf? layer = some widget)
    (included : (exportedWidgets (Index.ofDocument document))[position]? = some widget)
    (host : Host (StateM σ) α) (state : σ) (other : Host (StateM τ) α) (otherState : τ) :
    ∃ (file : String × String) (files assets : List (String × String)),
      writes ((document.exportSelected settings host.watched guid).run ⟨state, []⟩).2.calls =
          file :: assets ∧
        writes ((document.exportAll settings other.watched).run ⟨otherState, []⟩).2.calls =
          files ++ assets ∧
        files.length = (exportedWidgets (Index.ofDocument document)).length ∧
        files[position]? = some file := by
  have selected : document.exportSelected settings host.watched guid = (do
      let report ← document.exportWidget settings host.watched widget
      pure (.ok report)) := by
    rw [exportSelected, found]
    dsimp only
    rw [enclosing]
  have listed := writes_flatMap_widgetCalls (document.exportIdle settings)
    (exportedWidgets (Index.ofDocument document))
  obtain ⟨file, compiled, one⟩ := writes_widgetCalls (document.exportIdle settings) widget
  refine ⟨(file.fileName, file.source), _, writes (assetCalls document.assets settings),
    ?_, ?_, listed.length_eq.symm, ?_⟩
  · rw [selected]
    change writes ((document.exportWidget settings host.watched widget).run ⟨state, []⟩).2.calls = _
    rw [(exportWidget_calls document settings host state widget).1, exportWidgetCalls,
      writes_append, writes_append, writes_ofRenders, compiled, List.append_nil]
    rfl
  · rw [(exportAll_calls document settings other otherState).1, exportCalls, writes_append]
  · obtain ⟨inside, same⟩ := List.getElem?_eq_some_iff.mp included
    have counted := listed.length_eq ▸ inside
    have alone := listed.get inside counted
    rw [List.get_eq_getElem, List.get_eq_getElem, same, one] at alone
    rw [List.getElem?_eq_some_iff]
    exact ⟨counted, (List.head_eq_of_cons_eq alone).symm⟩

/-- A page with a group that is rendered, and behind it a page with one path. -/
def renderedThenPath : Document Rat :=
  ⟨[], [⟨LayerInfo.usual "home" "Home" .artboard,
        [⟨{ LayerInfo.usual "icon" "Icon" .group with isMarkedForExport := true },
          [Layer.usual "inside" "Inside" (.path "M0 0L10 10")]⟩]⟩,
      ⟨LayerInfo.usual "detail" "Detail" .artboard,
        [Layer.usual "arrow" "Arrow" (.path "M0 0L10 10")]⟩],
    ⟨[], []⟩⟩

/-- Counts the files and writes none. -/
def refusingHost : Host (StateM Nat) Rat where
  write name _ := do
    modify (· + 1)
    pure (.error (.notWritten name "disk full"))
  render _ := pure (.error (.notRendered "no renderer"))

def obligingHost : Host (StateM Unit) Rat where
  write _ _ := pure (.ok ())
  render _ := pure (.ok ())

theorem exportSelected_file_eq_exportAll_renderedThenPath :
    ∃ (file : String × String) (files assets : List (String × String)),
      writes ((renderedThenPath.exportSelected {} refusingHost.watched "arrow").run
          ⟨0, []⟩).2.calls = file :: assets ∧
        writes ((renderedThenPath.exportAll {} obligingHost.watched).run ⟨(), []⟩).2.calls =
          files ++ assets ∧
        files.length = (exportedWidgets (Index.ofDocument renderedThenPath)).length ∧
        files[1]? = some file :=
  exportSelected_file_eq_exportAll renderedThenPath {} "arrow" rfl rfl rfl refusingHost 0
    obligingHost ()

end Document

end DesignExport
