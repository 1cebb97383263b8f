import DesignExport.Export.Run
import DesignExport.Proofs.Export.Isolation
import DesignExport.Proofs.Export.Widget
import DesignExport.Proofs.Table
import Mathlib.Data.List.Nodup
set_option autoImplicit false

/-! The names of the files of an export, and what is noted about names. Nothing that has been
noted is taken back, whatever the host answers. -/

namespace DesignExport

section Noting

variable {α β γ σ : Type}

namespace Exporting

/-- A step adds to the diagnostics, if anything. -/
def Notes (step : Exporting (StateM σ) α β) : Prop :=
  ∀ (context : Context α) (state : σ),
    context.log <+: ((step.run context).run state).1.2.log

namespace Notes

theorem pure (value : β) : Notes (Pure.pure value : Exporting (StateM σ) α β) :=
  fun _ _ => List.prefix_refl _

theorem bind {step : Exporting (StateM σ) α β} {next : β → Exporting (StateM σ) α γ}
    (first : Notes step) (second : ∀ value, Notes (next value)) : Notes (step >>= next) :=
  fun context state => (first context state).trans (second _ _ _)

theorem compile {step : Compile α β}
    (notes : ∀ context : Context α, context.log <+: (step.run context).2.log) :
    Notes (σ := σ) (Exporting.compile step) :=
  fun context _ => notes context

theorem ofFramed {step : Compile α β} (framed : Compile.Framed step) :
    Notes (σ := σ) (Exporting.compile step) := by
  refine compile fun context => ?_
  rw [framed.run_eq]
  exact List.prefix_append _ _

theorem answer (reply : StateM σ β) : Notes (liftM reply : Exporting (StateM σ) α β) :=
  fun _ _ => List.prefix_refl _

end Notes

variable (host : Host (StateM σ) α)

theorem noteError_notes (message : String) (layer : Option (LayerInfo α)) :
    Notes (σ := σ) (noteError message layer) :=
  Notes.ofFramed (Compile.note_framed _)

theorem renderPending_notes : Notes (renderPending host) := by
  refine Notes.bind (Notes.compile fun _ => List.prefix_refl _) fun requests => ?_
  split
  · exact Notes.pure _
  · refine Notes.bind (Notes.answer _) fun reply => ?_
    cases reply with
    | ok done => exact Notes.pure _
    | error error => exact noteError_notes _ _

theorem writeAsset_notes (file : Option SourceFile) : Notes (writeAsset host file) := by
  cases file with
  | none => exact Notes.pure _
  | some file =>
      refine Notes.bind (Notes.answer _) fun reply => ?_
      cases reply with
      | ok done => exact Notes.pure _
      | error error => exact Notes.bind (noteError_notes _ _) fun _ => Notes.pure _

variable [Scalar α]

theorem writeAssets_notes (assets : Assets α) : Notes (writeAssets host assets) := by
  refine Notes.bind (Notes.ofFramed Compile.settings_framed) fun settings => ?_
  refine Notes.bind (Notes.ofFramed (Compile.noting_framed _)) fun colors => ?_
  refine Notes.bind (Notes.ofFramed (Compile.noting_framed _)) fun styles => ?_
  refine Notes.bind (writeAsset_notes host _) fun colorFiles => ?_
  exact Notes.bind (writeAsset_notes host _) fun styleFiles => Notes.pure _

theorem writeWidget_notes (widget : Layer α) : Notes (writeWidget host widget) := by
  refine Notes.bind (Notes.ofFramed (compileWidget_framed widget)) fun result => ?_
  cases result with
  | error error => exact Notes.pure _
  | ok file =>
      refine Notes.bind (Notes.answer _) fun reply => ?_
      cases reply with
      | error error => exact Notes.pure _
      | ok done => exact Notes.pure _

theorem writeWidgets_notes (widgets : List (Layer α)) : Notes (writeWidgets host widgets) := by
  induction widgets with
  | nil => exact Notes.pure _
  | cons widget rest ih =>
      have others (written : List String) : Notes (do
          renderPending host
          let files ← writeWidgets host rest
          pure (written ++ files)) :=
        Notes.bind (renderPending_notes host) fun _ => Notes.bind ih fun _ => Notes.pure _
      refine Notes.bind (writeWidget_notes host widget) fun result => ?_
      cases result with
      | ok file => exact Notes.bind (Notes.pure _) others
      | error error =>
          exact Notes.bind (noteError_notes _ _) fun _ => Notes.bind (Notes.pure _) others

end Exporting

open Exporting (Notes)

variable [Scalar α]

/-- What is noted before the first widget stays in the report. -/
theorem Document.start_log_within (document : Document α) (settings : Settings)
    (host : Host (StateM σ) α) (state : σ) :
    (Context.start (Index.ofDocument document) settings .files).log <+:
      ((document.exportAll settings host).run state).1.diagnostics := by
  have widgets := Exporting.writeWidgets_notes host (exportedWidgets (Index.ofDocument document))
  exact Notes.bind widgets (fun _ => Exporting.writeAssets_notes host document.assets)
    (Context.start (Index.ofDocument document) settings .files) state

end Noting

/-! ### Names of files

Classes of widgets are compared when they are
named, and two of one name are worth a warning. Files are named by their classes in
snake case, and nobody compares these, nor the classes of assets. -/

open HostCall (writes)

variable {α σ : Type}

namespace Diagnostic

/-- How the warning begins that two widgets have one name. -/
def nameClash : String := "Duplicate widget name '"

def isNameClash (diagnostic : Diagnostic) : Bool :=
  diagnostic.severity = .warning && nameClash.toList.isPrefixOf diagnostic.message.toList

end Diagnostic

namespace Context

variable (settings : Settings)

/-- Widgets that are named without a warning have names of their own, none of them
taken before. -/
theorem nodup_of_not_clash : ∀ (widgets : List (Layer α)) (names : Table String)
    (taken : List String),
    (∀ diagnostic ∈ (nameWidgets settings widgets names taken).2, diagnostic.isNameClash = false) →
      (widgets.map (fun widget => Naming.widgetClassName widget.toLayerInfo settings)).Nodup ∧
        ∀ widget ∈ widgets, Naming.widgetClassName widget.toLayerInfo settings ∉ taken
  | [], _, _, _ => ⟨List.nodup_nil, fun _ absent => absurd absent List.not_mem_nil⟩
  | widget :: rest, names, taken, quiet => by
      -- The rest is named when the name of the first widget is taken too.
      rw [nameWidgets] at quiet
      dsimp only at quiet
      obtain ⟨first, later⟩ := List.forall_mem_append.mp quiet
      obtain ⟨apart, fresh⟩ := nodup_of_not_clash rest _ _ later
      have free : Naming.widgetClassName widget.toLayerInfo settings ∉ taken := by
        intro known
        rw [if_pos (List.contains_iff_mem.mpr known)] at first
        have noted := first _ (List.mem_singleton.mpr rfl)
        have begins : Diagnostic.nameClash.toList <+:
            ("Duplicate widget name '" ++ Naming.widgetClassName widget.toLayerInfo settings ++
              "'; the later widget overwrites the earlier").toList := by
          rw [String.append_assoc, String.toList_append]
          exact List.prefix_append _ _
        rw [Diagnostic.isNameClash, List.isPrefixOf_iff_prefix.mpr begins] at noted
        cases noted
      refine ⟨List.nodup_cons.mpr ⟨?_, apart⟩, List.forall_mem_cons.mpr ⟨free, ?_⟩⟩
      · intro repeated
        obtain ⟨other, member, same⟩ := List.mem_map.mp repeated
        exact fresh other member (same ▸ (mem_addOnce _ _ _).mpr (Or.inr rfl))
      · intro other member known
        exact fresh other member ((mem_addOnce _ _ _).mpr (Or.inl known))

theorem mem_keys_nameWidgets {guid : String} : ∀ (widgets : List (Layer α)) (names : Table String)
    (taken : List String), guid ∈ names.keys ∨ (∃ widget ∈ widgets, widget.guid = guid) →
      guid ∈ (nameWidgets settings widgets names taken).1.keys
  | [], _, _, known => known.resolve_right fun ⟨_, absent, _⟩ => absurd absent List.not_mem_nil
  | widget :: rest, names, taken, known => by
      rw [nameWidgets]
      apply mem_keys_nameWidgets rest
      rcases known with before | ⟨other, member, same⟩
      · exact Or.inl (Table.mem_keys_insert.mpr (Or.inr before))
      · rcases List.mem_cons.mp member with here | later
        · exact Or.inl (Table.mem_keys_insert.mpr (Or.inl (by rw [← same, here])))
        · exact Or.inr ⟨other, later, same⟩

theorem mem_of_mem_nameWidgets {entry : String × String} : ∀ (widgets : List (Layer α))
    (names : Table String) (taken : List String),
    entry ∈ (nameWidgets settings widgets names taken).1 →
      entry ∈ names ∨ ∃ widget ∈ widgets,
        entry = (widget.guid, Naming.widgetClassName widget.toLayerInfo settings)
  | [], _, _, member => Or.inl member
  | widget :: rest, names, taken, member => by
      rw [nameWidgets] at member
      rcases mem_of_mem_nameWidgets rest _ _ member with before | ⟨other, later, same⟩
      · rcases Table.mem_of_mem_insert before with same | known
        · exact Or.inr ⟨widget, List.mem_cons_self, same⟩
        · exact Or.inl known
      · exact Or.inr ⟨other, List.mem_cons_of_mem _ later, same⟩

end Context

section Assets

variable [Scalar α] (assets : Assets α) (settings : Settings)

theorem SourceFile.fileName_ofLines (className : String) (lines : List String) :
    (ofLines className lines).fileName = Naming.fileName (ofLines className lines).className :=
  rfl

theorem ColorClass.fileName_eq : ∀ file ∈ (ColorClass.file? assets settings).1,
    file.fileName = Naming.fileName file.className := by
  unfold ColorClass.file?
  split
  · exact fun _ absent => absurd absent (Option.not_mem_none _)
  · intro file same
    rw [← Option.mem_some_iff.mp same]
    exact SourceFile.fileName_ofLines _ _

theorem TextStyleClass.fileName_eq : ∀ file ∈ (TextStyleClass.file? assets settings).1,
    file.fileName = Naming.fileName file.className := by
  unfold TextStyleClass.file?
  split
  · exact fun _ absent => absurd absent (Option.not_mem_none _)
  · intro file same
    rw [← Option.mem_some_iff.mp same]
    exact SourceFile.fileName_ofLines _ _

end Assets

namespace Document

variable (document : Document α) (settings : Settings)

/-- The class that a widget of a document is exported as. -/
def exportedClass (widget : LayerInfo α) : String :=
  ((widgetClass widget).run (document.exportIdle settings)).1

variable {document settings}

variable (settings) in
/-- The class of a widget belongs to its guid, and is the name of a widget with it. -/
theorem exists_namesake {widget : Layer α} (member : widget ∈ (Index.ofDocument document).widgets) :
    ∃ name, (document.exportIdle settings).widgetName? widget.guid = some name ∧
      document.exportedClass settings widget.toLayerInfo = name ∧
      ∃ other ∈ (Index.ofDocument document).widgets, other.guid = widget.guid ∧
        Naming.widgetClassName other.toLayerInfo settings = name := by
  have known := Context.mem_keys_nameWidgets settings (Index.ofDocument document).widgets [] []
    (Or.inr ⟨widget, member, rfl⟩)
  obtain ⟨name, found⟩ := Table.exists_find?_of_mem_keys known
  have named : (document.exportIdle settings).widgetName? widget.guid = some name := found
  refine ⟨name, named, ?_, ?_⟩
  · change ((document.exportIdle settings).widgetName? widget.guid).getD _ = name
    rw [named]
    rfl
  · rcases Context.mem_of_mem_nameWidgets settings _ _ _ (Table.mem_of_find? found) with
      absent | ⟨other, among, same⟩
    · exact absurd absent List.not_mem_nil
    · exact ⟨other, among, (congrArg Prod.fst same).symm, (congrArg Prod.snd same).symm⟩

/-- Without a warning widgets have the same class only if they have the same guid. -/
theorem exportedClass_eq_iff
    (quiet : ∀ diagnostic ∈ (Context.start (Index.ofDocument document) settings .files).log,
      diagnostic.isNameClash = false)
    {first second : Layer α} (one : first ∈ (Index.ofDocument document).widgets)
    (other : second ∈ (Index.ofDocument document).widgets) :
    document.exportedClass settings first.toLayerInfo =
        document.exportedClass settings second.toLayerInfo ↔ first.guid = second.guid := by
  obtain ⟨name, named, isClass, left, leftIn, leftGuid, leftName⟩ := exists_namesake settings one
  obtain ⟨otherName, otherNamed, otherIsClass, right, rightIn, rightGuid, rightName⟩ :=
    exists_namesake settings other
  rw [isClass, otherIsClass]
  constructor
  · intro same
    have apart := (Context.nodup_of_not_clash settings _ [] [] quiet).1
    have alike : left = right :=
      List.inj_on_of_nodup_map apart leftIn rightIn (leftName.trans (same.trans rightName.symm))
    rw [← leftGuid, ← rightGuid, alike]
  · intro same
    rw [same, otherNamed] at named
    exact (Option.some.inj named).symm

variable [Scalar α]

/-- The classes of the files for shared assets. -/
def assetClasses (document : Document α) (settings : Settings) : List String :=
  ((ColorClass.file? document.assets settings).1.toList ++
    (TextStyleClass.file? document.assets settings).1.toList).map (·.className)

/-- The classes of the files of an export, in the order in which they are written. -/
def exportedClasses (document : Document α) (settings : Settings) : List String :=
  (exportedWidgets (Index.ofDocument document)).map
      (fun widget => document.exportedClass settings widget.toLayerInfo) ++
    document.assetClasses settings

variable (document settings)

/-- Every file is named by its class. -/
theorem fileNames_exportCalls :
    (writes (document.exportCalls settings)).map Prod.fst =
      (document.exportedClasses settings).map Naming.fileName := by
  have widget (widget : Layer α) :
      (writes (widgetCalls (document.exportIdle settings) widget)).map Prod.fst =
        [Naming.fileName (document.exportedClass settings widget.toLayerInfo)] := by
    rw [widgetCalls, writes_append, writes_ofRenders, compileWidget_run_ok]
    rfl
  have widgets (list : List (Layer α)) :
      (writes (list.flatMap (widgetCalls (document.exportIdle settings)))).map Prod.fst =
        (list.map (fun widget => document.exportedClass settings widget.toLayerInfo)).map
          Naming.fileName := by
    induction list with
    | nil => rfl
    | cons first rest ih =>
        rw [List.flatMap_cons, writes_append, List.map_append, widget, ih]
        rfl
  have asset {file : Option SourceFile}
      (named : ∀ found ∈ file, found.fileName = Naming.fileName found.className) :
      (writes (HostCall.ofAsset (α := α) file)).map Prod.fst =
        (file.toList.map (·.className)).map Naming.fileName := by
    cases file with
    | none => rfl
    | some found => exact congrArg (fun name => [name]) (named found rfl)
  have colors := asset (ColorClass.fileName_eq document.assets settings)
  have styles := asset (TextStyleClass.fileName_eq document.assets settings)
  rw [exportCalls, writes_append, List.map_append, widgets, assetCalls, writes_append,
    List.map_append, colors, styles, exportedClasses, assetClasses, List.map_append,
    List.map_append, List.map_append]

theorem nodup_exportedClasses_iff : (document.exportedClasses settings).Nodup ↔
    ((exportedWidgets (Index.ofDocument document)).map
        (fun widget => document.exportedClass settings widget.toLayerInfo)).Nodup ∧
      (document.assetClasses settings).Nodup ∧
      ∀ widget ∈ exportedWidgets (Index.ofDocument document),
        document.exportedClass settings widget.toLayerInfo ∉ document.assetClasses settings := by
  have never (name : String) : (∀ other ∈ document.assetClasses settings, name ≠ other) ↔
      name ∉ document.assetClasses settings :=
    ⟨fun different known => different name known rfl, fun fresh _ known same => fresh (same ▸ known)⟩
  rw [exportedClasses, List.nodup_append, List.forall_mem_map]
  simp only [never]

/-- The files of an export without a warning about names have names of their own exactly
if no two exported widgets share a guid, the classes of assets are neither the same nor
those of widgets, and no two of all these classes are the same in snake case. -/
theorem nodup_fileNames_iff (host : Host (StateM σ) α) (state : σ)
    (quiet : ∀ diagnostic ∈
        ((document.exportAll settings host.watched).run ⟨state, []⟩).1.diagnostics,
      diagnostic.isNameClash = false) :
    let names := (writes ((document.exportAll settings host.watched).run ⟨state, []⟩).2.calls).map
      Prod.fst
    let widgets := exportedWidgets (Index.ofDocument document)
    let classes := document.exportedClasses settings
    names = classes.map Naming.fileName ∧
      (names.Nodup ↔
        (widgets.map (·.guid)).Nodup ∧ (document.assetClasses settings).Nodup ∧
          (∀ widget ∈ widgets, document.exportedClass settings widget.toLayerInfo ∉
            document.assetClasses settings) ∧
          ∀ first ∈ classes, ∀ second ∈ classes,
            Naming.fileName first = Naming.fileName second → first = second) := by
  intro names widgets classes
  have named : names = classes.map Naming.fileName := by
    rw [← fileNames_exportCalls, ← (exportAll_calls document settings host state).1]
  have started : ∀ diagnostic ∈ (Context.start (Index.ofDocument document) settings .files).log,
      diagnostic.isNameClash = false := fun diagnostic early =>
    quiet diagnostic ((start_log_within document settings host.watched ⟨state, []⟩).subset early)
  have inside : ∀ widget ∈ widgets, widget ∈ (Index.ofDocument document).widgets :=
    fun widget member => (List.mem_filter.mp member).1
  have owners : (widgets.map (fun widget => document.exportedClass settings widget.toLayerInfo)).Nodup ↔
      (widgets.map (·.guid)).Nodup := by
    unfold List.Nodup
    rw [List.pairwise_map, List.pairwise_map]
    refine List.Pairwise.iff_of_mem fun one other => not_congr ?_
    exact exportedClass_eq_iff started (inside _ one) (inside _ other)
  have apart : (classes.map Naming.fileName).Nodup ↔ classes.Nodup ∧
      ∀ first ∈ classes, ∀ second ∈ classes,
        Naming.fileName first = Naming.fileName second → first = second := by
    constructor
    · intro distinct
      have own := List.Nodup.of_map Naming.fileName distinct
      exact ⟨own, (List.nodup_map_iff_inj_on own).mp distinct⟩
    · exact fun ⟨own, injective⟩ => (List.nodup_map_iff_inj_on own).mpr injective
  refine ⟨named, ?_⟩
  rw [named, apart, nodup_exportedClasses_iff, owners, and_assoc, and_assoc]

/-- Two pages without layers, and the names of their classes. -/
def twoPages (first second : String) : Document Rat :=
  let page (guid name : String) : Layer Rat :=
    ⟨{ LayerInfo.usual guid name .artboard with properties := [("widgetName", .text name)] }, []⟩
  ⟨[], [page "first" first, page "second" second], ⟨[], []⟩⟩

theorem nodup_fileNames_twoPages :
    (∀ diagnostic ∈ (((twoPages "HomePage" "Detail").exportAll {} obligingHost.watched).run
        ⟨(), []⟩).1.diagnostics, diagnostic.isNameClash = false) ∧
      ((writes (((twoPages "HomePage" "Detail").exportAll {} obligingHost.watched).run
        ⟨(), []⟩).2.calls).map Prod.fst).Nodup := by
  have quiet : ∀ diagnostic ∈ (((twoPages "HomePage" "Detail").exportAll {}
      obligingHost.watched).run ⟨(), []⟩).1.diagnostics, diagnostic.isNameClash = false := by
    decide +kernel
  have distinct := (nodup_fileNames_iff (twoPages "HomePage" "Detail") {} obligingHost () quiet).2
  have apart := distinct.mpr (by decide +kernel)
  exact ⟨quiet, apart⟩

/-- Classes that differ in the case of a letter share a file, and nobody is warned. -/
theorem fileNames_twoPages :
    let run := ((twoPages "HomePage" "homePage").exportAll {} obligingHost.watched).run ⟨(), []⟩
    run.1.diagnostics = [] ∧
      (writes run.2.calls).map Prod.fst = ["home_page.dart", "home_page.dart"] := by
  decide +kernel

end Document

end DesignExport
