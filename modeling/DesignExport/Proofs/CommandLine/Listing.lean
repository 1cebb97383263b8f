import DesignExport.CommandLine.Run
import DesignExport.Proofs.Document.Owners
import DesignExport.Proofs.Export.Declarations
import DesignExport.Proofs.Export.FileNames
import DesignExport.Proofs.Export.Manifest
import DesignExport.Storage.FileTree
set_option autoImplicit false

/-! The list of widgets and the export of all widgets. The list names classes and files as
the export does, but it has a line for every widget, and an export leaves out the widgets
that are excluded from exports. -/

namespace DesignExport

open HostCall (writes)

variable {α σ : Type}

/-! ### Classes of widgets -/

/-- A source declares the class of a widget. -/
def SourceFile.DeclaresClass (className source : String) : Prop :=
  ∃ before after,
    source = before ++ ("class " ++ className ++ " extends StatelessWidget \x7b") ++ after

theorem SourceFile.declaresClass_ofWidget (className body : String) (scope : WidgetScope)
    (nullSafe : Bool) : DeclaresClass className (ofWidget className body scope nullSafe).source := by
  apply has_of_mem className
  simp only [List.mem_append]
  have inside : "class " ++ className ++ " extends StatelessWidget \x7b" ∈
      ["", "class " ++ className ++ " extends StatelessWidget \x7b"] :=
    List.mem_cons_of_mem _ List.mem_cons_self
  exact Or.inl (Or.inl (Or.inl (Or.inl (Or.inl (Or.inl (Or.inr inside))))))

namespace Document

variable {document : Document α}

/-- Where guids are distinct, the names of widgets are not taken from one another. -/
theorem exportedClass_eq_widgetClassName (distinct : document.HasDistinctGuids)
    (settings : Settings) {widget : Layer α}
    (member : widget ∈ (Index.ofDocument document).widgets) :
    document.exportedClass settings widget.toLayerInfo =
      Naming.widgetClassName widget.toLayerInfo settings := by
  obtain ⟨name, -, named, other, among, sameGuid, otherName⟩ := exists_namesake settings member
  have placed {layer : Layer α} (listed : layer ∈ (Index.ofDocument document).widgets) :
      ∃ entry ∈ (Index.ofDocument document).placed, entry.layer = layer :=
    List.mem_map.mp (List.mem_filter.mp listed).1
  obtain ⟨first, firstIn, isWidget⟩ := placed member
  obtain ⟨second, secondIn, isOther⟩ := placed among
  have alike : second = first := by
    apply Index.eq_of_guid_eq distinct secondIn firstIn
    rw [isWidget, isOther, sameGuid]
  rw [named, ← otherName, ← isOther, alike, isWidget]

end Document

/-! ### Lines -/

/-- What a line of the list says. -/
structure Listed where
  guid : String
  className : String
  fileName : String
deriving DecidableEq

namespace Listed

def ofWidget (settings : Settings) (widget : LayerInfo α) : Listed :=
  let className := Naming.widgetClassName widget settings
  ⟨widget.guid, className, Naming.fileName className⟩

def line (listed : Listed) : String :=
  listed.guid ++ "\t" ++ listed.className ++ "\t" ++ listed.fileName

/-- The file of a widget is the one that its line names, and has the class that it names. -/
def IsFileOf (settings : Settings) (widget : Layer α) (file : String × String) : Prop :=
  let listed := ofWidget settings widget.toLayerInfo
  file.1 = listed.fileName ∧ SourceFile.DeclaresClass listed.className file.2

end Listed

namespace Document

def listing (document : Document α) (settings : Settings) : List Listed :=
  (Index.ofDocument document).widgets.map fun widget => Listed.ofWidget settings widget.toLayerInfo

/-- A widget is not excluded from exports. -/
def IsIncluded (widget : LayerInfo α) : Prop :=
  widget.flagProperty? .includeInExportProject ≠ some false

instance (widget : LayerInfo α) : Decidable (IsIncluded widget) :=
  inferInstanceAs (Decidable (_ ≠ _))

variable {document : Document α}

theorem map_fst_eq_of_forall₂ {settings : Settings} {widgets : List (Layer α)}
    {files : List (String × String)}
    (written : List.Forall₂ (Listed.IsFileOf settings) widgets files) :
    files.map Prod.fst =
      widgets.map fun widget => (Listed.ofWidget settings widget.toLayerInfo).fileName := by
  induction written with
  | nil => rfl
  | cons here _ ih => rw [List.map_cons, List.map_cons, ih, here.1]

/-- The list names the files of an export if no widget is excluded, and otherwise too many. -/
theorem map_fst_eq_listing_iff {settings : Settings} {files : List (String × String)}
    (written : List.Forall₂ (Listed.IsFileOf settings)
      (exportedWidgets (Index.ofDocument document)) files) :
    files.map Prod.fst = (document.listing settings).map Listed.fileName ↔
      ∀ widget ∈ (Index.ofDocument document).widgets, IsIncluded widget.toLayerInfo := by
  have names := map_fst_eq_of_forall₂ written
  rw [listing, List.map_map]
  constructor
  · intro same
    have counted := congrArg List.length (names.symm.trans same)
    rw [List.length_map, List.length_map, exportedWidgets, List.length_filter_eq_length_iff]
      at counted
    intro widget member
    exact of_decide_eq_true (counted widget member)
  · intro included
    have all : exportedWidgets (Index.ofDocument document) = (Index.ofDocument document).widgets :=
      List.filter_eq_self.mpr fun widget member => decide_eq_true (included widget member)
    rw [names, all]
    rfl

variable [Scalar α]

theorem isFileOf_of_writes (distinct : document.HasDistinctGuids) (settings : Settings)
    {widget : Layer α} (member : widget ∈ (Index.ofDocument document).widgets)
    {file : String × String}
    (one : writes (widgetCalls (document.exportIdle settings) widget) = [file]) :
    Listed.IsFileOf settings widget file := by
  let className := Naming.widgetClassName widget.toLayerInfo settings
  have named : ((widgetClass widget.toLayerInfo).run (document.exportIdle settings)).1 = className :=
    exportedClass_eq_widgetClassName distinct settings member
  have compiled := compileWidget_run_ok widget (document.exportIdle settings)
  rw [named] at compiled
  rw [widgetCalls, writes_append, writes_ofRenders, compiled] at one
  have same := (List.cons.inj one).1
  rw [← same]
  exact ⟨rfl, SourceFile.declaresClass_ofWidget className _ _ _⟩

/-- The files of exported widgets are those that the list names, in its order. -/
theorem forall₂_isFileOf (distinct : document.HasDistinctGuids) (settings : Settings) :
    List.Forall₂ (Listed.IsFileOf settings) (exportedWidgets (Index.ofDocument document))
      (writes ((exportedWidgets (Index.ofDocument document)).flatMap
        (widgetCalls (document.exportIdle settings)))) := by
  have inside : ∀ widget ∈ exportedWidgets (Index.ofDocument document),
      widget ∈ (Index.ofDocument document).widgets :=
    fun widget member => (List.mem_filter.mp member).1
  have written := writes_flatMap_widgetCalls (document.exportIdle settings)
    (exportedWidgets (Index.ofDocument document))
  apply List.Forall₂.imp _ ((List.forall₂_and_left _ _).mpr ⟨inside, written⟩)
  intro widget file ⟨member, one⟩
  exact isFileOf_of_writes distinct settings member one

end Document

/-! ### The commands -/

namespace Command

variable (store : Store (StateM σ)) (configuration : Configuration) (input folder : String)
  (state : σ)

section

variable {β γ : Type} {step : ExceptT CommandError (StateM σ) β}
  {next : β → ExceptT CommandError (StateM σ) γ} {state after : σ}

theorem run_bind : (step >>= next).run.run state =
    (ExceptT.bindCont next (step.run.run state).1).run (step.run.run state).2 :=
  rfl

theorem run_bind_ok {value : β} (done : step.run.run state = (.ok value, after)) :
    (step >>= next).run.run state = (next value).run.run after := by
  rw [run_bind, done]
  rfl

theorem run_bind_error {error : CommandError} (failed : step.run.run state = (.error error, after)) :
    (step >>= next).run.run state = (.error error, after) := by
  rw [run_bind, failed]
  rfl

end

/-- An export to the host of the program is an export under observation. -/
theorem exportTo_run (document : Document Float) (settings : Settings) :
    let host := store.host folder configuration.manifest
    let watching := (document.exportAll settings host.packed.watched).run ⟨([], state), []⟩
    (((exportTo host document settings none).run []).run state) =
      ((.ok watching.1, watching.2.state.1), watching.2.state.2) := by
  intro host watching
  obtain ⟨calls, watched, -⟩ := Correspondence.exportAll_holds host.watched_replaying document
    settings [] state []
  have same : watching = _ := watched
  rw [same]
  rfl

theorem settingsFor_run (document : Document Float) :
    (settingsFor configuration document : ExceptT CommandError (StateM σ) _).run.run state =
      ((configuration.apply (Settings.ofDocument document)).mapError .settings, state) :=
  rfl

theorem settingsFor_run_ok {document : Document Float} {settings : Settings}
    (configured : configuration.apply (Settings.ofDocument document) = .ok settings) :
    (settingsFor configuration document : ExceptT CommandError (StateM σ) _).run.run state =
      (.ok settings, state) := by
  rw [settingsFor_run, configured]
  rfl

theorem listWidgets_run {document : Document Float} {settings : Settings} {after : σ}
    (read : (readDocument store input).run.run state = (.ok document, after))
    (configured : configuration.apply (Settings.ofDocument document) = .ok settings) :
    (runWith store configuration (.listWidgets input)).run.run state =
      (.ok (lines ((document.listing settings).map Listed.line)), after) := by
  have listed : widgetLines document settings = (document.listing settings).map Listed.line := by
    simp only [Document.listing, List.map_map]
    rfl
  rw [runWith, run_bind_ok read, run_bind_ok (settingsFor_run_ok configuration after configured),
    listed]
  rfl

/-- Where guids are distinct, every widget that an export without a layer compiles has the
file and the class of its line in the list. The list has the files of the export if no widget
is excluded from exports, and not otherwise. Without settings there are neither. -/
theorem listWidgets_lists_exports {document : Document Float} {after : σ}
    (read : (readDocument store input).run.run state = (.ok document, after))
    (distinct : document.HasDistinctGuids) :
    let list := (runWith store configuration (.listWidgets input)).run.run state
    let exporting := (runWith store configuration (.exportFiles input folder none)).run.run state
    (∀ fault, configuration.apply (Settings.ofDocument document) = .error fault →
      list = (.error (.settings fault), after) ∧ exporting = (.error (.settings fault), after)) ∧
    ∀ settings, configuration.apply (Settings.ofDocument document) = .ok settings →
      let host := store.host folder configuration.manifest
      let watching := (document.exportAll settings host.packed.watched).run ⟨([], after), []⟩
      let listing := document.listing settings
      list = (.ok (lines (listing.map Listed.line)), after) ∧
        exporting = (.ok (lines watching.1.lines), watching.2.state.2) ∧
        ∃ files assets, writes watching.2.calls = files ++ assets ∧
          List.Forall₂ (Listed.IsFileOf settings)
            (Document.exportedWidgets (Index.ofDocument document)) files ∧
          (files.map Prod.fst = listing.map Listed.fileName ↔
            ∀ widget ∈ (Index.ofDocument document).widgets,
              Document.IsIncluded widget.toLayerInfo) := by
  intro list exporting
  constructor
  · intro fault misconfigured
    have unsettled : (settingsFor configuration document : ExceptT CommandError (StateM σ) _).run.run
        after = (.error (.settings fault), after) := by
      rw [settingsFor_run, misconfigured]
      rfl
    constructor
    · exact (run_bind_ok read).trans (run_bind_error unsettled)
    · exact (run_bind_ok read).trans (run_bind_error unsettled)
  · intro settings configured host watching listing
    refine ⟨listWidgets_run store configuration input state read configured, ?_, ?_⟩
    · have exported : (runExport store configuration.manifest folder document settings none).run.run
          after = (.ok watching.1, watching.2.state.2) := by
        have ran := exportTo_run store configuration folder after document settings
        change (match ((exportTo host document settings none).run []).run after with
          | ((result, _), world) => (result.mapError CommandError.notExported, world)) = _
        rw [ran]
        rfl
      have settled := settingsFor_run_ok configuration after configured
      exact (run_bind_ok read).trans ((run_bind_ok settled).trans (run_bind_ok exported))
    · have calls := (document.exportAll_calls settings host.packed ([], after)).1
      have files := Document.forall₂_isFileOf distinct settings
      refine ⟨_, writes (assetCalls document.assets settings), ?_, files,
        Document.map_fst_eq_listing_iff files⟩
      rw [calls, Document.exportCalls, writes_append]

theorem readDocument_fileTree {tree : FileTree} {path text : String} {document : Document Float}
    (found : tree.read path = .ok text) (parsed : Document.ofText? text = .ok document) :
    (readDocument FileTree.store path).run.run tree = (.ok document, tree) := by
  let reading : ExceptT CommandError (StateM FileTree) (Except String String) :=
    liftM (FileTree.store.read path)
  have opened : reading.run.run tree = (.ok (.ok text), tree) := by
    have ran : reading.run.run tree = (.ok ((tree.read path).mapError Refusal.text), tree) := rfl
    rw [ran, found]
    rfl
  apply (run_bind_ok opened).trans
  simp only [parsed]
  rfl

/-- Two pages. The second one may be excluded from exports. -/
def pagesText (isExported : Bool) : String :=
  "\x7b\"children\":[\x7b\"guid\":\"home\",\"name\":\"Home\"," ++
    "\"kind\":\x7b\"type\":\"artboard\"\x7d\x7d,\x7b\"guid\":\"draft\",\"name\":\"Draft\"," ++
    "\"kind\":\x7b\"type\":\"artboard\"\x7d," ++
    "\"pluginData\":\x7b\"includeInExportProject\":" ++ toString isExported ++ "\x7d\x7d]\x7d"

def pagesTree (isExported : Bool) : FileTree :=
  ⟨[], [(["pages.json"], .file (pagesText isExported))]⟩

structure PagesOverview where
  isDistinct : Bool
  isIncluded : Bool
  lines : List String
  fileNames : List String
deriving DecidableEq

/-- What the list says, and the files that an export has. -/
def pagesOverview? (isExported : Bool) : Option PagesOverview :=
  (Document.ofText? (pagesText isExported)).toOption.bind fun document =>
    (({} : Configuration).apply (Settings.ofDocument document)).toOption.map fun settings =>
      { isDistinct := decide document.HasDistinctGuids
        isIncluded := decide (∀ widget ∈ (Index.ofDocument document).widgets,
          Document.IsIncluded widget.toLayerInfo)
        lines := (document.listing settings).map Listed.line
        fileNames := (document.exportedClasses settings).map Naming.fileName }

theorem eq_ok_of_toOption {ε β : Type} {result : Except ε β} {value : β}
    (known : result.toOption = some value) : result = .ok value := by
  cases result with
  | error fault => cases known
  | ok found => rw [Option.some.inj known]

/-- A run reads some pages and settles their settings. -/
structure HasPages (isExported : Bool) (document : Document Float) (settings : Settings) : Prop where
  read : (readDocument FileTree.store "pages.json").run.run (pagesTree isExported) =
    (.ok document, pagesTree isExported)
  configured : ({} : Configuration).apply (Settings.ofDocument document) = .ok settings

theorem exists_pages {isExported : Bool} {overview : PagesOverview}
    (known : pagesOverview? isExported = some overview) :
    ∃ document settings, HasPages isExported document settings ∧
      overview.isDistinct = decide document.HasDistinctGuids ∧
      overview.isIncluded = decide (∀ widget ∈ (Index.ofDocument document).widgets,
        Document.IsIncluded widget.toLayerInfo) ∧
      overview.lines = (document.listing settings).map Listed.line ∧
      overview.fileNames = (document.exportedClasses settings).map Naming.fileName := by
  obtain ⟨document, parsed, rest⟩ := Option.bind_eq_some_iff.mp known
  obtain ⟨settings, configured, same⟩ := Option.map_eq_some_iff.mp rest
  have found : (pagesTree isExported).read "pages.json" = .ok (pagesText isExported) := by
    apply eq_ok_of_toOption
    cases isExported with
    | false => decide +kernel
    | true => decide +kernel
  have reads := readDocument_fileTree found (eq_ok_of_toOption parsed)
  rw [← same]
  exact ⟨document, settings, ⟨reads, eq_ok_of_toOption configured⟩, rfl, rfl, rfl, rfl⟩

theorem listWidgets_lists_exports_pages :
    ∃ document settings, HasPages true document settings ∧
      (runWith FileTree.store {} (.listWidgets "pages.json")).run.run (pagesTree true) =
          (.ok (lines ["home\tHome\thome.dart", "draft\tDraft\tdraft.dart"]), pagesTree true) ∧
        ∃ files assets,
          writes ((document.exportAll settings
              (FileTree.store.host "out" "render_manifest.json").packed.watched).run
                ⟨([], pagesTree true), []⟩).2.calls = files ++ assets ∧
            files.map Prod.fst = (document.listing settings).map Listed.fileName := by
  have known : pagesOverview? true = some ⟨true, true,
      ["home\tHome\thome.dart", "draft\tDraft\tdraft.dart"], ["home.dart", "draft.dart"]⟩ := by
    decide +kernel
  obtain ⟨document, settings, pages, distinct, included, listed, -⟩ := exists_pages known
  have lists := (listWidgets_lists_exports FileTree.store {} "pages.json" "out" (pagesTree true)
    pages.read (of_decide_eq_true distinct.symm)).2
  obtain ⟨printed, -, files, assets, written, -, predicted⟩ := lists settings pages.configured
  rw [← listed] at printed
  exact ⟨document, settings, pages, printed, files, assets, written,
    predicted.mpr (of_decide_eq_true included.symm)⟩

/-- The second page is on the list, and it has no file. -/
theorem listWidgets_lists_excluded_page :
    ∃ document settings, HasPages false document settings ∧ document.HasDistinctGuids ∧
      (runWith FileTree.store {} (.listWidgets "pages.json")).run.run (pagesTree false) =
          (.ok (lines ["home\tHome\thome.dart", "draft\tDraft\tdraft.dart"]), pagesTree false) ∧
        (writes ((document.exportAll settings
            (FileTree.store.host "out" "render_manifest.json").packed.watched).run
              ⟨([], pagesTree false), []⟩).2.calls).map Prod.fst = ["home.dart"] := by
  have known : pagesOverview? false = some ⟨true, false,
      ["home\tHome\thome.dart", "draft\tDraft\tdraft.dart"], ["home.dart"]⟩ := by
    decide +kernel
  obtain ⟨document, settings, pages, distinct, -, listed, names⟩ := exists_pages known
  have printed := listWidgets_run FileTree.store {} "pages.json" (pagesTree false) pages.read
    pages.configured
  have calls := (document.exportAll_calls settings
    (FileTree.store.host "out" "render_manifest.json").packed ([], pagesTree false)).1
  rw [← listed] at printed
  refine ⟨document, settings, pages, of_decide_eq_true distinct.symm, printed, ?_⟩
  rw [calls, Document.fileNames_exportCalls]
  exact names.symm

end Command

end DesignExport
