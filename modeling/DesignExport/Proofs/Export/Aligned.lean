import DesignExport.Proofs.Export.Isolation
import DesignExport.Proofs.Export.Trees
import DesignExport.Proofs.Expression.Aligned
import DesignExport.Proofs.Tree.Origins
set_option autoImplicit false

/-! No copy and no export notes a missing alignment. The layouts of a tree are classified when
it is built, whatever happens to them later keeps them consistent, and nothing else that is
noted is about alignments. -/

namespace DesignExport

section Building

open Compile (Keeps StaysAligned)

variable {α : Type}

section Deciding

theorem ExportMode.ofLayer_aligned (layer : LayerInfo α) : StaysAligned (ofLayer layer) := by
  unfold ofLayer
  split
  · exact StaysAligned.pure _
  · split
    · exact StaysAligned.pure _
    · exact (StaysAligned.warn _ layer).bind fun _ _ => StaysAligned.pure _

namespace NodeKind

theorem ofComponent_aligned (layer : LayerInfo α) (isMaster : Bool) (symbol : String) :
    StaysAligned (ofComponent layer isMaster symbol) := by
  refine Keeps.get fun context _ => ?_
  dsimp only
  split
  · exact StaysAligned.pure _
  · exact (StaysAligned.warn _ layer).bind fun _ _ => StaysAligned.pure _

theorem ofLayer?_aligned (layer : LayerInfo α) : StaysAligned (ofLayer? layer) := by
  unfold ofLayer?
  split
  case h_1 =>
    have nested : StaysAligned
        (Compile.error "Artboards cannot be nested inside other layers" layer) :=
      StaysAligned.note (Log.IsAligned.error (by decide) _)
    exact nested.bind fun _ _ => StaysAligned.pure _
  case h_11 => exact (ofComponent_aligned layer _ _).bind fun _ _ => StaysAligned.pure _
  case h_12 => exact (StaysAligned.warn _ layer).bind fun _ _ => StaysAligned.pure _
  all_goals exact StaysAligned.pure _

end NodeKind

namespace Decorator

theorem tap?_aligned (layer : LayerInfo α) : StaysAligned (tap? layer) := by
  unfold tap?
  split
  · exact StaysAligned.pure _
  · exact (StaysAligned.addParam _).bind fun _ _ => StaysAligned.pure _

theorem pageLink?_aligned (layer : LayerInfo α) (interactions : List (Interaction α)) :
    ∀ link : Option (Decorator α), StaysAligned (pageLink? layer link interactions) := by
  induction interactions with
  | nil => exact fun _ => StaysAligned.pure _
  | cons interaction rest ih =>
      have warned (message : String) (link : Option (Decorator α)) : StaysAligned (do
          Compile.warn message layer
          pageLink? layer link rest) :=
        (StaysAligned.warn message layer).bind fun _ _ => ih link
      intro link
      unfold pageLink?
      split
      · exact warned _ _
      · split
        · refine Keeps.get fun context _ => ?_
          split
          · exact ih _
          · exact warned _ _
        · exact warned _ _
        · exact warned _ _

theorem blur?_aligned (layer : LayerInfo α) : StaysAligned (blur? layer) := by
  unfold blur?
  split
  · exact StaysAligned.pure _
  · refine Keeps.ite (fun _ => StaysAligned.pure _) fun _ => ?_
    exact (StaysAligned.warn _ layer).bind fun _ _ => StaysAligned.pure _

theorem collect_aligned (layer : LayerInfo α) (canBeTapped : Bool) :
    StaysAligned (collect layer canBeTapped) := by
  refine Keeps.ite_bind (fun _ => tap?_aligned layer) (fun _ => StaysAligned.pure _) fun tap _ => ?_
  refine StaysAligned.settings.bind fun settings _ => ?_
  refine Keeps.ite_bind (fun _ => pageLink?_aligned layer _ _) (fun _ => StaysAligned.pure _)
    fun link _ => ?_
  exact (blur?_aligned layer).bind fun _ _ => StaysAligned.pure _

end Decorator

theorem RoleParams.expose_aligned (layer : LayerInfo α) (property : Property) (type : DartType)
    (default : String) : StaysAligned (expose layer property type default) := by
  unfold expose
  split
  · exact StaysAligned.pure _
  · exact (StaysAligned.addParam _).bind fun _ _ => StaysAligned.pure _

end Deciding

variable [Scalar α]

namespace RoleParams

theorem ofText_aligned (layer : LayerInfo α) (block : TextBlock α) :
    StaysAligned (ofText layer block) := by
  refine (expose_aligned layer _ _ _).bind fun text _ => ?_
  dsimp only
  split
  · exact (expose_aligned layer _ _ _).bind fun _ _ => StaysAligned.pure _
  · exact (StaysAligned.pure _).bind fun _ _ => StaysAligned.pure _

theorem ofBox_aligned (layer : LayerInfo α) : StaysAligned (ofBox layer) := by
  unfold ofBox
  split
  · exact (expose_aligned layer _ _ _).bind fun _ _ => StaysAligned.pure _
  · refine Keeps.ite (fun _ => ?_) fun _ => StaysAligned.pure _
    exact (AssetImage.ofFill_aligned layer).bind fun _ _ =>
      (expose_aligned layer _ _ _).bind fun _ _ => StaysAligned.pure _
  · exact StaysAligned.pure _

theorem register_aligned (layer : LayerInfo α) (kind : NodeKind α) (mode : ExportMode) :
    StaysAligned (register layer kind mode) := by
  unfold register
  refine Keeps.ite (fun _ => ?_) fun _ => ?_
  · exact StaysAligned.settings.bind fun _ _ =>
      (StaysAligned.addParam _).bind fun _ _ => StaysAligned.pure _
  · split
    · exact ofText_aligned layer _
    · exact ofBox_aligned layer
    · exact StaysAligned.pure _

end RoleParams

namespace Node

mutual

theorem build_aligned : ∀ layer : Layer α, StaysAligned (build layer)
  | ⟨layer, children⟩ => by
      rw [build]
      refine Keeps.ite (fun _ => StaysAligned.pure _) fun _ => ?_
      refine (NodeKind.ofLayer?_aligned layer).bind fun found _ => ?_
      cases found with
      | none => exact StaysAligned.pure _
      | some kind =>
          have placed : StaysAligned (Layout.ofLayer layer) := StaysAligned.of_log_eq fun _ => rfl
          refine (ExportMode.ofLayer_aligned layer).bind fun mode _ => ?_
          refine placed.bind fun layout _ => ?_
          refine (Decorator.collect_aligned layer _).bind fun decorators _ => ?_
          refine Keeps.ite_bind (fun _ => buildAll_aligned children) (fun _ => StaysAligned.pure _)
            fun nodes _ => ?_
          exact (RoleParams.register_aligned layer kind mode).bind fun _ _ => StaysAligned.pure _

theorem buildAll_aligned : ∀ layers : List (Layer α), StaysAligned (buildAll layers)
  | [] => StaysAligned.pure _
  | layer :: rest => by
      rw [buildAll]
      refine (build_aligned layer).bind fun node _ => ?_
      exact (buildAll_aligned rest).bind fun _ _ => StaysAligned.pure _

end

theorem hasConsistentLayout_of_isMadeOf {start : Context α} {layer : LayerInfo α}
    {node : NodeInfo α} (made : node.IsMadeOf start layer) : node.layout.IsConsistent := by
  rw [made.layout_eq]
  exact Layout.ofInput_isConsistent _

theorem buildRoot_hasConsistentLayouts (start : Context α) (layer : Layer α) :
    ((buildRoot layer).run start).1.HasConsistentLayouts :=
  buildRoot_throughout (fun _ _ _ made => hasConsistentLayout_of_isMadeOf made)
    (Layout.ofInput_isConsistent LayoutInput.none)

theorem build_hasConsistentLayouts {start : Context α} {layer : Layer α} {node : Node α}
    (built : ((build layer).run start).1 = some node) : node.HasConsistentLayouts := by
  intro part inside
  obtain ⟨source, _, origin⟩ := exists_source built inside
  exact hasConsistentLayout_of_isMadeOf (build_run_eq_some origin).1

theorem HasConsistentLayouts.combineShapes {node : Node α} (consistent : node.HasConsistentLayouts)
    (eager : Bool) : (node.combineShapes eager).HasConsistentLayouts :=
  throughout_combineShapes (fun _ _ _ own => own) node eager consistent

omit [Scalar α] in
theorem HasConsistentLayouts.unplaced {node : Node α} (consistent : node.HasConsistentLayouts) :
    node.unplaced.HasConsistentLayouts := by
  obtain ⟨info, children⟩ := node
  obtain ⟨own, below⟩ := throughout_mk.mp consistent
  exact throughout_mk.mpr ⟨{ own with }, below⟩

end Node

end Building

/-! ### Exports -/

open Compile (Keeps StaysAligned)

variable {α β γ σ : Type}

/-! ### Steps of exports -/

namespace Exporting

/-- A step of an export notes no missing alignment, whatever the host answers, and gives a
result with a property. -/
def Aligns (step : Exporting (StateM σ) α β) (property : β → Prop) : Prop :=
  ∀ (context : Context α) (state : σ), context.IsAligned →
    property ((step.run context).run state).1.1 ∧ ((step.run context).run state).1.2.IsAligned

namespace Aligns

theorem pure {property : β → Prop} {value : β} (holds : property value) :
    Aligns (Pure.pure value : Exporting (StateM σ) α β) property :=
  fun _ _ aligned => ⟨holds, aligned⟩

theorem bind {property : β → Prop} {conclusion : γ → Prop} {step : Exporting (StateM σ) α β}
    {next : β → Exporting (StateM σ) α γ} (first : Aligns step property)
    (second : ∀ value, Aligns (next value) conclusion) : Aligns (step >>= next) conclusion :=
  fun context state aligned => second _ _ _ (first context state aligned).2

theorem run_holds (property : β → Prop) {step : Exporting (StateM σ) α β}
    (aligns : Aligns step property) {context : Context α} (aligned : context.IsAligned)
    (state : σ) :
    property ((do let (result, _) ← step.run context; Pure.pure result).run state).1 :=
  (aligns context state aligned).1

theorem compile {step : Compile α β} (aligned : StaysAligned step) :
    Aligns (σ := σ) (Exporting.compile step) (fun _ => True) :=
  fun context _ before => aligned context before

theorem answer (reply : StateM σ β) :
    Aligns (liftM reply : Exporting (StateM σ) α β) (fun _ => True) :=
  fun _ _ aligned => ⟨trivial, aligned⟩

end Aligns

/-- What an error says begins otherwise than what a layout says. -/
theorem append_ne_of_not_start {front back text : String} (differs : ¬front.toList <+: text.toList) :
    front ++ back ≠ text :=
  fun same => differs ⟨back.toList, by rw [← String.toList_append, same]⟩

theorem message_ne (error : ExportError) :
    error.message ≠ "Align layout without an alignment" := by
  unfold ExportError.message
  cases error with
  | unknownLayer guid =>
      dsimp only
      rw [String.append_assoc]
      exact append_ne_of_not_start (by decide +kernel)
  | outsideWidgets => exact by decide
  | widgetSelected name =>
      dsimp only
      rw [String.append_assoc]
      exact append_ne_of_not_start (by decide +kernel)
  | nothingToExport name =>
      dsimp only
      rw [String.append_assoc]
      exact append_ne_of_not_start (by decide +kernel)
  | notWritten file message =>
      dsimp only
      rw [String.append_assoc, String.append_assoc]
      exact append_ne_of_not_start (by decide +kernel)
  | notRendered message => exact append_ne_of_not_start (by decide +kernel)
  | storage message => exact append_ne_of_not_start (by decide +kernel)

theorem noteError_aligns {message : String} (differs : message ≠ "Align layout without an alignment")
    (layer : Option (LayerInfo α)) :
    Aligns (σ := σ) (noteError message layer) (fun _ => True) :=
  Aligns.compile (StaysAligned.note (Log.IsAligned.error differs layer))

variable (host : Host (StateM σ) α)

theorem renderPending_aligns : Aligns (renderPending host) (fun _ => True) := by
  refine (Aligns.compile (StaysAligned.of_log_eq fun _ => rfl)).bind fun requests => ?_
  split
  · exact Aligns.pure trivial
  · refine (Aligns.answer _).bind fun reply => ?_
    cases reply with
    | ok done => exact Aligns.pure trivial
    | error error => exact noteError_aligns (message_ne error) none

theorem writeAsset_aligns (file : Option SourceFile) :
    Aligns (writeAsset host file) (fun _ => True) := by
  cases file with
  | none => exact Aligns.pure trivial
  | some file =>
      refine (Aligns.answer _).bind fun reply => ?_
      cases reply with
      | ok done => exact Aligns.pure trivial
      | error error =>
          exact (noteError_aligns (message_ne error) none).bind fun _ => Aligns.pure trivial

theorem noteFailure_aligns (widget : Layer α) (error : ExportError) :
    Aligns (σ := σ) (noteFailure widget error) (fun _ => True) :=
  noteError_aligns (append_ne_of_not_start (by decide +kernel)) _

theorem report_aligns (message : String) (files : List String) :
    Aligns (σ := σ) (report (α := α) message files) (fun report => report.diagnostics.IsAligned) :=
  fun _ _ aligned => ⟨aligned, Log.IsAligned.nil⟩

end Exporting

variable [Scalar α]

/-! ### Widgets and copies -/

omit [Scalar α] in
theorem beginWidget_aligned (name : String) :
    StaysAligned (Compile.beginWidget name : Compile α Unit) :=
  StaysAligned.of_log_eq fun _ => rfl

omit [Scalar α] in
theorem finishWidget_aligned : StaysAligned (Compile.finishWidget : Compile α WidgetScope) :=
  StaysAligned.of_log_eq fun _ => rfl

theorem widgetCode_aligned (layer : Layer α) (className : String) :
    StaysAligned (widgetCode layer className) := by
  have built : Keeps Context.IsAligned (Node.buildRoot layer) Node.HasConsistentLayouts := by
    intro context aligned
    refine ⟨Node.buildRoot_hasConsistentLayouts context layer, ?_⟩
    exact (Node.buildAll_aligned layer.children context aligned).2
  refine (beginWidget_aligned className).bind fun _ _ => ?_
  refine built.bind fun root consistent => ?_
  refine StaysAligned.settings.bind fun settings _ => ?_
  refine (Node.write_aligned (consistent.combineShapes settings.combineShapes)).bind fun written _ => ?_
  exact finishWidget_aligned.bind fun _ _ => StaysAligned.pure _

theorem compileWidget_aligned (layer : Layer α) : StaysAligned (compileWidget layer) := by
  have named : StaysAligned (widgetClass layer.toLayerInfo) := StaysAligned.of_log_eq fun _ => rfl
  refine named.bind fun className _ => ?_
  refine (widgetCode_aligned layer className).bind fun (body, scope) _ => ?_
  refine Keeps.ite (fun _ => StaysAligned.pure _) fun _ => ?_
  exact StaysAligned.settings.bind fun _ _ => StaysAligned.pure _

theorem compileSnippet_aligned (layer : Layer α) : StaysAligned (compileSnippet layer) := by
  have named : StaysAligned (snippetWidget layer) := StaysAligned.of_log_eq fun _ => rfl
  have built : Keeps Context.IsAligned (Node.build layer)
      (fun found => ∀ node, found = some node → node.HasConsistentLayouts) := by
    intro context aligned
    exact ⟨fun node found => Node.build_hasConsistentLayouts found,
      (Node.build_aligned layer context aligned).2⟩
  refine named.bind fun name _ => ?_
  refine (beginWidget_aligned name).bind fun _ _ => ?_
  refine built.bind fun found consistent => ?_
  cases found with
  | none => exact StaysAligned.pure _
  | some node =>
      have placed := (consistent node rfl).unplaced
      refine StaysAligned.settings.bind fun settings _ => ?_
      refine (Node.write_aligned (placed.combineShapes settings.combineShapes)).bind
        fun (code, _) _ => ?_
      refine finishWidget_aligned.bind fun _ _ => ?_
      exact Keeps.ite (fun _ => StaysAligned.pure _) fun _ => StaysAligned.pure _

/-! ### Assets and names -/

omit [Scalar α] in
theorem Context.start_isAligned (index : Index α) (settings : Settings) (target : Target) :
    (Context.start index settings target).IsAligned := by
  have named : ∀ (widgets : List (Layer α)) (names : Table String) (taken : List String),
      (nameWidgets settings widgets names taken).2.IsAligned := by
    intro widgets
    induction widgets with
    | nil => exact fun _ _ => Log.IsAligned.nil
    | cons widget rest ih =>
        exact fun names taken =>
          (Log.IsAligned.ite (Log.IsAligned.warning _ _) Log.IsAligned.nil).append (ih _ _)
  exact named index.widgets [] []

namespace ColorClass

theorem enter_isAligned {draft : Draft} (aligned : draft.log.IsAligned) (name : String)
    (kind : MemberKind) : (draft.enter name kind).log.IsAligned := by
  unfold Draft.enter
  split
  · exact aligned
  · dsimp only
    split
    · exact aligned
    · exact aligned.append (Log.IsAligned.cons rfl Log.IsAligned.nil)

theorem add_isAligned {draft : Draft} (aligned : draft.log.IsAligned) (asset : ColorAsset α) :
    (draft.add asset).log.IsAligned := by
  have warned (message : String) : (draft.warn message).log.IsAligned :=
    aligned.append (Log.IsAligned.cons rfl Log.IsAligned.nil)
  have declared (name : String) (kind : MemberKind) (type value : String) :
      (draft.declare name kind type value).log.IsAligned := by
    refine enter_isAligned ?_ name kind
    exact aligned
  unfold Draft.add
  split
  · exact aligned
  · split
    · exact warned _
    · unfold Draft.addNamed
      split
      · exact declared _ _ _ _
      · split
        · exact declared _ _ _ _
        · exact warned _
      · exact aligned

theorem foldl_add_isAligned (assets : List (ColorAsset α)) :
    ∀ draft : Draft, draft.log.IsAligned → (assets.foldl Draft.add draft).log.IsAligned := by
  induction assets with
  | nil => exact fun _ aligned => aligned
  | cons asset rest ih => exact fun draft aligned => ih _ (add_isAligned aligned asset)

omit [Scalar α] in
theorem listLines_isAligned (declared : List String) : ∀ lists : Table NumberedList,
    (listLines declared lists).2.IsAligned
  | [] => Log.IsAligned.nil
  | (base, list) :: rest => by
      have others := listLines_isAligned declared rest
      rw [listLines]
      dsimp only
      split
      · exact Log.IsAligned.cons rfl others
      · exact others

theorem file?_isAligned (assets : Assets α) (settings : Settings) :
    (file? assets settings).2.IsAligned := by
  unfold file?
  split
  · exact Log.IsAligned.nil
  · exact (foldl_add_isAligned assets.colors Draft.empty Log.IsAligned.nil).append
      (listLines_isAligned _ _)

end ColorClass

namespace TextStyleClass

theorem members_isAligned (settings : Settings) :
    ∀ (assets : List (TextStyleAsset α)) (taken : List String),
      (members settings taken assets).2.IsAligned
  | [], _ => Log.IsAligned.nil
  | asset :: rest, taken => by
      rw [members]
      split
      · exact members_isAligned settings rest taken
      · split
        · exact Log.IsAligned.cons rfl (members_isAligned settings rest taken)
        · exact members_isAligned settings rest _

theorem file?_isAligned (assets : Assets α) (settings : Settings) :
    (file? assets settings).2.IsAligned := by
  unfold file?
  split
  · exact Log.IsAligned.nil
  · exact members_isAligned settings assets.textStyles []

end TextStyleClass

/-! ### Exports -/

namespace Exporting

variable (host : Host (StateM σ) α)

theorem writeAssets_aligns (assets : Assets α) :
    Aligns (writeAssets host assets) (fun _ => True) := by
  refine (Aligns.compile StaysAligned.settings).bind fun settings => ?_
  refine (Aligns.compile (StaysAligned.noting (ColorClass.file?_isAligned _ _))).bind fun colors => ?_
  refine (Aligns.compile (StaysAligned.noting (TextStyleClass.file?_isAligned _ _))).bind fun styles => ?_
  refine (writeAsset_aligns host colors).bind fun colorFiles => ?_
  exact (writeAsset_aligns host styles).bind fun styleFiles => Aligns.pure trivial

theorem writeWidget_aligns (widget : Layer α) :
    Aligns (writeWidget host widget) (fun _ => True) := by
  refine (Aligns.compile (compileWidget_aligned widget)).bind fun result => ?_
  cases result with
  | error error => exact Aligns.pure trivial
  | ok file =>
      refine (Aligns.answer _).bind fun reply => ?_
      cases reply with
      | error error => exact Aligns.pure trivial
      | ok done => exact Aligns.pure trivial

theorem writeWidgets_aligns (widgets : List (Layer α)) :
    Aligns (writeWidgets host widgets) (fun _ => True) := by
  induction widgets with
  | nil => exact Aligns.pure trivial
  | cons widget rest ih =>
      have others (written : List String) : Aligns (do
          renderPending host
          let files ← writeWidgets host rest
          pure (written ++ files)) (fun _ => True) :=
        (renderPending_aligns host).bind fun _ => ih.bind fun _ => Aligns.pure trivial
      refine (writeWidget_aligns host widget).bind fun result => ?_
      cases result with
      | ok file =>
          exact Aligns.bind (Aligns.pure trivial : Aligns _ fun _ => True) others
      | error error =>
          exact (noteFailure_aligns widget error).bind fun _ =>
            Aligns.bind (Aligns.pure trivial : Aligns _ fun _ => True) others

end Exporting

namespace Document

open Exporting (Aligns)

/-- What is noted by copies and exports of a document, whatever the host of an export
answers. A copy has its log even where it fails. -/
inductive Notes (document : Document α) (settings : Settings) : Log → Prop where
  | exportAll {σ : Type} (host : Host (StateM σ) α) (state : σ) :
      Notes document settings ((document.exportAll settings host).run state).1.diagnostics
  | exportSelected {σ : Type} (host : Host (StateM σ) α) (state : σ) {guid : String}
      {report : Report}
      (exported : ((document.exportSelected settings host guid).run state).1 = .ok report) :
      Notes document settings report.diagnostics
  | copySelected {guid : String} {snippet : Snippet}
      (copied : document.copySelected settings guid = .ok snippet) :
      Notes document settings snippet.report.diagnostics
  | compileSnippet (layer : Layer α) :
      Notes document settings ((DesignExport.compileSnippet layer).run
        (Context.start (Index.ofDocument document) settings .clipboard)).2.log

variable (document : Document α) (settings : Settings)

theorem exportAll_isAligned (host : Host (StateM σ) α) (state : σ) :
    ((document.exportAll settings host).run state).1.diagnostics.IsAligned := by
  refine Aligns.run_holds (fun report : Report => report.diagnostics.IsAligned)
    (Aligns.bind (Exporting.writeWidgets_aligns host _) fun written => ?_)
    (Context.start_isAligned _ settings .files) state
  exact (Exporting.writeAssets_aligns host document.assets).bind fun assets =>
    Exporting.report_aligns _ (written ++ assets)

theorem exportWidget_isAligned (host : Host (StateM σ) α) (widget : Layer α) (state : σ) :
    ((document.exportWidget settings host widget).run state).1.diagnostics.IsAligned := by
  have others (message : String) (written : List String) : Aligns (do
      let assets ← Exporting.writeAssets host document.assets
      Exporting.renderPending host
      Exporting.report message (written ++ assets)) (fun report => report.diagnostics.IsAligned) :=
    (Exporting.writeAssets_aligns host document.assets).bind fun assets =>
      (Exporting.renderPending_aligns host).bind fun _ =>
        Exporting.report_aligns message (written ++ assets)
  have told (outcome : String × List String) :
      Aligns (σ := σ) (α := α) (pure outcome) (fun _ => True) :=
    Aligns.pure trivial
  refine Aligns.run_holds (fun report : Report => report.diagnostics.IsAligned)
    (Aligns.bind (Exporting.writeWidget_aligns host widget) fun result => ?_)
    (Context.start_isAligned _ settings .files) state
  cases result with
  | ok file => exact (told _).bind fun value => others value.1 value.2
  | error error =>
      refine (Exporting.noteFailure_aligns widget error).bind fun _ => ?_
      exact (told _).bind fun value => others value.1 value.2

theorem compileSnippet_isAligned (layer : Layer α) :
    ((DesignExport.compileSnippet layer).run
      (Context.start (Index.ofDocument document) settings .clipboard)).2.log.IsAligned :=
  (compileSnippet_aligned layer _ (Context.start_isAligned _ settings .clipboard)).2

variable {document settings}

theorem Notes.isAligned {log : Log} (noted : document.Notes settings log) : log.IsAligned := by
  cases noted with
  | exportAll host state => exact exportAll_isAligned document settings host state
  | @exportSelected _ host state guid report exported =>
      unfold Document.exportSelected at exported
      split at exported
      · cases exported
      · split at exported
        · cases exported
        · rename_i widget _
          cases exported
          exact exportWidget_isAligned document settings host widget state
  | @copySelected guid snippet copied =>
      unfold Document.copySelected at copied
      split at copied
      · cases copied
      · split at copied
        · cases copied
        · rename_i layer _ _
          have aligned := compileSnippet_isAligned document settings layer
          generalize (DesignExport.compileSnippet layer).run
            (Context.start (Index.ofDocument document) settings .clipboard) = compiled at copied aligned
          obtain ⟨result, context⟩ := compiled
          cases result with
          | error error => cases copied
          | ok code =>
              cases copied
              exact aligned
  | compileSnippet layer => exact compileSnippet_isAligned document settings layer

end Document

/-- Whatever happens to a layout in whatever order, its parts fit together, and no copy and
no export notes a missing alignment. -/
theorem Layout.stays_consistent :
    (∀ (input : LayoutInput α) (steps : List (LayoutStep α)),
      (steps.foldl Layout.after (Layout.ofInput input)).IsConsistent) ∧
    ∀ (document : Document α) (settings : Settings) (log : Log), document.Notes settings log →
      ∀ entry ∈ log, ¬entry.IsMisalignment :=
  ⟨fun input steps => (ofInput_isConsistent input).foldl_after steps,
    fun _ _ _ noted => noted.isAligned⟩

/-- A badge in the upper right corner of a page. -/
def badgeLayer : LayerInfo Rat :=
  { LayerInfo.usual "badge" "Badge" .ellipse with
    transform := Affine.shift 355 0
    localBounds := ⟨0, 0, 20, 20⟩
    rotation := 45
    arrangement := ⟨some { right := true, top := true, width := true, height := true }, .none, none, none⟩ }

def badgePage : LayerInfo Rat :=
  { LayerInfo.usual "home" "Home" .artboard with localBounds := ⟨0, 0, 375, 812⟩ }

def badgeDocument : Document Rat :=
  ⟨[], [⟨badgePage, [⟨badgeLayer, []⟩]⟩], ⟨[], []⟩⟩

/-- The badge is aligned, and stays consistent when its code is wrapped. -/
theorem Layout.stays_consistent_badgeDocument :
    let placed := Layout.ofInput (LayoutInput.ofLayer badgeLayer (some badgePage))
    placed.type = .align ∧
      ([LayoutStep.takePadding, .wrap "Container()" badgeLayer "", .reset true].foldl
        Layout.after placed).IsConsistent ∧
      ∀ entry ∈ ((badgeDocument.exportAll {} Document.refusingHost).run 0).1.diagnostics,
        ¬entry.IsMisalignment := by
  obtain ⟨consistent, noted⟩ := stays_consistent (α := Rat)
  exact ⟨by decide +kernel, consistent _ _,
    noted badgeDocument {} _ (Document.Notes.exportAll Document.refusingHost 0)⟩

end DesignExport
