import DesignExport.Compile.AssetImage
import DesignExport.Expression.Node
import DesignExport.Proofs.Compile.Keeps
import DesignExport.Proofs.Layout.Consistent
import DesignExport.Proofs.Tree.Throughout
set_option autoImplicit false

/-! Steps of a compile that note no missing alignment. Writing a tree is such a step if the
layouts of the tree are consistent. The edits that parents make to the layouts of their
children keep them so. -/

namespace DesignExport

section Steps

variable {α β : Type}

/-- So far nothing has been noted about a missing alignment. -/
def Context.IsAligned (context : Context α) : Prop :=
  context.log.IsAligned

namespace Compile

/-- A step notes no missing alignment. -/
abbrev StaysAligned (step : Compile α β) : Prop :=
  Keeps Context.IsAligned step (fun _ => True)

namespace StaysAligned

theorem pure (value : β) : StaysAligned (Pure.pure value : Compile α β) :=
  Keeps.pure trivial

/-- A step that leaves the log as it is. -/
theorem of_log_eq {step : Compile α β}
    (same : ∀ context, (step.run context).2.log = context.log) : StaysAligned step := by
  intro context aligned
  refine ⟨trivial, ?_⟩
  rw [Context.IsAligned, same]
  exact aligned

theorem note {entries : Log} (harmless : entries.IsAligned) :
    StaysAligned (Compile.note entries : Compile α Unit) :=
  fun _ aligned => ⟨trivial, aligned.append harmless⟩

theorem noting {result : β × Log} (harmless : result.2.IsAligned) :
    StaysAligned (Compile.noting result : Compile α β) :=
  (note harmless).bind fun _ _ => pure _

theorem warn (message : String) (layer : LayerInfo α) : StaysAligned (Compile.warn message layer) :=
  note (Log.IsAligned.warning message _)

theorem warnAll (message : String) : StaysAligned (Compile.warnAll message : Compile α Unit) :=
  note (Log.IsAligned.warning (α := α) message none)

theorem settings : StaysAligned (Compile.settings : Compile α Settings) :=
  of_log_eq fun _ => rfl

theorem inheritedOpacity [Scalar α] (layer : LayerInfo α) :
    StaysAligned (Compile.inheritedOpacity layer) :=
  of_log_eq fun _ => rfl

theorem changeScope (edit : WidgetScope → WidgetScope) :
    StaysAligned (Compile.changeScope edit : Compile α Unit) :=
  of_log_eq fun _ => rfl

theorem addImport (uri : String) : StaysAligned (Compile.addImport uri : Compile α Unit) :=
  changeScope _

theorem addImportAs (uri name : String) :
    StaysAligned (Compile.addImportAs uri name : Compile α Unit) :=
  changeScope _

theorem addFont (family : String) : StaysAligned (Compile.addFont family : Compile α Unit) :=
  of_log_eq fun _ => rfl

theorem addRender [Scalar α] (layer : LayerInfo α) : StaysAligned (Compile.addRender layer) :=
  of_log_eq fun _ => rfl

theorem addParam (param : Parameter) : StaysAligned (Compile.addParam param : Compile α Unit) := by
  refine Keeps.get fun context _ => ?_
  split
  · exact changeScope _
  · exact Keeps.ite (fun _ => warnAll _) fun _ => pure ()

theorem addMethod (name body : String) :
    StaysAligned (Compile.addMethod name body : Compile α Unit) :=
  Keeps.get fun _ _ => Keeps.ite_skip (warnAll _) (changeScope _)

end StaysAligned

end Compile

open Compile (Keeps StaysAligned)

theorem AssetImage.name_aligned (layer : LayerInfo α) : StaysAligned (name layer) := by
  refine StaysAligned.settings.bind fun settings _ => ?_
  split
  · exact StaysAligned.pure _
  · exact (StaysAligned.warn _ layer).bind fun _ _ => StaysAligned.pure _

theorem AssetImage.ofFill_aligned (layer : LayerInfo α) : StaysAligned (ofFill layer) :=
  (name_aligned layer).bind fun _ _ => StaysAligned.pure _

end Steps

/-! ### The code of trees -/

open Compile (Keeps StaysAligned)

variable {α : Type} [Scalar α]

/-! ### Paint and pictures -/

theorem Paint.solidColor?_log_isAligned (fill : Fill α) (opacity : α) (layer : LayerInfo α) :
    (solidColor? fill opacity layer).2.IsAligned := by
  unfold solidColor?
  split
  · exact Log.IsAligned.nil
  · exact Log.IsAligned.nil
  · exact Log.IsAligned.warning _ _

omit [Scalar α] in
theorem Paint.warnIf_isAligned (condition : Bool) (message : String) (layer : LayerInfo α) :
    (warnIf condition message layer).IsAligned :=
  Log.IsAligned.ite (Log.IsAligned.warning _ _) Log.IsAligned.nil

theorem Paint.border_log_isAligned (stroke : Stroke α) (opacity : α) (layer : LayerInfo α)
    (unit : String) : (border stroke opacity layer unit).2.IsAligned :=
  ((warnIf_isAligned _ _ layer).append (warnIf_isAligned _ _ layer)).append
    (warnIf_isAligned _ _ layer)

namespace Markup

theorem fill_log_isAligned (layer : LayerInfo α) (opacity : α) :
    (fill layer opacity).2.2.IsAligned := by
  unfold fill
  split
  case h_5 | h_6 => exact Log.IsAligned.warning _ _
  all_goals exact Log.IsAligned.nil

theorem stroke_log_isAligned (layer : LayerInfo α) (opacity : α) :
    (stroke layer opacity).2.IsAligned := by
  unfold stroke
  split
  · exact Log.IsAligned.nil
  · exact Log.IsAligned.ite Log.IsAligned.nil (Log.IsAligned.warning _ _)

theorem path_log_isAligned (opacityOf : OpacityOf α) (layer : LayerInfo α) :
    (path opacityOf layer).2.IsAligned :=
  ((fill_log_isAligned layer _).append (stroke_log_isAligned layer _)).append
    (Log.IsAligned.ite (Log.IsAligned.warning _ _) Log.IsAligned.nil)

mutual

theorem member_log_isAligned (opacityOf : OpacityOf α) : ∀ inner : ShapeMember α,
    (member opacityOf inner).2.IsAligned
  | .primitive layer => path_log_isAligned opacityOf layer
  | .nested _ members => members_log_isAligned opacityOf members

theorem members_log_isAligned (opacityOf : OpacityOf α) : ∀ inner : List (ShapeMember α),
    (members opacityOf inner).2.IsAligned
  | [] => Log.IsAligned.nil
  | first :: rest =>
      (member_log_isAligned opacityOf first).append (members_log_isAligned opacityOf rest)

end

end Markup

namespace ShapeUnit

theorem markup_log_isAligned (opacityOf : Markup.OpacityOf α) (unit : ShapeUnit α) :
    (unit.markup opacityOf).2.2.IsAligned := by
  unfold markup
  split
  · exact Log.IsAligned.nil
  · exact Markup.members_log_isAligned opacityOf _

theorem id_log_isAligned (opacityOf : Markup.OpacityOf α) (unit : ShapeUnit α) :
    (unit.id opacityOf).2.2.IsAligned := by
  unfold id
  split
  · exact Log.IsAligned.nil
  · exact markup_log_isAligned opacityOf unit

end ShapeUnit

namespace Picture

theorem markup_aligned (unit : ShapeUnit α) : StaysAligned (markup unit) :=
  Keeps.get fun _ _ =>
    (StaysAligned.note (unit.markup_log_isAligned _)).bind fun _ _ => StaysAligned.pure _

theorem id_aligned (unit : ShapeUnit α) : StaysAligned (id unit) :=
  Keeps.get fun _ _ =>
    (StaysAligned.note (unit.id_log_isAligned _)).bind fun _ _ => StaysAligned.pure _

theorem source_aligned (unit : ShapeUnit α) : StaysAligned (source unit) := by
  refine Keeps.get fun context _ => ?_
  cases context.target with
  | clipboard => exact (markup_aligned unit).bind fun _ _ => StaysAligned.pure _
  | files =>
      refine (id_aligned unit).bind fun named _ => ?_
      refine (markup_aligned named.2).bind fun text _ => ?_
      exact (StaysAligned.changeScope _).bind fun _ _ => StaysAligned.pure _

theorem place_isConsistent {layout : Layout α} (consistent : layout.IsConsistent)
    (unit : ShapeUnit α) : (place layout unit).IsConsistent := by
  unfold place
  split
  · exact Layout.calculate_isConsistent _ _
  · exact consistent

theorem write_aligned {layout : Layout α} (consistent : layout.IsConsistent) (unit : ShapeUnit α) :
    Keeps Context.IsAligned (write layout unit) (fun result => result.2.1.IsConsistent) := by
  have placed := place_isConsistent consistent unit
  refine (source_aligned unit).bind fun (data, known) _ => ?_
  refine (StaysAligned.addImport _).bind fun _ _ => ?_
  exact Keeps.ite (fun _ => Keeps.pure placed) fun _ => Keeps.pure { placed with }

end Picture

/-! ### Boxes and texts -/

namespace Box

theorem filling_aligned (node : NodeInfo α) (opacity : α) :
    StaysAligned (filling node opacity) := by
  unfold filling
  split
  case h_1 => exact StaysAligned.pure _
  case h_2 => exact StaysAligned.pure _
  case h_3 image _ =>
    split
    case h_1 => exact (StaysAligned.pure _).bind fun _ _ => StaysAligned.pure _
    case h_2 => exact (AssetImage.ofFill_aligned _).bind fun _ _ => StaysAligned.pure _
  case h_4 fill _ _ _ =>
    split
    case h_1 => exact StaysAligned.pure _
    case h_2 =>
      refine (StaysAligned.noting (Paint.solidColor?_log_isAligned _ _ _)).bind fun color _ => ?_
      cases color with
      | some expression => exact StaysAligned.pure _
      | none => exact StaysAligned.pure _

theorem border_aligned (layer : LayerInfo α) (opacity : α) (unit : String) :
    StaysAligned (border layer opacity unit) := by
  unfold border
  split
  · exact StaysAligned.pure _
  · exact (StaysAligned.noting (Paint.border_log_isAligned _ _ _ _)).bind fun _ _ =>
      StaysAligned.pure _

theorem opacity_aligned (layer : LayerInfo α) : StaysAligned (opacity layer) := by
  refine (StaysAligned.inheritedOpacity layer).bind fun inherited _ => ?_
  split
  · exact StaysAligned.pure _
  · exact StaysAligned.pure _

theorem decoration_aligned (node : NodeInfo α) (unit : String) :
    StaysAligned (decoration node unit) := by
  refine (opacity_aligned node.layer).bind fun opacity _ => ?_
  refine (filling_aligned node opacity).bind fun filling _ => ?_
  refine (border_aligned node.layer opacity unit).bind fun border _ => ?_
  exact Keeps.ite (fun _ => StaysAligned.pure _) fun _ => StaysAligned.pure _

theorem write_aligned {node : NodeInfo α} (consistent : node.layout.IsConsistent) :
    Keeps Context.IsAligned (write node) (fun result => result.2.IsConsistent) := by
  refine StaysAligned.settings.bind fun settings _ => ?_
  refine (decoration_aligned node _).bind fun decoration _ => ?_
  exact Keeps.ite (fun _ => Keeps.pure { consistent.takePadding with }) fun _ =>
    Keeps.pure consistent

end Box

namespace Label

theorem warnOfRun_aligned (layer : LayerInfo α) (run : TextRun α) :
    StaysAligned (warnOfRun layer run) := by
  unfold warnOfRun
  refine Keeps.ite_skip (StaysAligned.warn _ layer) ?_
  refine Keeps.ite_skip (StaysAligned.warn _ layer) ?_
  exact Keeps.ite (fun _ => StaysAligned.warn _ layer) fun _ => StaysAligned.pure ()

theorem warnOfRuns_aligned (layer : LayerInfo α) : ∀ runs : List (TextRun α),
    StaysAligned (warnOfRuns layer runs)
  | [] => StaysAligned.pure ()
  | run :: rest => (warnOfRun_aligned layer run).bind fun _ _ => warnOfRuns_aligned layer rest

theorem warnOf_aligned (layer : LayerInfo α) (block : TextBlock α) :
    StaysAligned (warnOf layer block) :=
  (warnOfRuns_aligned layer block.runs).bind fun _ _ =>
    Keeps.ite (fun _ => StaysAligned.warn _ layer) fun _ => StaysAligned.pure ()

omit [Scalar α] in
theorem useFont_aligned (run : TextRun α) : StaysAligned (useFont run) :=
  StaysAligned.settings.bind fun _ _ =>
    Keeps.ite (fun _ => StaysAligned.pure ()) fun _ => StaysAligned.addFont _

theorem flat_aligned (node : NodeInfo α) (block : TextBlock α) (context : TextContext α) :
    StaysAligned (flat node block context) :=
  (useFont_aligned _).bind fun _ _ =>
    StaysAligned.settings.bind fun _ _ => StaysAligned.pure _

theorem spans_aligned (baseline : TextStyle) (context : TextContext α) :
    ∀ slices : List (TextRun α × List Char), StaysAligned (spans baseline context slices)
  | [] => StaysAligned.pure _
  | (run, _) :: rest =>
      (useFont_aligned run).bind fun _ _ => StaysAligned.settings.bind fun _ _ =>
        (spans_aligned baseline context rest).bind fun _ _ => StaysAligned.pure _

theorem rich_aligned (block : TextBlock α) (context : TextContext α) :
    StaysAligned (rich block context) :=
  StaysAligned.settings.bind fun _ _ =>
    (spans_aligned _ context _).bind fun _ _ => StaysAligned.pure _

theorem place_isConsistent {layout : Layout α} (consistent : layout.IsConsistent)
    (block : TextBlock α) (code : String) : (place layout block code).2.IsConsistent := by
  have widened : (widened layout block code).2.IsConsistent := by
    unfold widened
    split
    · exact consistent
    · split
      · exact consistent
      · split
        · exact { consistent with }
        · exact { consistent with }
  unfold place
  split
  · exact { consistent with }
  · split
    · exact widened
    · exact consistent

theorem context_aligned (node : NodeInfo α) (block : TextBlock α) :
    StaysAligned (context node block) :=
  (StaysAligned.inheritedOpacity _).bind fun _ _ => StaysAligned.pure _

theorem write_aligned {node : NodeInfo α} (consistent : node.layout.IsConsistent) :
    Keeps Context.IsAligned (write node) (fun result => result.2.IsConsistent) := by
  unfold write
  split
  case h_1 block _ =>
    refine (warnOf_aligned node.layer block).bind fun _ _ => ?_
    refine (context_aligned node block).bind fun context _ => ?_
    exact Keeps.ite_bind (fun _ => flat_aligned node block context)
      (fun _ => rich_aligned block context) fun code _ =>
        Keeps.pure (place_isConsistent consistent block _)
  case h_2 => exact Keeps.pure consistent

end Label

/-! ### Decorators -/

namespace Decorator

theorem apply_aligned (child : String) (decorator : Decorator α) :
    StaysAligned (decorator.apply child) := by
  cases decorator with
  | tap callback => exact StaysAligned.pure _
  | pageLink widget transition =>
      exact (StaysAligned.addImport _).bind fun _ _ => StaysAligned.pure _
  | blur amount => exact (StaysAligned.addImportAs _ _).bind fun _ _ => StaysAligned.pure _

theorem applyAll_aligned (decorators : List (Decorator α)) : ∀ code : String,
    StaysAligned (applyAll code decorators) := by
  induction decorators with
  | nil => exact fun _ => StaysAligned.pure _
  | cons decorator rest ih => exact fun code => (apply_aligned code decorator).bind fun _ _ => ih _

end Decorator

/-! ### Children -/

/-- An edit of layouts that keeps them consistent. -/
def Layout.KeepsConsistent (edit : Layout α → Layout α) : Prop :=
  ∀ layout : Layout α, layout.IsConsistent → (edit layout).IsConsistent

/-- However its layout is edited, writing a child notes no missing alignment. -/
def Child.StaysAligned (child : Child α) : Prop :=
  ∀ edit : Layout α → Layout α, Layout.KeepsConsistent edit →
    Compile.StaysAligned (child.write edit)

omit [Scalar α] in
theorem Layout.keepsConsistent_id : KeepsConsistent (id : Layout α → Layout α) :=
  fun _ consistent => consistent

omit [Scalar α] in
/-- Cells of rows and columns leave the size to these. -/
theorem Layout.keepsConsistent_asCell :
    KeepsConsistent fun layout : Layout α => { layout with shouldFixSize := false } :=
  fun _ consistent => { consistent with }

namespace Child

omit [Scalar α] in
theorem writeList_aligned {edit : Layout α → Layout α} (keeps : Layout.KeepsConsistent edit) :
    ∀ children : List (Child α), (∀ child ∈ children, child.StaysAligned) →
      Compile.StaysAligned (writeList edit children)
  | [], _ => StaysAligned.pure _
  | child :: rest, aligned => by
      obtain ⟨first, others⟩ := List.forall_mem_cons.mp aligned
      refine (first edit keeps).bind fun written _ => ?_
      exact (writeList_aligned keeps rest others).bind fun _ _ => StaysAligned.pure _

omit [Scalar α] in
theorem writeStack_aligned {children : List (Child α)}
    (aligned : ∀ child ∈ children, child.StaysAligned) :
    Compile.StaysAligned (writeStack children) :=
  (writeList_aligned Layout.keepsConsistent_id children aligned).bind fun _ _ =>
    StaysAligned.pure _

end Child

/-! ### Groups and roots -/

namespace Group

theorem writeRendered_aligned {node : NodeInfo α} (consistent : node.layout.IsConsistent) :
    Keeps Context.IsAligned (writeRendered node) (fun result => result.2.IsConsistent) :=
  StaysAligned.settings.bind fun _ _ => (StaysAligned.addRender _).bind fun _ _ =>
    Keeps.pure { consistent with }

theorem cells_aligned (orientation : Orientation) (unit : String) :
    ∀ (entries : List (α × Child α)) (hasTrimmed : Bool),
      (∀ entry ∈ entries, entry.2.StaysAligned) →
      StaysAligned (cells orientation unit hasTrimmed entries)
  | [], _, _ => StaysAligned.pure _
  | (gap, child) :: rest, hasTrimmed, aligned => by
      obtain ⟨first, others⟩ := List.forall_mem_cons.mp aligned
      rw [cells]
      refine (first _ Layout.keepsConsistent_asCell).bind fun written _ => ?_
      refine Keeps.ite (fun _ => ?_) fun _ => ?_
      · exact (cells_aligned orientation unit rest _ others).bind fun _ _ => StaysAligned.pure _
      · exact (cells_aligned orientation unit rest _ others).bind fun _ _ => StaysAligned.pure _

theorem writeFlex_aligned (stack : Stack α) {children : List (Child α)}
    (aligned : ∀ child ∈ children, child.StaysAligned) :
    StaysAligned (writeFlex stack children) := by
  refine StaysAligned.settings.bind fun settings _ => ?_
  refine (cells_aligned _ _ _ _ fun entry member => ?_).bind fun _ _ => StaysAligned.pure _
  exact aligned entry.2 (List.mem_reverse.mp (List.of_mem_zip member).2)

theorem writeChildren_aligned (node : NodeInfo α) (hasBackground : Bool)
    {children : List (Child α)} (aligned : ∀ child ∈ children, child.StaysAligned) :
    StaysAligned (writeChildren node hasBackground children) := by
  unfold writeChildren
  split
  · exact writeFlex_aligned _ aligned
  · split
    · exact (aligned _ List.mem_cons_self _ Layout.keepsConsistent_id).bind fun _ _ =>
        StaysAligned.pure _
    · exact Child.writeStack_aligned aligned

theorem onBackground_aligned (layer : LayerInfo α) (code unit : String) :
    StaysAligned (onBackground layer code unit) := by
  unfold onBackground
  refine Keeps.ite_skip (StaysAligned.warn _ layer) ?_
  refine (StaysAligned.inheritedOpacity layer).bind fun opacity _ => ?_
  dsimp only
  split
  · exact (StaysAligned.noting (Paint.solidColor?_log_isAligned _ _ _)).bind fun color _ =>
      (Box.border_aligned layer opacity unit).bind fun _ _ => StaysAligned.pure _
  · exact (StaysAligned.pure _).bind fun color _ =>
      (Box.border_aligned layer opacity unit).bind fun _ _ => StaysAligned.pure _

omit [Scalar α] in
theorem warnOfMask_aligned (layer : LayerInfo α) : StaysAligned (warnOfMask layer) :=
  Keeps.ite (fun _ => StaysAligned.warn _ layer) fun _ => StaysAligned.pure ()

theorem writeContent_aligned (node : NodeInfo α) (first : Child α) (rest : List (Child α))
    (aligned : ∀ child ∈ first :: rest, child.StaysAligned) :
    StaysAligned (writeContent node first rest) := by
  refine StaysAligned.settings.bind fun settings _ => ?_
  refine (warnOfMask_aligned node.layer).bind fun _ _ => ?_
  refine Keeps.ite (fun _ => ?_) fun _ => ?_
  · refine (writeChildren_aligned node true (List.forall_mem_cons.mp aligned).2).bind fun written _ => ?_
    exact (onBackground_aligned _ _ _).bind fun _ _ => StaysAligned.pure _
  · exact (writeChildren_aligned node false aligned).bind fun _ _ => StaysAligned.pure _

theorem write_aligned (node : NodeInfo α) : ∀ children : List (Child α),
    (∀ child ∈ children, child.StaysAligned) → StaysAligned (write node children)
  | [], _ => StaysAligned.pure _
  | first :: rest, aligned => writeContent_aligned node first rest aligned

theorem writeScroll_aligned (node : NodeInfo α) (direction : ScrollDirection) :
    ∀ children : List (Child α), (∀ child ∈ children, child.StaysAligned) →
      StaysAligned (writeScroll node direction children)
  | [], _ => StaysAligned.pure _
  | first :: rest, aligned => StaysAligned.settings.bind fun _ _ =>
      (writeContent_aligned node first rest aligned).bind fun _ _ => StaysAligned.pure _

end Group

namespace Root

theorem pageColor_aligned (owner : LayerInfo α) : StaysAligned (pageColor owner) := by
  unfold pageColor
  split
  · exact StaysAligned.pure _
  · exact StaysAligned.pure _
  · exact (StaysAligned.warn _ owner).bind fun _ _ => StaysAligned.pure _
  · exact (StaysAligned.warn _ owner).bind fun _ _ => StaysAligned.pure _

variable {children : List (Child α)} (aligned : ∀ child ∈ children, child.StaysAligned)

include aligned

omit [Scalar α] in
theorem writeBody_aligned (node : NodeInfo α) : StaysAligned (writeBody node children) := by
  unfold writeBody
  split
  case h_1 first only =>
    refine Keeps.ite (fun _ => ?_) fun _ => Child.writeStack_aligned aligned
    exact (aligned only (List.mem_cons_of_mem _ List.mem_cons_self) _
      Layout.keepsConsistent_id).bind fun _ _ => StaysAligned.pure _
  case h_2 => exact Child.writeStack_aligned aligned

theorem write_aligned (node : NodeInfo α) : StaysAligned (write node children) := by
  unfold write
  split
  · exact (pageColor_aligned _).bind fun _ _ =>
      (writeBody_aligned aligned node).bind fun _ _ => StaysAligned.pure _
  · exact Child.writeStack_aligned aligned

end Root

/-! ### Nodes -/

namespace NodeInfo

omit [Scalar α] in
theorem templateSettings_aligned (node : NodeInfo α) (cut : Template.Cut) :
    StaysAligned (templateSettings node cut) := by
  unfold templateSettings
  split
  · exact StaysAligned.pure _
  · split
    · exact StaysAligned.pure _
    · exact (StaysAligned.warn _ _).bind fun _ _ => StaysAligned.pure _

theorem keepsConsistent_editForTemplate (wanted : Template.ChildLayout) :
    Layout.KeepsConsistent (α := α) (editForTemplate wanted) := by
  intro layout consistent
  cases wanted with
  | asDesigned => exact consistent
  | none => exact { consistent with }
  | size => exact Layout.reset_isConsistent layout true

theorem decorate_aligned {node : NodeInfo α} (consistent : node.layout.IsConsistent)
    (code : String) : StaysAligned (decorate node code) := by
  refine StaysAligned.settings.bind fun settings _ => ?_
  refine (StaysAligned.note (consistent.wrap_log_isAligned _ _ _)).bind fun _ _ => ?_
  refine (Decorator.applyAll_aligned node.decorators _).bind fun decorated _ => ?_
  exact Keeps.ite (fun _ => StaysAligned.pure _) fun _ => StaysAligned.pure _

variable {node : NodeInfo α} (consistent : node.layout.IsConsistent) {children : List (Child α)}
  (aligned : ∀ child ∈ children, child.StaysAligned)

include consistent aligned

/-- What is left of the layout of a node is consistent. -/
theorem writeBody_aligned :
    Keeps Context.IsAligned (writeBody node children)
      (fun result => result.2.layout.IsConsistent) := by
  unfold writeBody
  split
  case h_1 => exact (Root.write_aligned aligned node).bind fun _ _ => Keeps.pure consistent
  case h_2 => exact (Box.write_aligned consistent).bind fun _ left => Keeps.pure left
  case h_3 => exact (Label.write_aligned consistent).bind fun _ left => Keeps.pure left
  case h_4 unit _ => exact (Picture.write_aligned consistent unit).bind fun _ left => Keeps.pure left
  case h_5 kind _ =>
    split
    case isTrue => exact (Group.writeRendered_aligned consistent).bind fun _ left => Keeps.pure left
    case isFalse =>
      cases kind with
      | instanceOf widget => exact Keeps.pure consistent
      | plain =>
          exact (Group.write_aligned node children aligned).bind fun _ _ => Keeps.pure consistent
      | scroll direction =>
          exact (Group.writeScroll_aligned node direction children aligned).bind
            fun _ _ => Keeps.pure consistent

theorem writeInline_aligned : StaysAligned (writeInline node children) := by
  refine (writeBody_aligned consistent aligned).bind fun (body, written) left => ?_
  refine Keeps.ite (fun _ => StaysAligned.pure _) fun _ => ?_
  exact (decorate_aligned left body).bind fun _ _ => StaysAligned.pure _

theorem writeMethod_aligned : StaysAligned (writeMethod node children) := by
  refine (writeInline_aligned consistent aligned).bind fun (code, written) _ => ?_
  refine Keeps.ite (fun _ => StaysAligned.pure _) fun _ => ?_
  exact StaysAligned.settings.bind fun _ _ =>
    (StaysAligned.addMethod _ _).bind fun _ _ => StaysAligned.pure _

theorem writePlaceholder_aligned (placeholder : Template.Placeholder)
    (settings : Template.Settings) :
    StaysAligned (writePlaceholder node children placeholder settings) := by
  cases placeholder with
  | children =>
      exact (Child.writeList_aligned (keepsConsistent_editForTemplate _) children aligned).bind
        fun _ _ => StaysAligned.pure _
  | this =>
      refine Keeps.ite (fun _ => writeInline_aligned consistent aligned) fun _ => ?_
      exact (writeBody_aligned consistent aligned).mono fun _ _ => trivial

theorem writeTemplate_aligned : StaysAligned (writeTemplate node children) := by
  unfold writeTemplate
  dsimp only
  split
  · exact StaysAligned.pure _
  · refine (templateSettings_aligned node _).bind fun settings _ => ?_
    exact (writePlaceholder_aligned consistent aligned _ settings).bind fun _ _ =>
      StaysAligned.pure _

theorem write_aligned : StaysAligned (write node children) := by
  unfold write
  split
  · exact writeInline_aligned consistent aligned
  · exact writeMethod_aligned consistent aligned
  · exact StaysAligned.settings.bind fun _ _ => StaysAligned.pure _
  · exact writeTemplate_aligned consistent aligned

end NodeInfo

namespace Node

/-- The layouts of a tree are consistent. -/
def HasConsistentLayouts (node : Node α) : Prop :=
  node.Throughout fun part => part.layout.IsConsistent

mutual

theorem writeWith_aligned {edit : Layout α → Layout α} (keeps : Layout.KeepsConsistent edit) :
    ∀ node : Node α, node.HasConsistentLayouts → StaysAligned (writeWith node edit)
  | ⟨info, children⟩, consistent => by
      obtain ⟨own, below⟩ := throughout_mk.mp consistent
      rw [writeWith]
      exact NodeInfo.write_aligned (keeps _ own) (asChildren_aligned children below)

theorem asChildren_aligned : ∀ nodes : List (Node α), (∀ node ∈ nodes, node.HasConsistentLayouts) →
    ∀ child ∈ asChildren nodes, child.StaysAligned
  | [], _, _, absent => absurd absent List.not_mem_nil
  | node :: rest, consistent, child, member => by
      obtain ⟨first, others⟩ := List.forall_mem_cons.mp consistent
      rw [asChildren, List.mem_cons] at member
      rcases member with same | later
      · subst same
        exact fun edit keeps => writeWith_aligned keeps node first
      · exact asChildren_aligned rest others child later

end

theorem write_aligned {node : Node α} (consistent : node.HasConsistentLayouts) :
    StaysAligned node.write :=
  writeWith_aligned Layout.keepsConsistent_id node consistent

end Node

end DesignExport
