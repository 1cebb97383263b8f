import DesignExport.Proofs.Compile.Leads
import DesignExport.Proofs.Export.Tables
import DesignExport.Proofs.Expression.Pieces
set_option autoImplicit false

/-! Where the code of a node ends up in the file of its widget: in the body of the widget or
in the body of a method. Only a method of the same name can take it away, with a warning
among what is recorded for the widget. -/

namespace DesignExport

open Compile (Files Framed Lasts Tells)

variable {α : Type}

/-- Some code stands in the body of a widget or of one of its methods. -/
def ShowsInBody (piece body : String) (scope : WidgetScope) : Prop :=
  ShowsPiece piece body ∨ ∃ method ∈ scope.methods, ShowsPiece piece method.2

/-- What stands in a body stands in the file of the widget. -/
theorem ShowsInBody.source {piece body : String} {scope : WidgetScope}
    (shown : ShowsInBody piece body scope) (className : String) (nullSafe : Bool) :
    ShowsPiece piece (SourceFile.ofWidget className body scope nullSafe).source := by
  have survives := survivesEdits_showsPiece piece
  have inMethod {name code : String} (inside : ShowsPiece piece code)
      (has : (SourceFile.ofWidget className body scope nullSafe).Has (SourceFile.method name code)) :
      ShowsPiece piece (SourceFile.ofWidget className body scope nullSafe).source := by
    obtain ⟨before, after, same⟩ := has
    rw [same]
    exact survives.between (survives.between inside _ _) _ _
  rcases shown with inside | ⟨method, known, inside⟩
  · exact inMethod inside (SourceFile.has_body className body scope nullSafe)
  · exact inMethod inside (SourceFile.has_method known)

variable [Scalar α]

/-- What a node tells that is written stands in a body once the tree is written, unless
there has been a warning about a method. -/
theorem Node.Reaches.showsInBody {tree part : Node α} {piece : String}
    (reached : tree.Reaches part) (ready : Context α)
    (told : ∀ {fact : Context α → Prop}, Lasts (fun _ => True) fact → Files (ShowsPiece piece) fact →
      ∀ edit, Tells ready (ShowsPiece piece) fact (part.writeWith edit)) :
    ShowsInBody piece (tree.write.run ready).1.1 (tree.write.run ready).2.scope ∨
      (tree.write.run ready).2.WarnsOfMethod := by
  have lasts : Lasts (fun _ => True) (Context.ShowsInMethod (α := α) (ShowsPiece piece)) :=
    Context.lasts_showsInMethod _
  have files : Files (ShowsPiece piece) (Context.ShowsInMethod (α := α) (ShowsPiece piece)) :=
    fun _ _ shown context => Context.showsInMethod_addMethod shown context
  have shown := (reached.tells (handsOn_showsOneOf _ lasts) files (told lasts files) id ready rfl).1
  rcases shown with body | method | warned
  · exact Or.inl (Or.inl body)
  · exact Or.inl (Or.inr method)
  · exact Or.inr warned

/-! ### From the tree of a widget to its code -/

theorem widgetTree_framed (layer : Layer α) : Framed (widgetTree layer) := by
  refine (widgetClass_framed layer.toLayerInfo).bind fun className => ?_
  refine (Compile.beginWidget_framed className).bind fun _ => ?_
  refine (Node.buildRoot_framed layer).bind fun root => ?_
  exact Compile.settings_framed.bind fun _ => Framed.pure _

/-- What is recorded for a widget is recorded while its tree is built and written. -/
theorem compileWidget_run_records {layer : Layer α} {start ready : Context α} {tree : Node α}
    (built : (widgetTree layer).run start = (tree, ready)) :
    ((compileWidget layer).run start).2.log = (tree.write.run ready).2.log ∧
      ((compileWidget layer).run start).2.fonts = (tree.write.run ready).2.fonts := by
  let code := (widgetCode layer ((widgetClass layer.toLayerInfo).run start).1).run start
  have log : code.2.log =
      (((widgetTree layer).run start).1.write.run ((widgetTree layer).run start).2).2.log := rfl
  have fonts : code.2.fonts =
      (((widgetTree layer).run start).1.write.run ((widgetTree layer).run start).2).2.fonts := rfl
  have after : ((compileWidget layer).run start).2 = code.2 := by
    rw [compileWidget, Compile.run_bind, Compile.run_bind]
    split
    split <;> rfl
  rw [built] at log fonts
  rw [after]
  exact ⟨log, fonts⟩

/-- The code of a widget, and what is recorded for it and for nothing before, come from
writing its tree in some context. -/
theorem exists_ready (layer : Layer α) (start : Context α) :
    let tree := ((widgetTree layer).run start).1
    let className := ((widgetClass layer.toLayerInfo).run start).1
    ∃ ready, (widgetTree layer).run start.bare = (tree, ready) ∧
      ((widgetCode layer className).run start).1 =
        ((tree.write.run ready).1.1, (tree.write.run ready).2.scope) ∧
      ((compileWidget layer).run start.bare).2.log = (tree.write.run ready).2.log := by
  intro tree className
  obtain ⟨merged, ready, built⟩ : ∃ merged ready, (widgetTree layer).run start.bare = (merged, ready) :=
    ⟨_, _, rfl⟩
  have sameTree : merged = tree := by
    have same := congrArg Prod.fst ((widgetTree_framed layer).run_eq start)
    rw [built] at same
    exact same.symm
  rw [sameTree] at built
  refine ⟨ready, built, ?_, (compileWidget_run_records built).1⟩
  exact (congrArg Prod.fst ((widgetCode_framed layer className).run_eq start)).trans
    (widgetCode_run built)

/-- What a node of the tree of a widget tells stands in a body of the code of the widget,
unless there has been a warning about a method. -/
theorem Node.Reaches.showsInCode {layer : Layer α} {start : Context α} {part : Node α}
    {piece : String} (reached : ((widgetTree layer).run start).1.Reaches part)
    (told : ∀ {ready : Context α} {fact : Context α → Prop}, ready.idle = start.idle →
      (part.kind = .text → ∃ block, part.layer.kind = .text block) → Lasts (fun _ => True) fact →
        Files (ShowsPiece piece) fact →
          ∀ edit, Tells ready (ShowsPiece piece) fact (part.writeWith edit)) :
    let className := ((widgetClass layer.toLayerInfo).run start).1
    let code := ((widgetCode layer className).run start).1
    ShowsInBody piece code.1 code.2 ∨ ((compileWidget layer).run start.bare).2.WarnsOfMethod := by
  intro className code
  obtain ⟨ready, built, sameCode, log⟩ := exists_ready layer start
  change code = _ at sameCode
  have isReady := widgetTree_isReady built
  have label := (isSupplied_of_reaches isReady reached).label
  rw [Context.WarnsOfMethod, log, sameCode]
  exact reached.showsInBody ready fun lasts files => told isReady.idle_eq label lasts files

end DesignExport
