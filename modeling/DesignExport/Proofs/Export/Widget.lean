import DesignExport.Export.Widget
import DesignExport.Proofs.Expression.Composed
import DesignExport.Proofs.Expression.Present
set_option autoImplicit false

/-! The compile of a widget. It always has a file as its result. The file and the
records depend on nothing that an earlier widget left in the context. -/

namespace DesignExport

open Compile (Framed Yields)

variable {α : Type}

/-! ### The code of a root -/

/-- As the root of a widget comes out of the build. -/
structure NodeInfo.IsRoot (node : NodeInfo α) : Prop where
  kind_eq : node.kind = .widgetRoot
  mode_eq : node.mode = .inline
  not_enabled : node.layout.isEnabled = false
  decorators_eq : node.decorators = []

section

variable [Scalar α]

theorem NodeInfo.write_yields_of_isRoot {node : NodeInfo α} (root : node.IsRoot)
    (children : List (Child α)) : Yields (write node children) (fun result => result.1 ≠ "") := by
  rw [write, root.mode_eq]
  refine writeInline_yields ?_ ?_
  · intro text
    rw [root.kind_eq] at text
    cases text
  · rw [isEmptyGroup, isDrawnGroup, root.kind_eq]
    rfl

namespace Node

theorem buildRoot_yields_isRoot (layer : Layer α) :
    Yields (buildRoot layer) (fun node => node.IsRoot) := by
  refine Yields.bind_any fun nodes => Yields.pure ?_
  exact ⟨rfl, rfl, rfl, rfl⟩

theorem write_yields_of_isRoot {node : Node α} (root : node.IsRoot) :
    Yields (write node) (fun result => result.1 ≠ "") := by
  obtain ⟨info, children⟩ := node
  rw [write, writeWith]
  exact NodeInfo.write_yields_of_isRoot root _

/-- Merging what is below a root leaves the root itself alone. -/
theorem combineShapes_toNodeInfo {node : Node α} (root : node.IsRoot) (eager : Bool) :
    (node.combineShapes eager).toNodeInfo = node.toNodeInfo := by
  obtain ⟨info, children⟩ := node
  have kept (list : List (Node α)) : collapse (⟨info, list⟩ : Node α) = ⟨info, list⟩ := by
    have steady : NodeInfo.isCollapsible info = false := by
      rw [NodeInfo.isCollapsible, root.kind_eq]
      rfl
    unfold collapse
    split
    · split
      · rw [steady]
        rfl
      · rfl
    · rfl
  rw [combineShapes, mergeChildren]
  split
  · rw [kept]
  · rw [kept]

end Node

end

/-! ### The compile of a widget -/

theorem widgetClass_framed (layer : LayerInfo α) : Framed (widgetClass layer) :=
  Framed.get (fun _ => Framed.pure _) fun _ => rfl

variable [Scalar α]

theorem widgetCode_framed (layer : Layer α) (className : String) :
    Framed (widgetCode layer className) := by
  refine (Compile.beginWidget_framed className).bind fun _ => ?_
  refine (Node.buildRoot_framed layer).bind fun root => ?_
  refine Compile.settings_framed.bind fun settings => ?_
  refine (Node.write_framed _).bind fun code => ?_
  exact Compile.finishWidget_framed.bind fun _ => Framed.pure _

theorem compileWidget_framed (layer : Layer α) : Framed (compileWidget layer) := by
  refine (widgetClass_framed layer.toLayerInfo).bind fun className => ?_
  refine (widgetCode_framed layer className).bind fun code => ?_
  refine Framed.ite (Framed.pure _) ?_
  exact Compile.settings_framed.bind fun _ => Framed.pure _

theorem widgetCode_yields (layer : Layer α) (className : String) :
    Yields (widgetCode layer className) (fun result => result.1 ≠ "") := by
  refine Yields.bind_any fun _ => ?_
  refine Yields.bind (Node.buildRoot_yields_isRoot layer) fun node root => ?_
  refine Yields.bind_any fun settings => ?_
  have merged : (node.combineShapes settings.combineShapes).IsRoot := by
    rw [Node.combineShapes_toNodeInfo root]
    exact root
  refine Yields.bind (Node.write_yields_of_isRoot merged) fun result text => ?_
  exact Yields.bind_any fun scope => Yields.pure text

/-- A widget is never left out for want of code. -/
theorem compileWidget_yields (layer : Layer α) :
    Yields (compileWidget layer) (fun result => ∃ file, result = .ok file) := by
  refine Yields.bind_any fun className => ?_
  refine Yields.bind (widgetCode_yields layer className) fun code text => ?_
  dsimp only
  rw [if_neg (fun empty => text (String.isEmpty_iff.mp empty))]
  exact Yields.bind_any fun settings => Yields.pure ⟨_, rfl⟩

/-- The file of a widget is made of its code and its tables, and this is all that is done
after the code has been written. -/
theorem compileWidget_run_code (layer : Layer α) (start : Context α) :
    let className := ((widgetClass layer.toLayerInfo).run start).1
    let coded := (widgetCode layer className).run start
    (compileWidget layer).run start =
      (.ok (SourceFile.ofWidget className coded.1.1 coded.1.2 start.settings.nullSafe), coded.2) := by
  intro className coded
  have text : coded.1.1 ≠ "" := widgetCode_yields layer className start
  have settings := (widgetCode_framed layer className).settings_eq start
  have run : (compileWidget layer).run start = StateT.run
      (if coded.1.1.isEmpty then pure (.error (.nothingToExport className))
        else do
          let nullSafe := (← Compile.settings).nullSafe
          pure (.ok (SourceFile.ofWidget className coded.1.1 coded.1.2 nullSafe)))
      coded.2 := rfl
  rw [run, isEmpty_eq_false text, ← settings]
  exact rfl

theorem compileWidget_run_ok (layer : Layer α) (start : Context α) :
    let className := ((widgetClass layer.toLayerInfo).run start).1
    let code := ((widgetCode layer className).run start).1
    ((compileWidget layer).run start).1 =
      .ok (SourceFile.ofWidget className code.1 code.2 start.settings.nullSafe) := by
  intro className code
  rw [compileWidget_run_code]

/-- Nothing is noted once the code of a widget has been written. -/
theorem compileWidget_run_context {layer : Layer α} {start : Context α} {className : String}
    (named : ((widgetClass layer.toLayerInfo).run start).1 = className) :
    ((compileWidget layer).run start).2 = ((widgetCode layer className).run start).2 := by
  rw [compileWidget_run_code, named]

/-- The start of a widget clears whatever the widgets before it have left. -/
theorem compileWidget_run_idle (layer : Layer α) (context : Context α) :
    (compileWidget layer).run context.bare = (compileWidget layer).run context.idle :=
  rfl

/-- The file of a widget and what is recorded for it, whatever came before. -/
theorem compileWidget_run (layer : Layer α) (context : Context α) :
    (compileWidget layer).run context =
      (((compileWidget layer).run context.idle).1,
        ((compileWidget layer).run context.idle).2.onto context) := by
  rw [(compileWidget_framed layer).run_eq context, compileWidget_run_idle]

end DesignExport
