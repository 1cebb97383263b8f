import DesignExport.Proofs.Expression.Told
import DesignExport.Proofs.Tree.Supplied
set_option autoImplicit false

/-! What code refers to by name: calls of build methods, parameters of the widget, and
constants for pictures. A layer in method mode builds the method that stands for it, and
a shape in a file puts its constant there. -/

namespace DesignExport

open Compile (Composed Lasts Leads Yields)
open NodeInfo (call)

variable {α : Type}

theorem call_ne_empty (name : String) : call name ≠ "" :=
  append_ne_empty_of_right name (by decide)

/-- The method of a layer is there. -/
def LayerInfo.HasMethod (layer : LayerInfo α) (context : Context α) : Prop :=
  layer.methodName context.settings.normalizeNameCase ∈ context.scope.methods.keys

variable [Scalar α]

theorem LayerInfo.lasts_hasMethod (layer : LayerInfo α) {draws : ShapeUnit α → Prop} :
    Lasts draws layer.HasMethod := by
  intro β step composed context known
  rw [HasMethod, composed.framed.settings_eq]
  exact (composed.scope_within context).methods known

namespace NodeInfo

variable {node : NodeInfo α} {children : List (Child α)}

/-- A layer in method mode is called by the name of its method, which it builds. -/
theorem writeMethod_leads_call (label : node.kind = .text → ∃ block, node.layer.kind = .text block)
    (present : node.isEmptyGroup (Child.nodes children) = false) :
    Leads (fun _ => True) (writeMethod node children) (fun written context =>
      written.1 = call (node.layer.methodName context.settings.normalizeNameCase) ∧
        node.layer.HasMethod context) := by
  refine ((writeInline_yields label present).leads _).bind fun inline => ?_
  refine Leads.of_fact fun text => ?_
  dsimp only
  rw [isEmpty_eq_false text]
  intro context _
  let name := node.layer.methodName context.settings.normalizeNameCase
  let added := ((Compile.addMethod name inline.1).run context).2
  have settings : added.settings = context.settings :=
    (Compile.addMethod_framed name inline.1).settings_eq context
  change call name = call (node.layer.methodName added.settings.normalizeNameCase) ∧
    node.layer.HasMethod added
  rw [LayerInfo.HasMethod, settings]
  refine ⟨rfl, ?_⟩
  change name ∈ added.scope.methods.keys
  rw [Compile.addMethod_run_scope]
  exact Table.mem_keys_insert.mpr (Or.inl rfl)

omit [Scalar α] in
/-- A layer in builder mode is called by the name of its parameter. -/
theorem writeBuilder_yields {name : String} (known : node.params.builder = some name) :
    Yields (writeBuilder node children) (fun result => result.1 = call name) := by
  refine Yields.bind_any fun settings => Yields.pure ?_
  dsimp only
  rw [known, Option.getD_some]

end NodeInfo

namespace Node

/-- The code of a layer in method mode is the call of a method that is built, unless
there is no code. -/
theorem writeWith_leads_call {part : Node α} (isMethod : part.mode = .method)
    (label : part.kind = .text → ∃ block, part.layer.kind = .text block)
    (present : part.isEmptyGroup part.children = false) (edit : Layout α → Layout α) :
    Leads (fun _ => True) (part.writeWith edit) (fun written context =>
      written.1 = call (part.layer.methodName context.settings.normalizeNameCase) ∧
        part.layer.HasMethod context) := by
  obtain ⟨info, children⟩ := part
  have mode : info.mode = .method := isMethod
  rw [writeWith, NodeInfo.write]
  dsimp only
  rw [mode]
  refine NodeInfo.writeMethod_leads_call label ?_
  rw [nodes_asChildren]
  exact present

theorem writeWith_yields_call {part : Node α} (isBuilder : part.mode = .builder) {name : String}
    (known : part.params.builder = some name) (edit : Layout α → Layout α) :
    Yields (part.writeWith edit) (fun result => result.1 = call name) := by
  obtain ⟨info, children⟩ := part
  have mode : info.mode = .builder := isBuilder
  rw [writeWith, NodeInfo.write]
  dsimp only
  rw [mode]
  exact NodeInfo.writeBuilder_yields known

end Node

end DesignExport
