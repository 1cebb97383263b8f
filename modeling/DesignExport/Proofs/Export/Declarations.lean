import DesignExport.Number.Exact
import DesignExport.Proofs.Export.Trees
import DesignExport.Proofs.Export.Widget
import DesignExport.Proofs.Expression.References
set_option autoImplicit false

/-! The file of a widget declares what its code refers to: a method for every call of a
build method, a field for every parameter, and a constant for every picture. -/

namespace DesignExport

open Compile (Composed Lasts Leads)
open NodeInfo (call)

variable {α : Type}

/-- A name in generated code, with what it stands for. -/
inductive Reference where
  | method (name : String)
  | param (name : String)
  | constant (name markup : String)

/-! ### Declarations in a file -/

namespace SourceFile

def Has (file : SourceFile) (text : String) : Prop :=
  ∃ before after, file.source = before ++ text ++ after

/-- A file with the tables of a widget declares a reference. -/
def Declares (file : SourceFile) (scope : WidgetScope) (nullSafe : Bool) : Reference → Prop
  | .method name =>
      ∃ code, Table.find? name scope.methods = some code ∧ file.Has (method name code)
  | .param name =>
      ∃ param, Table.find? name scope.params = some param ∧ param.name = name ∧
        file.Has (field nullSafe param)
  | .constant name markup =>
      Table.find? name scope.pictures = some markup ∧ file.Has (pictureConstant name markup)

theorem has_of_mem (className : String) {line : String} : ∀ {lines : List String}, line ∈ lines →
    (ofLines className lines).Has line
  | [only], member => by
      rw [List.mem_singleton.mp member]
      refine ⟨"", "", ?_⟩
      rw [String.empty_append, String.append_empty, ofLines, String.intercalate_singleton]
  | first :: second :: rest, member => by
      have source : (ofLines className (first :: second :: rest)).source =
          first ++ "\n" ++ (ofLines className (second :: rest)).source :=
        String.intercalate_cons_cons
      rcases List.mem_cons.mp member with here | later
      · refine ⟨"", "\n" ++ (ofLines className (second :: rest)).source, ?_⟩
        rw [source, here, String.empty_append, String.append_assoc]
      · obtain ⟨before, after, same⟩ := has_of_mem className later
        refine ⟨first ++ "\n" ++ before, after, ?_⟩
        rw [source, same]
        simp only [String.append_assoc]

theorem has_body (className body : String) (scope : WidgetScope) (nullSafe : Bool) :
    (ofWidget className body scope nullSafe).Has (method "build" body) := by
  apply has_of_mem className
  simp only [List.mem_append]
  refine Or.inl (Or.inl (Or.inl (Or.inl (Or.inr ?_))))
  exact List.mem_of_getLast? rfl

theorem mem_spaced {line : String} {lines : List String} (member : line ∈ lines) :
    line ∈ spaced lines :=
  List.mem_flatMap.mpr ⟨line, member, List.mem_cons_of_mem _ List.mem_cons_self⟩

section

variable {className body : String} {scope : WidgetScope} {nullSafe : Bool} {name : String}

theorem has_import {directive : String} (foreign : directive ≠ materialImport)
    (known : directive ∈ scope.imports) :
    (ofWidget className body scope nullSafe).Has directive := by
  apply has_of_mem className
  simp only [List.mem_append]
  have kept : directive ∈ scope.imports.filter (· ≠ materialImport) :=
    List.mem_filter.mpr ⟨known, decide_eq_true foreign⟩
  exact Or.inl (Or.inl (Or.inl (Or.inl (Or.inl (Or.inl (Or.inl (Or.inr kept)))))))

theorem has_field {param : Parameter} (known : (name, param) ∈ scope.params) :
    (ofWidget className body scope nullSafe).Has (field nullSafe param) := by
  have param : param ∈ scope.params.map Prod.snd := List.mem_map_of_mem known
  apply has_of_mem className
  simp only [List.mem_append]
  exact Or.inl (Or.inl (Or.inl (Or.inl (Or.inl (Or.inr (List.mem_map_of_mem param))))))

theorem has_method {code : String} (known : (name, code) ∈ scope.methods) :
    (ofWidget className body scope nullSafe).Has (method name code) := by
  apply has_of_mem className
  simp only [List.mem_append]
  exact Or.inl (Or.inl (Or.inl (Or.inr (mem_spaced (List.mem_map.mpr ⟨_, known, rfl⟩)))))

end

end SourceFile

/-! ### Parameters are filed under their names -/

/-- The keys of the parameters of a widget are their names. -/
def WidgetScope.NamesParams (scope : WidgetScope) : Prop :=
  ∀ entry ∈ scope.params, entry.2.name = entry.1

variable [Scalar α]

theorem WidgetScope.isKept_namesParams (opacityOf : Markup.OpacityOf α) (normalize : Bool)
    (draws : ShapeUnit α → Prop) (builds : LayerInfo α → Prop) (declares : Prop) :
    IsKept opacityOf normalize draws builds declares NamesParams where
  directive := fun _ _ _ named => named
  param := by
    intro scope param _ _ named entry member
    rcases List.mem_append.mp member with old | new
    · exact named entry old
    · rw [List.mem_singleton.mp new]
  method := fun _ _ _ _ named => named
  picture := fun _ _ _ named => named

/-! ### References of nodes -/

/-- What the code of a node refers to, in whatever context of an export it is written. -/
inductive Node.RefersTo (base : Context α) (part : Node α) : Reference → Prop where
  | method {name : String} {edit : Layout α → Layout α} {context : Context α}
      (isMethod : part.mode = .method) (same : context.idle = base.idle)
      (code : ((part.writeWith edit).run context).1.1 = call name) : RefersTo base part (.method name)
  | builder {name : String} {edit : Layout α → Layout α} {context : Context α}
      (isBuilder : part.mode = .builder) (same : context.idle = base.idle)
      (code : ((part.writeWith edit).run context).1.1 = call name) : RefersTo base part (.param name)
  | tap {callback : String} (decorated : .tap callback ∈ part.decorators) :
      RefersTo base part (.param callback)
  | text {name : String} (named : part.params.text = some name) : RefersTo base part (.param name)
  | fill {name : String} (named : part.params.fill = some name) : RefersTo base part (.param name)
  | picture {unit : ShapeUnit α} {context : Context α} (isDrawn : part.isDrawn = true)
      (shape : part.kind = .shape unit) (same : context.idle = base.idle) :
      RefersTo base part (.constant ((Picture.source unit).run context).1.1
        (Markup.render base.index.inheritedOpacity unit).1)

/-- What is there when a widget has been built and is about to be written. -/
structure Context.IsReadyFor (tree : Node α) (start ready : Context α) : Prop where
  idle_eq : ready.idle = start.idle
  supplied : tree.Throughout (NodeInfo.IsSupplied ready.paramNames)
  named : ready.scope.NamesParams
  noPictures : ready.scope.pictures = []

theorem Node.mergedRoot_leads (layer : Layer α) :
    Leads (fun _ => True) (mergedRoot layer)
      (fun tree context => tree.Throughout (NodeInfo.IsSupplied context.paramNames)) := by
  refine (buildRoot_leads layer _).bind fun root => ?_
  have lasts : Lasts (fun _ => False)
      (fun context => root.Throughout (NodeInfo.IsSupplied context.paramNames)) :=
    lasts_isSupplied root
  refine (Composed.settings.carries lasts).bind fun settings => Leads.pure fun context supplied => ?_
  exact throughout_combineShapes (NodeInfo.isSupplied_keptByShapes _) root _ supplied

theorem widgetTree_isReady {layer : Layer α} {start ready : Context α} {tree : Node α}
    (built : (widgetTree layer).run start = (tree, ready)) : Context.IsReadyFor tree start ready := by
  have composed : Composed (fun _ => False) (fun _ => False) True True (Node.mergedRoot layer) :=
    (Node.buildRoot_composed layer).bind fun _ => Composed.settings.bind fun _ => Composed.pure _
  let begun := ((widgetClass layer.toLayerInfo >>= Compile.beginWidget).run start).2
  have split : (widgetTree layer).run start = (Node.mergedRoot layer).run begun := rfl
  rw [built] at split
  have supplied : tree.Throughout (NodeInfo.IsSupplied ready.paramNames) := by
    have merged := Node.mergedRoot_leads layer begun trivial
    rw [← split] at merged
    exact merged
  have idle : ready.idle = start.idle := by
    have same := composed.framed.idle_eq begun
    rw [← split] at same
    exact same
  have named : ready.scope.NamesParams := by
    have kept := composed.keeps_scope (WidgetScope.isKept_namesParams _ _ _ _ _) begun rfl rfl
      (fun _ absent => absurd absent List.not_mem_nil)
    rw [← split] at kept
    exact kept
  have noPictures : ready.scope.pictures = [] := by
    have pictures := composed.picturesFrom begun
    rw [← split] at pictures
    refine List.eq_nil_iff_forall_not_mem.mpr fun entry member => ?_
    rcases pictures entry member with old | ⟨_, undrawn, _⟩
    · exact absurd old List.not_mem_nil
    · exact undrawn
  exact ⟨idle, supplied, named, noPictures⟩

/-! ### What the tables hold in the end -/

namespace Node

theorem write_composed (tree : Node α) : Composed tree.Draws tree.Builds True False tree.write :=
  (writeWith_writing tree tree.keepsTo_self _).composed

variable {tree part : Node α} {start ready : Context α} (isReady : Context.IsReadyFor tree start ready)

include isReady

variable (reaches : tree.Reaches part)

include reaches

omit [Scalar α] in
theorem isSupplied_of_reaches : part.IsSupplied ready.paramNames :=
  isReady.supplied part reaches.mem_parts

end Node

end DesignExport
