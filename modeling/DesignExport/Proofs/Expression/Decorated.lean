import DesignExport.Proofs.Expression.References
import DesignExport.Proofs.Expression.Told
set_option autoImplicit false

/-! Decorators in the code of their node. What the code of one decorator tells, the whole
code of a decorated node tells: the other decorators, the layout and the comment leave it
there, and the node has code that the decorators are put around. -/

namespace DesignExport

open Compile (Composed Files HandsOn Lasts Leads Shows Tells Yields)

variable {α β : Type}

/-- What the settings of a cut come to. Text that is no settings counts for none. -/
def Template.Cut.taken (cut : Template.Cut) : Template.Settings :=
  match cut.settings with
  | none => {}
  | some text =>
      match Template.readSettings text with
      | .ok settings => settings
      | .error _ => {}

/-- The cut of the template of a layer that puts the layer in with its decorators. -/
def Template.Cut.takesDecorated (cut : Template.Cut) : Bool :=
  cut.placeholder = .this && cut.taken.decorators

namespace NodeInfo

theorem templateSettings_yields (node : NodeInfo α) (cut : Template.Cut) :
    Yields (templateSettings node cut) (· = cut.taken) := by
  unfold templateSettings Template.Cut.taken
  cases cut.settings with
  | none => exact Yields.pure rfl
  | some text =>
      dsimp only
      cases Template.readSettings text with
      | ok settings => exact Yields.pure rfl
      | error fault => exact Yields.bind_any fun _ => Yields.pure rfl

/-- The decorators of a node are put around its code. -/
def isDecorated (node : NodeInfo α) : Bool :=
  match node.mode with
  | .inline | .method => true
  | .builder => false
  | .custom =>
      (Template.cut? ((node.layer.textProperty? .customCode).getD usualTemplate).toList).any
        Template.Cut.takesDecorated

theorem isDecorated_of_placed {node : NodeInfo α}
    (placed : node.mode = .inline ∨ node.mode = .method) : node.isDecorated = true := by
  rw [isDecorated]
  rcases placed with inline | method
  · rw [inline]
  · rw [method]

end NodeInfo

section

variable [Scalar α] {start : Context α} {shows : String → Prop} {fact : Context α → Prop}

/-! ### Decorators and their node -/

namespace Decorator

variable {decorator : Decorator α} {decorators : List (Decorator α)}

theorem applyAll_yields_of_mem (survives : SurvivesEdits shows)
    (own : ∀ code, Yields (decorator.apply code) shows) :
    decorator ∈ decorators → ∀ code : String, Yields (applyAll code decorators) shows := by
  induction decorators with
  | nil => exact fun absent => absurd absent List.not_mem_nil
  | cons first rest ih =>
      intro member code
      rcases List.mem_cons.mp member with here | later
      · exact Yields.bind (here ▸ own code) fun _ shown => survives.applyAll rest shown
      · exact Yields.bind_any fun _ => ih later _

theorem applyAll_leads_of_mem (lasts : Lasts (fun _ => True) fact)
    (own : ∀ code, Leads (fun _ => True) (decorator.apply code) (fun _ => fact)) :
    decorator ∈ decorators →
      ∀ code : String, Leads (fun _ => True) (applyAll code decorators) (fun _ => fact) := by
  induction decorators with
  | nil => exact fun absent => absurd absent List.not_mem_nil
  | cons first rest ih =>
      intro member code
      rcases List.mem_cons.mp member with here | later
      · exact (here ▸ own code).bind fun _ => (applyAll_composed rest _).carries lasts
      · exact Leads.bind_any fun _ => ih later _

end Decorator

namespace NodeInfo

variable {node : NodeInfo α} {children : List (Child α)} {decorator : Decorator α}

theorem decorate_yields_of_mem (survives : SurvivesEdits shows)
    (own : ∀ code, Yields (decorator.apply code) shows) (decorated : decorator ∈ node.decorators)
    (code : String) : Yields (decorate node code) (fun result => shows result.1) := by
  refine Yields.bind_any fun settings => Yields.bind_any fun _ => ?_
  refine Yields.bind (Decorator.applyAll_yields_of_mem survives own decorated _) fun _ shown => ?_
  exact Yields.ite (fun _ => Yields.pure (survives.commented node.layer shown))
    fun _ => Yields.pure shown

theorem decorate_leads_of_mem (lasts : Lasts (fun _ => True) fact)
    (own : ∀ code, Leads (fun _ => True) (decorator.apply code) (fun _ => fact))
    (decorated : decorator ∈ node.decorators) (code : String) :
    Leads (fun _ => True) (decorate node code) (fun _ => fact) := by
  refine Leads.bind_any fun settings => Leads.bind_any fun _ => ?_
  refine (Decorator.applyAll_leads_of_mem lasts own decorated _).bind fun _ => ?_
  exact Leads.ite (fun _ => Leads.pure fun _ known => known) fun _ => Leads.pure fun _ known => known

/-- Writing the body of a node does not take its decorators away. -/
theorem writeBody_yields_decorators :
    Yields (writeBody node children) (fun result => result.2.decorators = node.decorators) := by
  unfold writeBody
  split
  · exact Yields.bind_any fun _ => Yields.pure rfl
  · exact Yields.bind_any fun _ => Yields.pure rfl
  · exact Yields.bind_any fun _ => Yields.pure rfl
  · exact Yields.bind_any fun _ => Yields.pure rfl
  · refine Yields.ite (fun _ => Yields.bind_any fun _ => Yields.pure rfl) fun _ => ?_
    split
    · exact Yields.pure rfl
    · exact Yields.bind_any fun _ => Yields.pure rfl
    · exact Yields.bind_any fun _ => Yields.pure rfl

section Inline

variable (label : node.kind = .text → ∃ block, node.layer.kind = .text block)
  (present : node.isEmptyGroup (Child.nodes children) = false)

include label present

theorem writeBody_yields_decorated : Yields (writeBody node children)
    (fun result => result.1 ≠ "" ∧ result.2.decorators = node.decorators) :=
  fun context => ⟨writeBody_yields label present context, writeBody_yields_decorators context⟩

theorem writeInline_yields_of_mem (survives : SurvivesEdits shows)
    (own : ∀ code, Yields (decorator.apply code) shows) (decorated : decorator ∈ node.decorators) :
    Yields (writeInline node children) (fun result => shows result.1) := by
  refine Yields.bind (writeBody_yields_decorated label present) fun result known => ?_
  obtain ⟨text, same⟩ := known
  dsimp only
  rw [isEmpty_eq_false text]
  exact Yields.bind (decorate_yields_of_mem survives own (same ▸ decorated) _)
    fun _ shown => Yields.pure shown

theorem writeInline_leads_of_mem (lasts : Lasts (fun _ => True) fact)
    (own : ∀ code, Leads (fun _ => True) (decorator.apply code) (fun _ => fact))
    (decorated : decorator ∈ node.decorators) :
    Leads (fun _ => True) (writeInline node children) (fun _ => fact) := by
  refine ((writeBody_yields_decorated label present).leads _).bind fun result => ?_
  refine Leads.of_fact fun known => ?_
  obtain ⟨text, same⟩ := known
  dsimp only
  rw [isEmpty_eq_false text]
  exact (decorate_leads_of_mem lasts own (same ▸ decorated) _).bind
    fun _ => Leads.pure fun _ known => known

end Inline

/-! ### The whole code of a node -/

/-- What a node tells with its decorators, the code in its place tells. -/
theorem write_tells_of_writeInline (handsOn : HandsOn shows fact) (files : Files shows fact)
    (isDecorated : node.isDecorated = true)
    (inline : Tells start shows fact (writeInline node children)) :
    Tells start shows fact (write node children) := by
  unfold write
  split
  case h_1 => exact inline
  case h_2 => exact writeMethod_tells handsOn files inline
  case h_3 isBuilder =>
    rw [NodeInfo.isDecorated, isBuilder] at isDecorated
    cases isDecorated
  case h_4 custom =>
    rw [NodeInfo.isDecorated, custom] at isDecorated
    unfold writeTemplate
    dsimp only at isDecorated ⊢
    cases found : Template.cut? ((node.layer.textProperty? .customCode).getD usualTemplate).toList with
    | none =>
        rw [found] at isDecorated
        cases isDecorated
    | some cut =>
        rw [found] at isDecorated
        obtain ⟨this, takes⟩ := Bool.and_eq_true_iff.mp (show cut.takesDecorated = true from isDecorated)
        dsimp only
        rw [of_decide_eq_true this]
        have settings := (templateSettings_yields node cut).keeps_idle
          (templateSettings_composed node cut) start
        intro context same
        obtain ⟨taken, kept⟩ := settings context same
        rw [Compile.run_bind, taken]
        refine Tells.between handsOn ?_ _ _ _ _ kept
        rw [writePlaceholder, if_pos takes]
        exact inline

end NodeInfo

namespace Node

variable {part : Node α}

/-- What the body of a node shows, the code in its place tells. -/
theorem writeWith_tells_of_writeBody (handsOn : HandsOn shows fact) (files : Files shows fact)
    (isDrawn : part.isDrawn = true)
    (body : ∀ edit : Layout α → Layout α, Yields
      (NodeInfo.writeBody { part.toNodeInfo with layout := edit part.layout }
        (asChildren part.children)) (fun result => shows result.1))
    (edit : Layout α → Layout α) : Tells start shows fact (part.writeWith edit) := by
  obtain ⟨info, children⟩ := part
  have shown : Shows start shows
      (NodeInfo.writeBody { info with layout := edit info.layout } (asChildren children)) :=
    (body edit).keeps_idle (writeBody_composed _ _) start
  rw [writeWith]
  exact NodeInfo.write_tells_of_writeBody handsOn (fun _ => files) isDrawn shown.tells

section Decorators

variable {decorator : Decorator α} (isDecorated : part.isDecorated = true)
  (decorated : decorator ∈ part.decorators)
  (label : part.kind = .text → ∃ block, part.layer.kind = .text block)
  (present : part.isEmptyGroup part.children = false)

include isDecorated decorated label present

/-- What the code of a decorator shows, the code in the place of its node tells. -/
theorem writeWith_tells_of_decorator (handsOn : HandsOn shows fact) (files : Files shows fact)
    (own : ∀ code, Yields (decorator.apply code) shows) (edit : Layout α → Layout α) :
    Tells start shows fact (part.writeWith edit) := by
  obtain ⟨info, children⟩ := part
  have shown : Shows start shows
      (NodeInfo.writeInline { info with layout := edit info.layout } (asChildren children)) := by
    refine Yields.keeps_idle ?_ (writeInline_composed _ _) start
    refine NodeInfo.writeInline_yields_of_mem label ?_ handsOn.survives own decorated
    rw [nodes_asChildren]
    exact present
  rw [writeWith]
  exact NodeInfo.write_tells_of_writeInline handsOn files isDecorated shown.tells

/-- What a decorator leaves behind is there once its node is written. -/
theorem writeWith_leads_of_decorator (lasts : Lasts (fun _ => True) fact)
    (own : ∀ code, Leads (fun _ => True) (decorator.apply code) (fun _ => fact))
    (edit : Layout α → Layout α) : Leads (fun _ => True) (part.writeWith edit) (fun _ => fact) := by
  obtain ⟨info, children⟩ := part
  have left : Leads (fun _ => True)
      (NodeInfo.writeInline { info with layout := edit info.layout } (asChildren children))
      (fun _ => fact) := by
    refine NodeInfo.writeInline_leads_of_mem label ?_ lasts own decorated
    rw [nodes_asChildren]
    exact present
  rw [writeWith]
  exact Compile.leads_of_tells fun start =>
    NodeInfo.write_tells_of_writeInline lasts.handsOn Compile.files_false isDecorated
      (left.tells (writeInline_composed _ _) start)

end Decorators

end Node

end

end DesignExport
