import DesignExport.Expression.Node
import DesignExport.Proofs.Tree.Relocated
set_option autoImplicit false

/-! The code of a node that is not placed by its layout. Every read of its place is guarded by
the layout, or is not made at all, so that a node in another place has the same code. -/

namespace DesignExport

variable {α β γ δ : Type}

namespace Compile

/-- In every context two steps have related results, and leave the same context behind. -/
def Matches (related : β → γ → Prop) (step : Compile α β) (other : Compile α γ) : Prop :=
  ∀ context, related (step.run context).1 (other.run context).1 ∧
    (step.run context).2 = (other.run context).2

namespace Matches

variable {related : β → γ → Prop}

theorem pure {value : β} {other : γ} (same : related value other) :
    Matches (α := α) related (Pure.pure value) (Pure.pure other) :=
  fun _ => ⟨same, rfl⟩

theorem bind {ε : Type} {known : β → γ → Prop} {related : δ → ε → Prop} {step : Compile α β}
    {other : Compile α γ} {next : β → Compile α δ} {after : γ → Compile α ε}
    (first : Matches known step other)
    (rest : ∀ value result, known value result → Matches related (next value) (after result)) :
    Matches related (step >>= next) (other >>= after) := by
  intro context
  obtain ⟨values, contexts⟩ := first context
  rw [run_bind, run_bind, contexts]
  exact rest _ _ values _

theorem mono {weaker : β → γ → Prop} {step : Compile α β} {other : Compile α γ}
    (first : Matches related step other)
    (weaken : ∀ value result, related value result → weaker value result) :
    Matches weaker step other :=
  fun context => ⟨weaken _ _ (first context).1, (first context).2⟩

theorem behind {step : Compile α δ} {next : δ → Compile α β} {after : δ → Compile α γ}
    (rest : ∀ value, Matches related (next value) (after value)) :
    Matches related (step >>= next) (step >>= after) :=
  fun _ => rest _ _

theorem ite {condition : Prop} [Decidable condition] {first second : Compile α β}
    {other another : Compile α γ} (yes : Matches related first other)
    (no : Matches related second another) :
    Matches related (if condition then first else second)
      (if condition then other else another) := by
  split
  · exact yes
  · exact no

end Matches

end Compile

open Compile (Matches)

variable [Scalar α]

/-- A node that another one is in another place, neither placed by its layout. -/
structure NodeInfo.Displaces (node other : NodeInfo α) : Prop where
  moved : ∃ place layout, other = node.movedTo place layout
  one : node.layout.isEnabled = false
  other : other.layout.isEnabled = false

/-- Code that is the same, for nodes that are in different places. -/
structure Written.Displaces (one other : Written α) : Prop where
  code : one.1 = other.1
  node : one.2.Displaces other.2.toNodeInfo

theorem Label.warnOfRuns_movedTo (layer place : LayerInfo α) (runs : List (TextRun α)) :
    warnOfRuns (layer.movedTo place) runs = warnOfRuns layer runs := by
  induction runs with
  | nil => rfl
  | cons run rest ih =>
      have own : warnOfRun (layer.movedTo place) run = warnOfRun layer run := rfl
      rw [warnOfRuns, warnOfRuns, own, ih]

theorem Label.warnOf_movedTo (layer place : LayerInfo α) (block : TextBlock α) :
    warnOf (layer.movedTo place) block = warnOf layer block := by
  have strokes : (layer.movedTo place).activeStroke? = layer.activeStroke? := rfl
  unfold warnOf
  rw [warnOfRuns_movedTo, strokes]
  rfl

theorem Group.write_movedTo (node : NodeInfo α) (place : LayerInfo α) (layout : Layout α)
    (children : List (Child α)) :
    write (node.movedTo place layout) children = write node children := by
  cases children <;> rfl

theorem Group.writeScroll_movedTo (node : NodeInfo α) (place : LayerInfo α) (layout : Layout α)
    (direction : ScrollDirection) (children : List (Child α)) :
    writeScroll (node.movedTo place layout) direction children =
      writeScroll node direction children := by
  cases children <;> rfl

theorem Root.write_movedTo (node : NodeInfo α) (place : LayerInfo α) (layout : Layout α)
    (children : List (Child α)) :
    write (node.movedTo place layout) children = write node children := by
  have colors : pageColor (fillOwner (node.movedTo place layout) children) =
      pageColor (fillOwner node children) := by
    cases children with
    | nil => rfl
    | cons first rest =>
        unfold fillOwner
        dsimp only
        rw [apply_ite pageColor, apply_ite pageColor]
        rfl
  have pages : writePage (node.movedTo place layout) children = writePage node children := by
    unfold writePage
    rw [colors]
    rfl
  have kinds : (node.movedTo place layout).layer.kind = node.layer.kind := rfl
  unfold write
  rw [kinds, pages]

/-! ### Layouts that place nothing -/

/-- The same code, with layouts that place nothing. -/
structure Layout.Idles (one other : String × Layout α) : Prop where
  code : one.1 = other.1
  one : one.2.isEnabled = false
  other : other.2.isEnabled = false

theorem Layout.wrap_of_not_enabled {layout : Layout α} (notPlaced : layout.isEnabled = false)
    (code : String) (layer : LayerInfo α) (unit : String) :
    layout.wrap code layer unit = (code, layout, []) := by
  rw [wrap, notPlaced]
  rfl

theorem Label.place_of_not_enabled {layout : Layout α} (notPlaced : layout.isEnabled = false)
    (block : TextBlock α) (code : String) :
    (place layout block code).1 = code ∧ (place layout block code).2.isEnabled = false := by
  have widened : widened layout block code = (code, layout) := by
    rw [widened, notPlaced, Bool.not_false, Bool.or_true]
    rfl
  unfold place
  rw [widened]
  split
  · exact ⟨rfl, notPlaced⟩
  · split
    · exact ⟨rfl, notPlaced⟩
    · exact ⟨rfl, notPlaced⟩

section

variable {node : NodeInfo α} (away : LayerInfo α) {layout : Layout α}
  (notPlaced : node.layout.isEnabled = false) (neither : layout.isEnabled = false)

include notPlaced neither

theorem Box.write_matches :
    Matches Layout.Idles (write node) (write (node.movedTo away layout)) := by
  have layouts : (node.movedTo away layout).layout = layout := rfl
  unfold write
  refine Matches.behind fun settings => ?_
  dsimp only
  rw [layouts, notPlaced, neither]
  exact Matches.behind fun decoration => Matches.pure ⟨rfl, notPlaced, neither⟩

theorem Label.write_matches :
    Matches Layout.Idles (write node) (write (node.movedTo away layout)) := by
  have kinds : (node.movedTo away layout).layer.kind = node.layer.kind := rfl
  have layouts : (node.movedTo away layout).layout = layout := rfl
  have layers : (node.movedTo away layout).layer = node.layer.movedTo away := rfl
  unfold write
  rw [kinds]
  cases node.layer.kind with
  | text block =>
      dsimp only
      rw [layouts, layers, warnOf_movedTo]
      refine Matches.behind fun _ => Matches.behind fun context => ?_
      have placed (code : String) : Layout.Idles (place node.layout block code)
          (place layout block code) := by
        obtain ⟨one, idle⟩ := place_of_not_enabled notPlaced block code
        obtain ⟨other, alsoIdle⟩ := place_of_not_enabled neither block code
        exact ⟨one.trans other.symm, idle, alsoIdle⟩
      refine Matches.ite ?_ ?_
      · exact Matches.behind fun code => Matches.pure (placed _)
      · exact Matches.behind fun code => Matches.pure (placed _)
  | _ => exact Matches.pure ⟨rfl, notPlaced, neither⟩

theorem Group.writeRendered_matches :
    Matches Layout.Idles (writeRendered node) (writeRendered (node.movedTo away layout)) := by
  unfold writeRendered
  refine Matches.behind fun settings => ?_
  exact Matches.behind fun path => Matches.pure ⟨rfl, notPlaced, neither⟩

theorem NodeInfo.decorate_matches (code : String) :
    Matches Layout.Idles (node.decorate code) ((node.movedTo away layout).decorate code) := by
  have layouts : (node.movedTo away layout).layout = layout := rfl
  unfold decorate
  refine Matches.behind fun settings => ?_
  rw [layouts, Layout.wrap_of_not_enabled notPlaced, Layout.wrap_of_not_enabled neither]
  refine Matches.behind fun _ => ?_
  refine Matches.behind fun decorated => ?_
  refine Matches.ite ?_ ?_
  · exact Matches.pure ⟨rfl, notPlaced, neither⟩
  · exact Matches.pure ⟨rfl, notPlaced, neither⟩

end

/-! ### The code of a node that is not placed -/

namespace NodeInfo

variable {node : NodeInfo α} (place : LayerInfo α) {layout : Layout α}
  (notPlaced : node.layout.isEnabled = false) (neither : layout.isEnabled = false)

include notPlaced neither

theorem writeBody_movedTo (notShape : node.isShape = false) (children : List (Child α)) :
    Matches Written.Displaces (writeBody node children)
      (writeBody (node.movedTo place layout) children) := by
  have kinds : (node.movedTo place layout).kind = node.kind := rfl
  have own : node.Displaces (node.movedTo place layout) :=
    ⟨⟨place, layout, rfl⟩, notPlaced, neither⟩
  -- Three of the writers replace the layout of their node; what they put there is idle as well.
  have withLayout {step other : Compile α (String × Layout α)}
      (same : Matches Layout.Idles step other) :
      Matches Written.Displaces
        (step >>= fun result =>
          pure (result.1, ⟨{ node with layout := result.2 }, Child.nodes children⟩))
        (other >>= fun result =>
          pure (result.1,
            ⟨{ node.movedTo place layout with layout := result.2 }, Child.nodes children⟩)) :=
    same.bind fun one other known =>
      Matches.pure ⟨known.code, ⟨place, other.2, rfl⟩, known.one, known.other⟩
  rw [writeBody, writeBody, kinds]
  split
  case h_1 =>
    rw [Root.write_movedTo]
    exact Matches.behind fun result => Matches.pure ⟨rfl, own⟩
  case h_2 => exact withLayout (Box.write_matches place notPlaced neither)
  case h_3 => exact withLayout (Label.write_matches place notPlaced neither)
  -- The markup of a shape has the transform of its layer in it.
  case h_4 unit kind =>
    rw [isShape, kind] at notShape
    cases notShape
  case h_5 inside _ =>
    refine Matches.ite (withLayout (Group.writeRendered_matches place notPlaced neither)) ?_
    cases inside with
    | instanceOf widget => exact Matches.pure ⟨rfl, own⟩
    | plain =>
        dsimp only
        rw [Group.write_movedTo]
        exact Matches.behind fun result => Matches.pure ⟨rfl, own⟩
    | scroll direction =>
        dsimp only
        rw [Group.writeScroll_movedTo]
        exact Matches.behind fun result => Matches.pure ⟨rfl, own⟩

theorem writeInline_movedTo (notShape : node.isShape = false) (children : List (Child α)) :
    Matches (fun one other => one.1 = other.1) (writeInline node children)
      (writeInline (node.movedTo place layout) children) := by
  unfold writeInline
  refine (writeBody_movedTo place notPlaced neither notShape children).bind fun one other same => ?_
  obtain ⟨code, written⟩ := one
  obtain ⟨otherCode, info, nodes⟩ := other
  obtain ⟨rfl, ⟨⟨somewhere, away, rfl⟩, idle, alsoIdle⟩⟩ := same
  refine Matches.ite (Matches.pure rfl) ?_
  exact (decorate_matches somewhere idle alsoIdle code).bind fun _ _ known => Matches.pure known.code

theorem writeTemplate_movedTo (notShape : node.isShape = false) (children : List (Child α)) :
    Matches (fun one other => one.1 = other.1) (writeTemplate node children)
      (writeTemplate (node.movedTo place layout) children) := by
  have templates : (node.movedTo place layout).layer.textProperty? .customCode =
      node.layer.textProperty? .customCode := rfl
  have inline := writeInline_movedTo place notPlaced neither notShape children
  have body := writeBody_movedTo place notPlaced neither notShape children
  rw [writeTemplate, writeTemplate, templates]
  dsimp only
  cases Template.cut? ((node.layer.textProperty? .customCode).getD usualTemplate).toList with
  | none => exact Matches.pure rfl
  | some cut =>
      refine Matches.behind fun settings => ?_
      have placeholder : Matches (fun one other => one.1 = other.1)
          (writePlaceholder node children cut.placeholder settings)
          (writePlaceholder (node.movedTo place layout) children cut.placeholder settings) := by
        cases cut.placeholder with
        | children => exact Matches.behind fun result => Matches.pure rfl
        | this => exact Matches.ite inline (body.mono fun _ _ known => known.code)
      refine placeholder.bind fun one other same => Matches.pure ?_
      rw [same]

/-- A node that is not placed by its layout has the same code in another place. -/
theorem write_movedTo (notShape : node.isShape = false) (children : List (Child α)) :
    Matches (fun one other => one.1 = other.1) (write node children)
      (write (node.movedTo place layout) children) := by
  have modes : (node.movedTo place layout).mode = node.mode := rfl
  have inline := writeInline_movedTo place notPlaced neither notShape children
  rw [write, write, modes]
  cases node.mode with
  | inline => exact inline
  | method =>
      refine inline.bind fun one other same => ?_
      obtain ⟨code, written⟩ := one
      obtain ⟨otherCode, written'⟩ := other
      change code = otherCode at same
      subst same
      refine Matches.ite (Matches.pure rfl) ?_
      exact Matches.behind fun settings => Matches.behind fun _ => Matches.pure rfl
  | builder => exact Matches.behind fun settings => Matches.pure rfl
  | custom => exact writeTemplate_movedTo place notPlaced neither notShape children

end NodeInfo

theorem Node.write_movedTo {node : Node α} (place : LayerInfo α) {layout : Layout α}
    (notPlaced : node.layout.isEnabled = false) (neither : layout.isEnabled = false)
    (notShape : node.isShape = false) :
    Matches (fun one other => one.1 = other.1) node.write (node.movedTo place layout).write := by
  obtain ⟨info, children⟩ := node
  rw [movedTo, write, write, writeWith, writeWith]
  exact NodeInfo.write_movedTo place notPlaced neither notShape _

end DesignExport
