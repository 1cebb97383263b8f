import DesignExport.Proofs.Compile.Keeps
import DesignExport.Tree.Build
import Mathlib.Data.List.Basic
set_option autoImplicit false

/-! What a visible layer becomes and what its node is decorated with, with what is known of
the layer and of the names of widgets then. -/

namespace DesignExport

section Kinds

open Compile (Keeps SameGround addParam_keeps error_keeps isSteady_sameGround warn_keeps)

variable {α : Type}

namespace NodeKind

/-- A layer may become a node of some kind. -/
inductive Becomes (context : Context α) (layer : LayerInfo α) : NodeKind α → Prop where
  | plain (isGroup : layer.kind = .group) : Becomes context layer (.group .plain)
  | scroll {direction : ScrollDirection} (scrolls : layer.kind = .scrollGroup direction) :
      Becomes context layer (.group (.scroll direction))
  | rectangle {radii : CornerRadii α} (isRectangle : layer.kind = .rectangle radii) :
      Becomes context layer .box
  | ellipse (isEllipse : layer.kind = .ellipse) : Becomes context layer .box
  | shape {outline : String} (outlined : layer.kind.outline? = some outline) :
      Becomes context layer (.shape (ShapeUnit.ofPrimitive layer))
  | text {block : TextBlock α} (isText : layer.kind = .text block) : Becomes context layer .text
  | instanceOf {isMaster : Bool} {symbol guid className : String}
      (isComponent : layer.kind = .component isMaster symbol)
      (named : context.widgetName? guid = some className) :
      Becomes context layer (.group (.instanceOf className))
  /-- The master of a component has no name. -/
  | unnamed {isMaster : Bool} {symbol : String}
      (isComponent : layer.kind = .component isMaster symbol) :
      Becomes context layer (.group .plain)

section Keeping

variable (start : Context α) (layer : LayerInfo α)

theorem ofComponent_keeps_becomes {isMaster : Bool} {symbol : String}
    (isComponent : layer.kind = .component isMaster symbol) :
    Keeps (SameGround start) (ofComponent layer isMaster symbol) (Becomes start layer) := by
  refine Keeps.get fun context ground => ?_
  dsimp only
  split
  case h_1 className found =>
    obtain ⟨guid, _, named⟩ := Option.bind_eq_some_iff.mp found
    rw [Context.widgetName?, ground.widgetNames_eq] at named
    exact Keeps.pure (Becomes.instanceOf isComponent named)
  case h_2 =>
    exact (warn_keeps (isSteady_sameGround start) _ layer).bind fun _ _ =>
      Keeps.pure (Becomes.unnamed isComponent)

theorem ofLayer?_keeps_becomes :
    Keeps (SameGround start) (ofLayer? layer)
      (fun found => ∀ kind ∈ found, kind.Becomes start layer) := by
  have some_keeps {kind : NodeKind α} (becomes : kind.Becomes start layer) :
      Keeps (SameGround start) (pure (some kind) : Compile α (Option (NodeKind α)))
        (fun found => ∀ kind ∈ found, kind.Becomes start layer) := by
    apply Keeps.pure
    intro other same
    cases same
    exact becomes
  unfold ofLayer?
  cases known : layer.kind with
  | artboard =>
      exact (error_keeps (isSteady_sameGround start) _ layer).bind fun _ _ =>
        Keeps.pure forall_mem_none
  | unknown =>
      exact (warn_keeps (isSteady_sameGround start) _ layer).bind fun _ _ =>
        Keeps.pure forall_mem_none
  | component isMaster symbol =>
      exact (ofComponent_keeps_becomes start layer known).bind fun _ becomes => some_keeps becomes
  | group => exact some_keeps (Becomes.plain known)
  | scrollGroup direction => exact some_keeps (Becomes.scroll known)
  | rectangle radii => exact some_keeps (Becomes.rectangle known)
  | ellipse => exact some_keeps (Becomes.ellipse known)
  | text block => exact some_keeps (Becomes.text known)
  | path outline | line outline | polygon outline | booleanGroup outline =>
      have outlined : layer.kind.outline? = some outline := by rw [known]; rfl
      exact some_keeps (Becomes.shape outlined)

end Keeping

variable {layer : LayerInfo α} (context : Context α)

theorem ofLayer?_becomes {kind : NodeKind α} (made : ((ofLayer? layer).run context).1 = some kind) :
    kind.Becomes context layer :=
  (ofLayer?_keeps_becomes context layer context (SameGround.refl context)).1 kind made

/-- Only what cannot be drawn becomes nothing. -/
theorem ofLayer?_eq_none (made : ((ofLayer? layer).run context).1 = none) :
    layer.kind = .artboard ∨ layer.kind = .unknown := by
  unfold ofLayer? at made
  cases known : layer.kind with
  | artboard => exact Or.inl rfl
  | unknown => exact Or.inr rfl
  | component | group | scrollGroup | rectangle | ellipse | text | path | line | polygon
    | booleanGroup =>
      rw [known] at made
      cases made

end NodeKind

namespace Decorator

/-- A layer may be decorated in some way. Only widgets with names are linked to. -/
inductive Decorates (start : Context α) (layer : LayerInfo α) (canBeTapped : Bool) :
    Decorator α → Prop where
  | tap {raw : String} (stored : layer.textProperty? .tapCallbackName = some raw)
      (tappable : canBeTapped = true) :
      Decorates start layer canBeTapped (.tap (Naming.identifier raw false))
  | pageLink {guid className : String} {transition : Transition α}
      (named : start.widgetName? guid = some className) :
      Decorates start layer canBeTapped (.pageLink className transition)
  | blur {effect : Blur α} (visible : layer.visibleBlur? = some effect) :
      Decorates start layer canBeTapped (.blur effect.amount)

variable (start : Context α) (layer : LayerInfo α) (canBeTapped : Bool)

theorem tap?_keeps_decorates (tappable : canBeTapped = true) :
    Keeps (SameGround start) (tap? layer)
      (fun found => ∀ decorator ∈ found, decorator.Decorates start layer canBeTapped) := by
  unfold tap?
  split
  case h_1 => exact Keeps.pure forall_mem_none
  case h_2 raw stored =>
    refine (addParam_keeps (isSteady_sameGround start) _).bind fun _ _ => Keeps.pure ?_
    intro decorator same
    cases same
    exact Decorates.tap stored tappable

theorem pageLink?_keeps_decorates (interactions : List (Interaction α)) :
    ∀ link : Option (Decorator α),
      (∀ decorator ∈ link, decorator.Decorates start layer canBeTapped) →
      Keeps (SameGround start)
        (pageLink? layer link interactions)
        (fun found => ∀ decorator ∈ found, decorator.Decorates start layer canBeTapped) := by
  induction interactions with
  | nil => exact fun _ known => Keeps.pure known
  | cons interaction rest ih =>
      intro link known
      have skipped (message : String) (found : Option (Decorator α))
          (known : ∀ decorator ∈ found, decorator.Decorates start layer canBeTapped) :
          Keeps (SameGround start)
            (do Compile.warn message layer; pageLink? layer found rest)
            (fun found => ∀ decorator ∈ found, decorator.Decorates start layer canBeTapped) :=
        (warn_keeps (isSteady_sameGround start) message layer).bind fun _ _ =>
          ih found known
      unfold pageLink?
      split
      · exact skipped _ _ known
      · split
        · refine Keeps.get fun context ground => ?_
          split
          case h_1 className named =>
            refine ih _ fun decorator same => ?_
            cases same
            rw [Context.widgetName?, ground.widgetNames_eq] at named
            exact Decorates.pageLink named
          case h_2 => exact skipped _ _ known
        · exact skipped _ _ known
        · exact skipped _ _ known

theorem blur?_keeps_decorates :
    Keeps (SameGround start) (blur? layer)
      (fun found => ∀ decorator ∈ found, decorator.Decorates start layer canBeTapped) := by
  unfold blur?
  split
  case h_1 => exact Keeps.pure forall_mem_none
  case h_2 effect visible =>
    refine Keeps.ite (fun _ => Keeps.pure ?_) fun _ => ?_
    · intro decorator same
      cases same
      exact Decorates.blur visible
    · exact (warn_keeps (isSteady_sameGround start) _ layer).bind fun _ _ =>
        Keeps.pure forall_mem_none

theorem collect_keeps_decorates :
    Keeps (SameGround start) (collect layer canBeTapped)
      (fun found => ∀ decorator ∈ found, decorator.Decorates start layer canBeTapped) := by
  unfold collect
  refine Keeps.ite_bind (tap?_keeps_decorates start layer canBeTapped)
    (fun _ => Keeps.pure forall_mem_none) fun tap tapped => ?_
  refine Keeps.get fun context _ => ?_
  refine Keeps.ite_bind
    (fun _ => pageLink?_keeps_decorates start layer canBeTapped _ none forall_mem_none)
    (fun _ => Keeps.pure forall_mem_none) fun link linked => ?_
  refine (blur?_keeps_decorates start layer canBeTapped).bind fun blur blurred => Keeps.pure ?_
  intro decorator member
  rw [List.mem_append, List.mem_append] at member
  rcases member with (inTap | inLink) | inBlur
  · exact tapped decorator (Option.mem_toList.mp inTap)
  · exact linked decorator (Option.mem_toList.mp inLink)
  · exact blurred decorator (Option.mem_toList.mp inBlur)

end Decorator

end Kinds

/-! ### Trees as they are built

Before any shapes are merged only roots
and groups have children, roots are nobody's children, and a shape draws its own
layer. -/

open Compile (Yields)

variable {α : Type}

namespace NodeKind

/-- What may stand for a layer below the root of a tree. -/
def Suits (layer : LayerInfo α) : NodeKind α → Prop
  | .widgetRoot => False
  | .shape unit => unit = ShapeUnit.ofPrimitive layer
  | _ => True

end NodeKind

namespace Node

mutual

/-- As a node comes out of the build. -/
def IsAsBuilt : Node α → Prop
  | ⟨info, children⟩ =>
      (info.kind.takesChildren = false → children = []) ∧ AreAsBuilt children

/-- As the children of a node come out of the build. -/
def AreAsBuilt : List (Node α) → Prop
  | [] => True
  | node :: rest => (node.kind.Suits node.layer ∧ node.IsAsBuilt) ∧ AreAsBuilt rest

end

theorem areAsBuilt_append {first second : List (Node α)} (front : AreAsBuilt first)
    (back : AreAsBuilt second) : AreAsBuilt (first ++ second) := by
  induction first with
  | nil => exact back
  | cons node rest ih =>
      rw [AreAsBuilt] at front
      rw [List.cons_append, AreAsBuilt]
      exact ⟨front.1, ih front.2⟩

end Node

theorem NodeKind.ofLayer?_yields (layer : LayerInfo α) :
    Yields (NodeKind.ofLayer? layer) (fun found => ∀ kind ∈ found, kind.Suits layer) := by
  intro context kind made
  cases ofLayer?_becomes context made with
  | shape => exact rfl
  | plain | scroll | rectangle | ellipse | text | instanceOf | unnamed => exact trivial

namespace Node

theorem areAsBuilt_toList {node : Option (Node α)}
    (built : ∀ found ∈ node, found.kind.Suits found.layer ∧ found.IsAsBuilt) :
    AreAsBuilt node.toList := by
  cases node with
  | none => exact trivial
  | some found => exact ⟨built found rfl, trivial⟩

variable [Scalar α]

mutual

theorem build_yields : ∀ layer : Layer α,
    Yields (build layer)
      (fun node => ∀ found ∈ node, found.kind.Suits found.layer ∧ found.IsAsBuilt)
  | ⟨layer, children⟩ => by
      rw [build]
      by_cases visible : layer.isVisible
      · simp only [visible, Bool.not_true, Bool.false_eq_true, if_false]
        refine Yields.bind (NodeKind.ofLayer?_yields layer) fun found suits => ?_
        cases found with
        | none => exact Yields.pure forall_mem_none
        | some kind =>
            refine Yields.bind_any fun mode => ?_
            refine Yields.bind_any fun layout => ?_
            refine Yields.bind_any fun decorators => ?_
            by_cases takes : kind.takesChildren
            · rw [if_pos takes]
              refine Yields.bind (buildAll_yields children) fun nodes built => ?_
              refine Yields.bind_any fun params => Yields.pure ?_
              intro node same
              cases same
              exact ⟨suits kind rfl, fun leaf => absurd (takes.symm.trans leaf) (by decide), built⟩
            · rw [if_neg takes]
              refine Yields.bind (Yields.pure (rfl : [] = [])) fun nodes empty => ?_
              refine Yields.bind_any fun params => Yields.pure ?_
              intro node same
              cases same
              cases empty
              exact ⟨suits kind rfl, fun _ => rfl, trivial⟩
      · simp only [visible, Bool.not_false, if_true]
        exact Yields.pure forall_mem_none

theorem buildAll_yields : ∀ layers : List (Layer α), Yields (buildAll layers) AreAsBuilt
  | [] => by
      rw [buildAll]
      exact Yields.pure trivial
  | layer :: rest => by
      rw [buildAll]
      refine Yields.bind (build_yields layer) fun node built => ?_
      refine Yields.bind (buildAll_yields rest) fun nodes others => Yields.pure ?_
      exact areAsBuilt_append (areAsBuilt_toList built) others

end

theorem buildRoot_yields (layer : Layer α) : Yields (buildRoot layer) IsAsBuilt := by
  unfold buildRoot
  refine Yields.bind (buildAll_yields layer.children) fun nodes built => Yields.pure ?_
  exact ⟨fun leaf => absurd leaf Bool.noConfusion, built⟩

end Node

end DesignExport
