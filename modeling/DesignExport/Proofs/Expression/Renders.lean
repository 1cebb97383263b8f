import DesignExport.Proofs.Expression.Composed
import Mathlib.Data.List.Forall2
set_option autoImplicit false

/-! The groups that are rendered as images when a tree is written, in the order in which
they are written. Each of them asks for one render, of itself and under the path that
its own code shows. -/

namespace DesignExport

open Compile (Composed)

variable {α β γ : Type}

/-! ### Which groups are rendered -/

namespace NodeInfo

/-- A group whose code is an image of it. -/
def isRendered (node : NodeInfo α) : Bool :=
  match node.kind with
  | .group _ => node.layer.isMarkedForExport
  | _ => false

/-- What is drawn on the background of a node, if it has one. -/
def foreground (node : NodeInfo α) (layerOf : β → LayerInfo α) (items : List β) : List β :=
  match items with
  | first :: rest => if node.takesBackground (layerOf first) then rest else items
  | [] => []

/-- The children of a root in the order of writing. A page with two children looks for
a background, all others draw all their children. -/
def rootOrder (node : NodeInfo α) (layerOf : β → LayerInfo α) (items : List β) : List β :=
  match node.layer.kind, items with
  | .artboard, [_, _] => node.foreground layerOf items
  | _, _ => items

/-- The children of a group in the order of writing. The first cell of a stack is the
last child. -/
def groupOrder (node : NodeInfo α) (layerOf : β → LayerInfo α) (items : List β) : List β :=
  if node.layer.arrangement.isStack then (node.foreground layerOf items).reverse
  else node.foreground layerOf items

/-- The children of a node in the order in which its body writes them. -/
def inOrder (node : NodeInfo α) (layerOf : β → LayerInfo α) (items : List β) : List β :=
  match node.kind with
  | .widgetRoot => node.rootOrder layerOf items
  | .group .plain | .group (.scroll _) => node.groupOrder layerOf items
  | _ => []

/-- The layers that are rendered when the body of a node is written, given those for
each child. -/
def bodyRenders (node : NodeInfo α) (layerOf : β → LayerInfo α) (below : β → List (LayerInfo α))
    (items : List β) : List (LayerInfo α) :=
  if node.isRendered then [node.layer] else (node.inOrder layerOf items).flatMap below

/-- The layers that are rendered when a node is written where it stands. -/
def renders (node : NodeInfo α) (layerOf : β → LayerInfo α) (below : β → List (LayerInfo α))
    (items : List β) : List (LayerInfo α) :=
  if node.isDrawn then node.bodyRenders layerOf below items
  else if node.mode = .custom && node.placeholder? = some .children then items.flatMap below
  else []

section Map

variable (node : NodeInfo α) (layerOf : γ → LayerInfo α) (below : γ → List (LayerInfo α))
  (item : β → γ) (items : List β)

theorem foreground_map : node.foreground layerOf (items.map item) =
    (node.foreground (fun entry => layerOf (item entry)) items).map item := by
  cases items with
  | nil => rfl
  | cons first rest =>
      rw [List.map_cons, foreground, foreground]
      split <;> rfl

theorem rootOrder_map : node.rootOrder layerOf (items.map item) =
    (node.rootOrder (fun entry => layerOf (item entry)) items).map item := by
  unfold rootOrder
  match items with
  | [] | [_] | _ :: _ :: _ :: _ => cases node.layer.kind <;> rfl
  | [first, second] =>
      cases node.layer.kind with
      | artboard => exact foreground_map node layerOf item [first, second]
      | _ => rfl

theorem groupOrder_map : node.groupOrder layerOf (items.map item) =
    (node.groupOrder (fun entry => layerOf (item entry)) items).map item := by
  rw [groupOrder, groupOrder, foreground_map]
  split
  · rw [List.map_reverse]
  · rfl

theorem inOrder_map : node.inOrder layerOf (items.map item) =
    (node.inOrder (fun entry => layerOf (item entry)) items).map item := by
  unfold inOrder
  split
  · exact rootOrder_map node layerOf item items
  · exact groupOrder_map node layerOf item items
  · exact groupOrder_map node layerOf item items
  · rfl

theorem renders_map : node.renders layerOf below (items.map item) =
    node.renders (fun entry => layerOf (item entry)) (fun entry => below (item entry)) items := by
  unfold renders bodyRenders
  rw [inOrder_map, List.flatMap_map, List.flatMap_map]

end Map

end NodeInfo

namespace Node

mutual

/-- The layers that are rendered when a tree is written, in the order of writing. -/
def renders : Node α → List (LayerInfo α)
  | ⟨info, children⟩ => info.renders Prod.fst Prod.snd (rendersEach children)

/-- Each child with the layers that are rendered when it is written. -/
def rendersEach : List (Node α) → List (LayerInfo α × List (LayerInfo α))
  | [] => []
  | node :: rest => (node.layer, renders node) :: rendersEach rest

end

end Node

/-! ### Renderings -/

variable [Scalar α]

/-- A group that has been written as an image, and its code. -/
structure Rendering (α : Type) where
  node : NodeInfo α
  code : String

/-- A request asks for the image that a rendering shows. -/
structure Rendering.Requests (rendering : Rendering α) (request : RasterRequest α) : Prop where
  guid_eq : request.guid = rendering.node.layer.guid
  scale_eq : request.scale = RasterQueue.scaleOf rendering.node.layer.localBounds
  code_eq : ∃ unit : String, rendering.code =
    "Image(" ++ Box.sizeArguments rendering.node.layer unit ++ "image: " ++
      AssetImage.write request.path ++ ", )"

namespace Compile

/-- The groups that a step writes as images from a context, in order. -/
inductive Renders : {β : Type} → Compile α β → Context α → List (Rendering α) → Prop where
  /-- No request is made. -/
  | still {β : Type} {step : Compile α β} {context : Context α}
      (same : (step.run context).2.raster = context.raster) : Renders step context []
  | bind {β γ : Type} {step : Compile α β} {next : β → Compile α γ} {context : Context α}
      {first rest : List (Rendering α)} (one : Renders step context first)
      (others : Renders (next (step.run context).1) (step.run context).2 rest) :
      Renders (step >>= next) context (first ++ rest)
  | rendered (node : NodeInfo α) (context : Context α) :
      Renders (Group.writeRendered node) context
        [⟨node, ((Group.writeRendered node).run context).1.1⟩]

/-- Every rendering makes one request, which waits behind those made before. -/
theorem Renders.requests {step : Compile α β} {context : Context α}
    {renderings : List (Rendering α)} (renders : Renders step context renderings) :
    ∃ requests : List (RasterRequest α),
      (step.run context).2.raster.pending = context.raster.pending ++ requests ∧
        List.Forall₂ Rendering.Requests renderings requests := by
  -- The second step finds the requests of the first in the queue, and adds its own behind.
  induction renders with
  | still same => exact ⟨[], by rw [same, List.append_nil], List.Forall₂.nil⟩
  | @bind _ _ step next context _ _ _ _ ihFirst ihRest =>
      obtain ⟨first, made, asked⟩ := ihFirst
      obtain ⟨rest, later, others⟩ := ihRest
      refine ⟨first ++ rest, ?_, List.rel_append asked others⟩
      rw [run_bind, later, made, List.append_assoc]
  | rendered node context =>
      let path := (context.raster.add node.layer).2
      refine ⟨[⟨node.layer.guid, path, RasterQueue.scaleOf node.layer.localBounds⟩], rfl, ?_⟩
      exact List.Forall₂.cons ⟨rfl, rfl, context.settings.widthUnit, rfl⟩ List.Forall₂.nil

/-- From every context a step writes the same layers as images. -/
def Emits (step : Compile α β) (layers : List (LayerInfo α)) : Prop :=
  ∀ context : Context α, ∃ renderings, Renders step context renderings ∧
    renderings.map (·.node.layer) = layers

namespace Emits

theorem still {step : Compile α β} (composed : Composed (fun _ => True) (fun _ => True) False True step) :
    Emits step [] :=
  fun context => ⟨[], Renders.still (composed.raster_eq id context), rfl⟩

theorem bind {step : Compile α β} {next : β → Compile α γ} {layers more : List (LayerInfo α)}
    (first : Emits step layers) (second : ∀ value, Emits (next value) more) :
    Emits (step >>= next) (layers ++ more) := by
  intro context
  obtain ⟨one, renders, own⟩ := first context
  obtain ⟨others, rest, below⟩ := second (step.run context).1 (step.run context).2
  exact ⟨one ++ others, Renders.bind renders rest, by rw [List.map_append, own, below]⟩

theorem still_bind {step : Compile α β} {next : β → Compile α γ} {layers : List (LayerInfo α)}
    (composed : Composed (fun _ => True) (fun _ => True) False True step)
    (second : ∀ value, Emits (next value) layers) :
    Emits (step >>= next) layers :=
  bind (still composed) second

theorem bind_still {step : Compile α β} {next : β → Compile α γ} {layers : List (LayerInfo α)}
    (first : Emits step layers)
    (composed : ∀ value, Composed (fun _ => True) (fun _ => True) False True (next value)) :
    Emits (step >>= next) layers := by
  have both := bind first fun value => still (composed value)
  rw [List.append_nil] at both
  exact both

theorem ite {condition : Prop} [Decidable condition] {first second : Compile α β}
    {layers : List (LayerInfo α)} (yes : condition → Emits first layers)
    (no : ¬condition → Emits second layers) : Emits (if condition then first else second) layers := by
  split
  case isTrue holds => exact yes holds
  case isFalse fails => exact no fails

end Emits

end Compile

open Compile (Emits)

/-- However its layout is edited, a child writes the same layers as images. -/
def Child.Emits (child : Child α) (layers : List (LayerInfo α)) : Prop :=
  ∀ edit : Layout α → Layout α, Compile.Emits (child.write edit) layers

section Children

variable {below : Child α → List (LayerInfo α)}

namespace Child

theorem writeList_emits (edit : Layout α → Layout α) : ∀ {children : List (Child α)},
    (∀ child ∈ children, child.Emits (below child)) →
      Compile.Emits (writeList edit children) (children.flatMap below)
  | [], _ => Emits.still (Composed.pure _)
  | first :: rest, emits => by
      obtain ⟨own, others⟩ := List.forall_mem_cons.mp emits
      rw [List.flatMap_cons]
      refine (own edit).bind fun _ => ?_
      exact (writeList_emits edit others).bind_still fun _ => Composed.pure _

theorem writeStack_emits {children : List (Child α)}
    (emits : ∀ child ∈ children, child.Emits (below child)) :
    Compile.Emits (writeStack children) (children.flatMap below) :=
  (writeList_emits _ emits).bind_still fun _ => Composed.pure _

end Child

namespace Root

theorem writeBody_emits {node : NodeInfo α} {children : List (Child α)}
    (page : node.layer.kind = .artboard) (emits : ∀ child ∈ children, child.Emits (below child)) :
    Emits (writeBody node children) ((node.rootOrder (·.node.layer) children).flatMap below) := by
  unfold writeBody NodeInfo.rootOrder
  rw [page]
  split
  case h_1 first only =>
    rw [NodeInfo.foreground]
    split
    case isTrue =>
      have last := emits only (List.mem_cons_of_mem first List.mem_cons_self)
      rw [List.flatMap_singleton]
      exact (last _).bind_still fun _ => Composed.pure _
    case isFalse => exact Child.writeStack_emits emits
  case h_2 different =>
    split
    case h_1 first second _ => exact absurd rfl (different first second)
    case h_2 => exact Child.writeStack_emits emits

theorem write_emits {node : NodeInfo α} {children : List (Child α)}
    (emits : ∀ child ∈ children, child.Emits (below child)) :
    Emits (write node children) ((node.rootOrder (·.node.layer) children).flatMap below) := by
  unfold write
  split
  case h_1 page =>
    refine Emits.still_bind (pageColor_composed _) fun color => ?_
    exact (writeBody_emits page emits).bind_still fun _ => Composed.pure _
  case h_2 noPage =>
    unfold NodeInfo.rootOrder
    split
    case h_1 page => exact absurd page noPage
    case h_2 => exact Child.writeStack_emits emits

end Root

namespace Group

theorem cells_emits (orientation : Orientation) (unit : String) : ∀ {entries : List (α × Child α)}
    (hasTrimmed : Bool), (∀ entry ∈ entries, entry.2.Emits (below entry.2)) →
      Emits (cells orientation unit hasTrimmed entries) (entries.flatMap fun entry => below entry.2)
  | [], _, _ => Emits.still (Composed.pure _)
  | (gap, child) :: rest, hasTrimmed, emits => by
      obtain ⟨own, others⟩ := List.forall_mem_cons.mp emits
      rw [List.flatMap_cons]
      refine (own _).bind fun written => Emits.ite (fun _ => ?_) fun _ => ?_
      · exact (cells_emits orientation unit hasTrimmed others).bind_still fun _ => Composed.pure _
      · exact (cells_emits orientation unit _ others).bind_still fun _ => Composed.pure _

theorem writeFlex_emits (stack : Stack α) {children : List (Child α)}
    (emits : ∀ child ∈ children, child.Emits (below child)) :
    Emits (writeFlex stack children) (children.reverse.flatMap below) := by
  refine Emits.still_bind Composed.settings fun settings => ?_
  let entries := withGaps (stack.spacings.gaps (children.length - 1)).reverse children.reverse
  have cells : entries.map Prod.snd = children.reverse := map_snd_withGaps stack.spacings children
  have each : ∀ entry ∈ entries, entry.2.Emits (below entry.2) := by
    intro entry member
    have inside : entry.2 ∈ entries.map Prod.snd := List.mem_map_of_mem member
    rw [cells, List.mem_reverse] at inside
    exact emits entry.2 inside
  have order : (entries.map Prod.snd).flatMap below = entries.flatMap fun entry => below entry.2 :=
    List.flatMap_map _ _ entries
  rw [cells] at order
  rw [order]
  have written := cells_emits stack.orientation settings.widthUnit false each
  exact written.bind_still fun _ => Composed.pure _

/-- Cells are written from the last child to the first, other children in their order. -/
theorem writeChildren_emits (node : NodeInfo α) (hasBackground : Bool) {children : List (Child α)}
    (emits : ∀ child ∈ children, child.Emits (below child)) :
    Emits (writeChildren node hasBackground children)
      ((if node.layer.arrangement.isStack then children.reverse else children).flatMap below) := by
  unfold writeChildren Arrangement.isStack
  cases node.layer.arrangement.activeStack? with
  | some stack => exact writeFlex_emits stack emits
  | none =>
      dsimp only
      rw [if_neg (by simp)]
      split
      next only =>
        rw [List.flatMap_singleton]
        exact (emits only List.mem_cons_self _).bind_still fun _ => Composed.pure _
      next => exact Child.writeStack_emits emits

variable {node : NodeInfo α}

theorem writeContent_emits {first : Child α} {rest : List (Child α)}
    (emits : ∀ child ∈ first :: rest, child.Emits (below child)) :
    Emits (writeContent node first rest)
      ((node.groupOrder (·.node.layer) (first :: rest)).flatMap below) := by
  obtain ⟨_, others⟩ := List.forall_mem_cons.mp emits
  refine Emits.still_bind Composed.settings fun settings => ?_
  refine Emits.still_bind (warnOfMask_composed node.layer) fun _ => ?_
  rw [NodeInfo.groupOrder, NodeInfo.foreground]
  dsimp only
  split
  case isTrue =>
    refine (writeChildren_emits node true others).bind_still fun result => ?_
    exact (onBackground_composed _ _ _).bind fun _ => Composed.pure _
  case isFalse =>
    exact (writeChildren_emits node false emits).bind_still fun _ => Composed.pure _

variable {children : List (Child α)} (emits : ∀ child ∈ children, child.Emits (below child))

include emits

theorem write_emits :
    Emits (write node children) ((node.groupOrder (·.node.layer) children).flatMap below) := by
  cases children with
  | nil =>
      rw [NodeInfo.groupOrder, NodeInfo.foreground, List.reverse_nil, ite_self]
      exact Emits.still (Composed.pure _)
  | cons first rest => exact writeContent_emits emits

theorem writeScroll_emits (direction : ScrollDirection) : Emits (writeScroll node direction children)
    ((node.groupOrder (·.node.layer) children).flatMap below) := by
  cases children with
  | nil =>
      rw [NodeInfo.groupOrder, NodeInfo.foreground, List.reverse_nil, ite_self]
      exact Emits.still (Composed.pure _)
  | cons first rest =>
      refine Emits.still_bind Composed.settings fun settings => ?_
      exact (writeContent_emits emits).bind_still fun _ => Composed.pure _

end Group

/-! ### Nodes -/

namespace NodeInfo

variable {node : NodeInfo α} {children : List (Child α)}
  (emits : ∀ child ∈ children, child.Emits (below child))

include emits

theorem writeBody_emits :
    Emits (writeBody node children) (node.bodyRenders (·.node.layer) below children) := by
  have unmarked (notRendered : node.isRendered = false) :
      node.bodyRenders (·.node.layer) below children =
        (node.inOrder (·.node.layer) children).flatMap below := by
    rw [bodyRenders, notRendered]
    rfl
  cases kind : node.kind with
  | widgetRoot =>
      have order : node.inOrder (·.node.layer) children = node.rootOrder (·.node.layer) children := by
        simp only [inOrder, kind]
      rw [unmarked (by rw [isRendered, kind]), order, writeBody, kind]
      exact (Root.write_emits emits).bind_still fun _ => Composed.pure _
  | box =>
      have order : node.inOrder (·.node.layer) children = [] := by simp only [inOrder, kind]
      rw [unmarked (by rw [isRendered, kind]), order, writeBody, kind]
      exact Emits.still ((Box.write_composed node).bind fun _ => Composed.pure _)
  | text =>
      have order : node.inOrder (·.node.layer) children = [] := by simp only [inOrder, kind]
      rw [unmarked (by rw [isRendered, kind]), order, writeBody, kind]
      exact Emits.still ((Label.write_composed node).bind fun _ => Composed.pure _)
  | shape unit =>
      have order : node.inOrder (·.node.layer) children = [] := by simp only [inOrder, kind]
      rw [unmarked (by rw [isRendered, kind]), order, writeBody, kind]
      exact Emits.still ((Picture.write_composed _ trivial).bind fun _ => Composed.pure _)
  | group inside =>
      cases marked : node.layer.isMarkedForExport with
      | true =>
          have own : node.bodyRenders (·.node.layer) below children = [node.layer] := by
            rw [bodyRenders, isRendered, kind, marked]
            rfl
          have rendered : Emits (Group.writeRendered node) [node.layer] :=
            fun context => ⟨_, Compile.Renders.rendered node context, rfl⟩
          rw [own, writeBody, kind, marked]
          exact rendered.bind_still fun _ => Composed.pure _
      | false =>
          rw [unmarked (by rw [isRendered, kind, marked]), writeBody, kind, marked]
          cases inside with
          | instanceOf widget =>
              have order : node.inOrder (·.node.layer) children = [] := by simp only [inOrder, kind]
              rw [order]
              exact Emits.still (Composed.pure _)
          | plain =>
              have order : node.inOrder (·.node.layer) children =
                  node.groupOrder (·.node.layer) children := by simp only [inOrder, kind]
              rw [order]
              exact (Group.write_emits emits).bind_still fun _ => Composed.pure _
          | scroll direction =>
              have order : node.inOrder (·.node.layer) children =
                  node.groupOrder (·.node.layer) children := by simp only [inOrder, kind]
              rw [order]
              exact (Group.writeScroll_emits emits direction).bind_still fun _ => Composed.pure _

theorem writeInline_emits :
    Emits (writeInline node children) (node.bodyRenders (·.node.layer) below children) := by
  refine (writeBody_emits emits).bind_still fun written => Composed.ite (Composed.pure _) ?_
  exact (decorate_composed _ _).bind fun _ => Composed.pure _

theorem writeMethod_emits :
    Emits (writeMethod node children) (node.bodyRenders (·.node.layer) below children) := by
  refine (writeInline_emits emits).bind_still fun written => Composed.ite (Composed.pure _) ?_
  exact Composed.addMethod trivial _ fun _ => Composed.pure _

theorem writeTemplate_emits (custom : node.mode = .custom) :
    Emits (writeTemplate node children) (node.renders (·.node.layer) below children) := by
  unfold writeTemplate
  dsimp only
  split
  case h_1 missing =>
    have place : node.placeholder? = none := by rw [placeholder?, missing]; rfl
    have nothing : node.renders (·.node.layer) below children = [] := by
      rw [renders, isDrawn, custom, place]
      rfl
    rw [nothing]
    exact Emits.still (Composed.pure _)
  case h_2 cut found =>
    have place : node.placeholder? = some cut.placeholder := by rw [placeholder?, found]; rfl
    refine Emits.still_bind (templateSettings_composed node cut) fun settings => ?_
    refine Emits.bind_still ?_ fun _ => Composed.pure _
    cases placeholder : cut.placeholder with
    | children =>
        rw [placeholder] at place
        have all : node.renders (·.node.layer) below children = children.flatMap below := by
          rw [renders, isDrawn, custom, place]
          rfl
        rw [all]
        exact (Child.writeList_emits _ emits).bind_still fun _ => Composed.pure _
    | this =>
        rw [placeholder] at place
        have own : node.renders (·.node.layer) below children =
            node.bodyRenders (·.node.layer) below children :=
          if_pos (isDrawn_of_this custom place)
        rw [own]
        exact Emits.ite (fun _ => writeInline_emits emits) fun _ => writeBody_emits emits

/-- What is rendered when a node is written, from what its children render. -/
theorem write_emits : Emits (write node children) (node.renders (·.node.layer) below children) := by
  unfold write
  split
  case h_1 inline =>
    have own : node.renders (·.node.layer) below children =
        node.bodyRenders (·.node.layer) below children := if_pos (by rw [isDrawn, inline])
    rw [own]
    exact writeInline_emits emits
  case h_2 isMethod =>
    have own : node.renders (·.node.layer) below children =
        node.bodyRenders (·.node.layer) below children := if_pos (by rw [isDrawn, isMethod])
    rw [own]
    exact writeMethod_emits emits
  case h_3 isBuilder =>
    have nothing : node.renders (·.node.layer) below children = [] := by
      rw [renders, isDrawn, isBuilder]
      rfl
    rw [nothing]
    exact Emits.still (writeBuilder_composed node children)
  case h_4 custom => exact writeTemplate_emits emits custom

end NodeInfo

end Children

namespace Node

theorem rendersEach_eq (nodes : List (Node α)) :
    rendersEach nodes = (asChildren nodes).map fun child => (child.node.layer, child.node.renders) := by
  induction nodes with
  | nil => rw [asChildren, rendersEach, List.map_nil]
  | cons node rest ih => rw [asChildren, rendersEach, List.map_cons, ih]

mutual

/-- Writing a tree renders the layers of the tree that are rendered, in their order. -/
theorem writeWith_emits : ∀ (node : Node α) (edit : Layout α → Layout α),
    Emits (writeWith node edit) node.renders
  | ⟨info, children⟩, edit => by
      rw [writeWith, renders, rendersEach_eq, NodeInfo.renders_map]
      exact NodeInfo.write_emits (asChildren_emit children)

theorem asChildren_emit : ∀ (nodes : List (Node α)), ∀ child ∈ asChildren nodes,
    child.Emits child.node.renders
  | [], child, absent => by
      rw [asChildren] at absent
      exact absurd absent List.not_mem_nil
  | node :: rest, child, member => by
      rw [asChildren, List.mem_cons] at member
      rcases member with first | later
      · rw [first]
        exact writeWith_emits node
      · exact asChildren_emit rest child later

end

end Node

end DesignExport
