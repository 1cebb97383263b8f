import DesignExport.Proofs.Expression.Told
import DesignExport.Proofs.Tree.Backdrops
import DesignExport.Proofs.Tree.Supplied
set_option autoImplicit false

/-! The pieces of code that show a layer: its own expression, the picture of a unit with a
path for it, and the paint of the parent that it is the background of. Such a piece stands
in the code of every tree that reaches the node that shows the layer. -/

namespace DesignExport

open Compile (Composed HandsOn Keeps Lasts Yields keeps_idle)

variable {α : Type}

/-! ### Code in other code -/

/-- A piece of code stands in other code: as it is, or under the edits of finished code. -/
inductive Embedded (piece : String) : String → Prop where
  | self : Embedded piece piece
  | before (front : String) {code : String} (inside : Embedded piece code) :
      Embedded piece (front ++ code)
  | behind (back : String) {code : String} (inside : Embedded piece code) :
      Embedded piece (code ++ back)
  | commented {β : Type} (layer : LayerInfo β) {code : String} (inside : Embedded piece code) :
      Embedded piece (layerComment code layer)
  | centered {code : String} (inside : Embedded piece code) : Embedded piece
      (Text.replaceFirst "CrossAxisAlignment.start" "CrossAxisAlignment.center" code)
  | decorated (decoration : String) {code : String} (inside : Embedded piece code) :
      Embedded piece (Group.decorated decoration code)

/-- Code is there, and one of some pieces stands in it. -/
def ShowsOneOf (pieces : String → Prop) (code : String) : Prop :=
  code ≠ "" ∧ ∃ piece, pieces piece ∧ Embedded piece code

theorem survivesEdits_showsOneOf (pieces : String → Prop) : SurvivesEdits (ShowsOneOf pieces) where
  before := fun front _ ⟨text, piece, known, inside⟩ =>
    ⟨survivesEdits_ne_empty.before front text, piece, known, inside.before front⟩
  behind := fun back _ ⟨text, piece, known, inside⟩ =>
    ⟨survivesEdits_ne_empty.behind back text, piece, known, inside.behind back⟩
  commented := fun layer _ ⟨text, piece, known, inside⟩ =>
    ⟨survivesEdits_ne_empty.commented layer text, piece, known, inside.commented layer⟩
  centered := fun ⟨text, piece, known, inside⟩ =>
    ⟨survivesEdits_ne_empty.centered text, piece, known, inside.centered⟩
  decorated := fun decoration _ ⟨text, piece, known, inside⟩ =>
    ⟨survivesEdits_ne_empty.decorated decoration text, piece, known, inside.decorated decoration⟩

/-- Code in which one piece of code stands. -/
abbrev ShowsPiece (piece : String) : String → Prop :=
  ShowsOneOf (· = piece)

theorem showsPiece_self {piece : String} (text : piece ≠ "") : ShowsPiece piece piece :=
  ⟨text, piece, rfl, Embedded.self⟩

theorem survivesEdits_showsPiece (piece : String) : SurvivesEdits (ShowsPiece piece) :=
  survivesEdits_showsOneOf _

/-- A piece stands in texts that are joined if it stands in one of them. -/
theorem showsPiece_join {piece text : String} (shown : ShowsPiece piece text) :
    ∀ {texts : List String}, text ∈ texts → ShowsPiece piece (String.join texts)
  | first :: rest, member => by
      rw [String.join_cons]
      rcases List.mem_cons.mp member with same | later
      · exact (survivesEdits_showsPiece piece).behind _ (same ▸ shown)
      · exact (survivesEdits_showsPiece piece).before _ (showsPiece_join shown later)

variable [Scalar α]

theorem handsOn_showsOneOf (pieces : String → Prop) {fact : Context α → Prop}
    (lasts : Lasts (fun _ => True) fact) : HandsOn (ShowsOneOf pieces) fact :=
  ⟨survivesEdits_showsOneOf pieces, fun _ shown => shown.1, lasts⟩

/-! ### Primitives in the markup of their unit -/

namespace Markup

variable (opacityOf : OpacityOf α) (layer : LayerInfo α)

/-- Markup draws a layer: the path of the layer stands in it. -/
def Draws (markup : String) : Prop :=
  ∃ front back, markup = front ++ (path opacityOf layer).1 ++ back

variable {opacityOf layer}

theorem Draws.before {markup : String} (draws : Draws opacityOf layer markup) (front : String) :
    Draws opacityOf layer (front ++ markup) := by
  obtain ⟨before, after, same⟩ := draws
  exact ⟨front ++ before, after, by rw [same]; simp only [String.append_assoc]⟩

theorem Draws.behind {markup : String} (draws : Draws opacityOf layer markup) (back : String) :
    Draws opacityOf layer (markup ++ back) := by
  obtain ⟨before, after, same⟩ := draws
  exact ⟨before, after ++ back, by rw [same, String.append_assoc]⟩

mutual

theorem draws_member : ∀ {member : ShapeMember α}, layer ∈ member.primitives →
    Draws opacityOf layer (Markup.member opacityOf member).1
  | .primitive own, inside => by
      rw [List.mem_singleton.mp inside]
      exact ⟨"", "", by rw [String.empty_append, String.append_empty]; rfl⟩
  | .nested frame inner, inside => by
      have draws := draws_members inside
      exact (draws.before (frameOpening frame)).behind "</g>"

theorem draws_members : ∀ {members : List (ShapeMember α)}, layer ∈ memberPrimitives members →
    Draws opacityOf layer (Markup.members opacityOf members).1
  | first :: rest, inside => by
      have joined : (Markup.members opacityOf (first :: rest)).1 =
          (Markup.member opacityOf first).1 ++ (Markup.members opacityOf rest).1 := rfl
      rw [memberPrimitives, List.mem_append] at inside
      rw [joined]
      rcases inside with here | later
      · have own : Draws opacityOf layer (Markup.member opacityOf first).1 := draws_member here
        exact own.behind _
      · have others : Draws opacityOf layer (Markup.members opacityOf rest).1 := draws_members later
        exact others.before _

end

theorem draws_render {unit : ShapeUnit α} (inside : layer ∈ unit.primitives) :
    Draws opacityOf layer (render opacityOf unit).1 := by
  have body : Draws opacityOf layer (members opacityOf unit.members).1 := draws_members inside
  unfold render
  dsimp only
  refine (Draws.before ?_ _).behind _
  split
  · exact (body.before _).behind _
  · exact body

end Markup

/-! ### Backgrounds -/

/-- A background is filled in the first colour of its fill. -/
def LayerInfo.boxFilling (layer : LayerInfo α) (opacity : α) : Box.Filling :=
  match layer.activeFill?.bind Fill.firstColor? with
  | some color => .color (Dart.colorLiteral color opacity)
  | none => .empty

/-- What is painted of a layer that is the background of a group: its filling, its border,
and its corners. -/
def LayerInfo.boxDecoration (layer : LayerInfo α) (opacity : α) (unit : String) : String :=
  let border :=
    match layer.activeStroke? with
    | some stroke => "border: " ++ (Paint.border stroke opacity layer unit).1 ++ ", "
    | none => ""
  "BoxDecoration(" ++ (layer.boxFilling opacity).write ++ border ++ Box.rounding layer unit ++ ")"

namespace Group

theorem border_keeps_idle (layer : LayerInfo α) (opacity : α) (unit : String) (start : Context α) :
    Keeps (fun context => context.idle = start.idle) (Box.border layer opacity unit) (· =
      match layer.activeStroke? with
      | some stroke => "border: " ++ (Paint.border stroke opacity layer unit).1 ++ ", "
      | none => "") := by
  unfold Box.border
  cases layer.activeStroke? with
  | none => exact Keeps.pure rfl
  | some stroke =>
      exact (Compile.noting_keeps_idle _ start).bind fun _ known => Keeps.pure (by rw [known])

theorem solidColor?_eq (fill : Fill α) (opacity : α) (layer : LayerInfo α) :
    (Paint.solidColor? fill opacity layer).1 =
      fill.firstColor?.map fun color => Dart.colorLiteral color opacity := by
  cases fill <;> rfl

/-- What stands behind code once a layer is its background. -/
theorem onBackground_keeps_decorated (layer : LayerInfo α) (code unit : String) (start : Context α) :
    Keeps (fun context => context.idle = start.idle) (onBackground layer code unit)
      (· = decorated (layer.boxDecoration (start.index.inheritedOpacity layer) unit) code) := by
  unfold onBackground
  refine Keeps.ite_skip (keeps_idle (Composed.warn _ layer) start) ?_
  refine (Compile.inheritedOpacity_keeps_idle layer start).bind fun opacity known => ?_
  rw [← known]
  have drawn (filling : Box.Filling) (same : filling = layer.boxFilling opacity) :
      Keeps (fun context => context.idle = start.idle)
        (Box.border layer opacity unit >>= fun border => pure (decorated
          ("BoxDecoration(" ++ filling.write ++ border ++ Box.rounding layer unit ++ ")") code))
        (· = decorated (layer.boxDecoration opacity unit) code) := by
    refine (border_keeps_idle layer opacity unit start).bind fun border written => Keeps.pure ?_
    rw [written, same]
    rfl
  unfold LayerInfo.boxFilling at drawn
  dsimp only
  split
  case h_1 fill active =>
    refine (Compile.noting_keeps_idle _ start).bind fun color same => ?_
    rw [solidColor?_eq] at same
    rw [active, Option.bind_some] at drawn
    cases first : fill.firstColor? with
    | none =>
        rw [first] at same drawn
        cases same
        exact drawn .empty rfl
    | some color =>
        rw [first] at same drawn
        cases same
        exact drawn (.color _) rfl
  case h_2 inactive =>
    rw [inactive] at drawn
    exact drawn .empty rfl

end Group

theorem Root.pageColor_yields {owner : LayerInfo α} {fill : Fill α} {color : Color}
    (filled : owner.activeFill? = some fill) (colored : fill.firstColor? = some color) :
    Yields (pageColor owner) (· = some (Dart.colorLiteral color (1.0 : α))) := by
  unfold pageColor
  rw [filled]
  cases fill with
  | color own =>
      cases colored
      exact Yields.pure rfl
  | image => cases colored
  | linear | radial | angular =>
      refine Yields.bind_any fun _ => Yields.pure ?_
      rw [colored]
      rfl

/-! ### What a node shows of a layer -/

namespace Node

/-- The code of a node itself, in a context with what lasts in a first one. -/
def HasBody (start : Context α) (node : Node α) (code : String) : Prop :=
  ∃ (edit : Layout α → Layout α) (context : Context α), context.idle = start.idle ∧
    code = ((NodeInfo.writeBody { node.toNodeInfo with layout := edit node.layout }
      (asChildren node.children)).run context).1.1

/-- A node shows a layer as a piece of code. -/
inductive ShowsAs (start : Context α) (node : Node α) (layer : LayerInfo α) : String → Prop where
  /-- The expression of a box or a text. -/
  | own {code : String} (drawn : node.kind = .box ∨ node.kind = .text) (same : node.layer = layer)
      (body : node.HasBody start code) (present : code ≠ "") : ShowsAs start node layer code
  /-- The picture of a unit, with a path for the layer in its markup. -/
  | member {unit : ShapeUnit α} {code : String} (shape : node.kind = .shape unit)
      (inside : layer ∈ unit.primitives)
      (drawn : Markup.Draws start.index.inheritedOpacity layer
        (Markup.render start.index.inheritedOpacity unit).1)
      (body : node.HasBody start code) (present : code ≠ "") : ShowsAs start node layer code
  /-- A group with the layer as its decoration. -/
  | decoration {aside : Node α} (code : String) (group : node.isDrawnGroup = true)
      (stands : node.backdrop? node.children = some aside) (shown : layer ∈ aside.shown)
      (same : aside.layer = layer) (paints : node.Paints layer) :
      ShowsAs start node layer (Group.decorated
        (layer.boxDecoration (start.index.inheritedOpacity layer) start.settings.widthUnit) code)
  /-- A page in the colour of the layer. -/
  | page {aside : Node α} {fill : Fill α} {color : Color} (body : String)
      (root : node.kind = .widgetRoot) (stands : node.backdrop? node.children = some aside)
      (shown : layer ∈ aside.shown) (same : aside.layer = layer)
      (filled : layer.activeFill? = some fill) (colored : fill.firstColor? = some color) :
      ShowsAs start node layer ("Scaffold(backgroundColor: " ++
        Dart.colorLiteral color (1.0 : α) ++ ", body: " ++ body ++ ", )")

theorem ShowsAs.exhibits {start : Context α} {node : Node α} {layer : LayerInfo α} {piece : String}
    (shows : node.ShowsAs start layer piece) : node.Exhibits layer := by
  cases shows with
  | own drawn same => exact Exhibits.own drawn same
  | member shape inside => exact Exhibits.member shape inside
  | decoration code group stands shown same paints => exact Exhibits.backdrop stands shown same paints
  | page body root stands shown same filled colored =>
      refine Exhibits.backdrop stands shown same ?_
      rw [NodeInfo.Paints, root]
      exact ⟨_, _, filled, colored⟩

/-! ### The piece in the code of the node -/

section Body

variable {start : Context α} {node : Node α} {layer : LayerInfo α}

theorem writeBody_shows_of_hasBody
    (label : node.kind = .text → ∃ block, node.layer.kind = .text block)
    (present : node.isEmptyGroup node.children = false)
    (piece : ∀ code, node.HasBody start code → code ≠ "" → node.ShowsAs start layer code)
    (edit : Layout α → Layout α) :
    Compile.Shows start (ShowsOneOf (node.ShowsAs start layer))
      (NodeInfo.writeBody { node.toNodeInfo with layout := edit node.layout }
        (asChildren node.children)) := by
  have composed : Composed (fun _ => True) (fun _ => True) True True
      (NodeInfo.writeBody { node.toNodeInfo with layout := edit node.layout }
        (asChildren node.children)) :=
    writeBody_composed _ node.children
  have code : Yields
      (NodeInfo.writeBody { node.toNodeInfo with layout := edit node.layout }
        (asChildren node.children)) (fun result => result.1 ≠ "") :=
    NodeInfo.writeBody_yields label (by rw [nodes_asChildren]; exact present)
  intro context same
  have text := code context
  refine ⟨⟨text, _, piece _ ⟨edit, context, same, rfl⟩ text, Embedded.self⟩, ?_⟩
  exact (composed.framed.idle_eq context).trans same

end Body

end Node

section Backdrops

variable {start : Context α} {shows : String → Prop} {node : NodeInfo α}

theorem Group.writeContent_shows_decoration {first : Child α} {rest : List (Child α)}
    (takes : node.takesBackground first.node.layer = true)
    (composed : ∀ child ∈ rest, child.IsWriting (fun _ => True) (fun _ => True) (fun _ => True))
    (known : ∀ code, shows (decorated (first.node.layer.boxDecoration
      (start.index.inheritedOpacity first.node.layer) start.settings.widthUnit) code)) :
    Compile.Shows start shows (writeContent node first rest) := by
  refine Keeps.bind (Compile.settings_keeps_idle start) fun settings own => ?_
  refine (keeps_idle (warnOfMask_composed node.layer) start).bind fun _ _ => ?_
  dsimp only
  rw [if_pos takes]
  refine (keeps_idle (writeChildren_writing true rest composed).composed start).bind fun written _ => ?_
  refine (onBackground_keeps_decorated _ _ _ start).bind fun code same => Keeps.pure ?_
  rw [same, own]
  exact known _

theorem Root.write_shows_of_writePage {children : List (Child α)}
    (page : node.layer.kind = .artboard) (whole : Compile.Shows start shows (writePage node children)) :
    Compile.Shows start shows (write node children) := by
  unfold write
  rw [page]
  exact whole

theorem Root.writePage_shows_color {first only : Child α} {fill : Fill α} {color : Color}
    (takes : node.takesBackground first.node.layer = true)
    (composed : ∀ child ∈ [first, only], child.IsWriting (fun _ => True) (fun _ => True) (fun _ => True))
    (filled : first.node.layer.activeFill? = some fill) (colored : fill.firstColor? = some color)
    (known : ∀ body, shows ("Scaffold(backgroundColor: " ++ Dart.colorLiteral color (1.0 : α) ++
      ", body: " ++ body ++ ", )")) :
    Compile.Shows start shows (writePage node [first, only]) := by
  have owner : fillOwner node [first, only] = first.node.layer := by
    rw [fillOwner, takes, filled]
    rfl
  unfold writePage
  rw [owner]
  refine ((pageColor_yields filled colored).keeps_idle (pageColor_composed _) start).bind
    fun found same => ?_
  have body : Composed (fun _ => True) (fun _ => True) True True (writeBody node [first, only]) := by
    rw [writeBody, if_pos takes]
    have last : only ∈ [first, only] := List.mem_cons_of_mem first List.mem_cons_self
    exact (composed only last _).composed.bind fun _ => Composed.pure _
  refine (keeps_idle body start).bind fun written _ => Keeps.pure ?_
  rw [same]
  have code : "Scaffold(" ++ ("backgroundColor: " ++ Dart.colorLiteral color (1.0 : α) ++ ", ") ++
      "body: " ++ written.1 ++ ", )" = "Scaffold(backgroundColor: " ++
        Dart.colorLiteral color (1.0 : α) ++ ", body: " ++ written.1 ++ ", )" := by
    have opening : "Scaffold(backgroundColor: " = "Scaffold(" ++ "backgroundColor: " := rfl
    have middle : ", body: " = ", " ++ "body: " := rfl
    rw [opening, middle]
    simp only [String.append_assoc]
  exact Eq.mpr (congrArg shows code) (known written.1)

end Backdrops

namespace Node

variable {start : Context α} {node : Node α} {layer : LayerInfo α}

theorem asChildren_eq_cons {first : Node α} {rest : List (Node α)} :
    asChildren (first :: rest) = ⟨first, writeWith first⟩ :: asChildren rest := by
  rw [asChildren]

theorem writeBody_shows_decoration {aside : Node α} (group : node.isDrawnGroup = true)
    (stands : node.backdrop? node.children = some aside) (shown : layer ∈ aside.shown)
    (same : aside.layer = layer) (paints : node.Paints layer) (edit : Layout α → Layout α) :
    Compile.Shows start (ShowsOneOf (node.ShowsAs start layer))
      (NodeInfo.writeBody { node.toNodeInfo with layout := edit node.layout }
        (asChildren node.children)) := by
  obtain ⟨info, children⟩ := node
  obtain ⟨rest, listed, takes⟩ := NodeInfo.eq_cons_of_backdrop? group stands
  change children = aside :: rest at listed
  subst listed same
  have content : Compile.Shows start (ShowsOneOf (ShowsAs start ⟨info, aside :: rest⟩ aside.layer))
      (Group.writeContent { info with layout := edit info.layout } ⟨aside, writeWith aside⟩
        (asChildren rest)) := by
    refine Group.writeContent_shows_decoration takes isWriting_of_mem_asChildren fun code => ?_
    refine ⟨Group.decorated_ne_empty _ _, _, ?_, Embedded.self⟩
    exact ShowsAs.decoration code group stands shown rfl paints
  have drawn : NodeInfo.isDrawnGroup { info with layout := edit info.layout } = true := group
  rw [asChildren_eq_cons]
  exact (NodeInfo.writeBody_tells_of_writeContent (handsOn_showsOneOf _ (Lasts.always False)) drawn
    content.tells).shown

theorem writeBody_shows_page {aside : Node α} {fill : Fill α} {color : Color}
    (root : node.kind = .widgetRoot) (stands : node.backdrop? node.children = some aside)
    (shown : layer ∈ aside.shown) (same : aside.layer = layer)
    (filled : layer.activeFill? = some fill) (colored : fill.firstColor? = some color)
    (edit : Layout α → Layout α) :
    Compile.Shows start (ShowsOneOf (node.ShowsAs start layer))
      (NodeInfo.writeBody { node.toNodeInfo with layout := edit node.layout }
        (asChildren node.children)) := by
  obtain ⟨info, children⟩ := node
  obtain ⟨page, only, listed, takes⟩ := NodeInfo.eq_pair_of_backdrop? root stands
  change children = [aside, only] at listed
  subst listed same
  have composed : ∀ child ∈ asChildren [aside, only],
      child.IsWriting (fun _ => True) (fun _ => True) (fun _ => True) :=
    isWriting_of_mem_asChildren
  rw [asChildren_eq_cons, asChildren_eq_cons, asChildren] at composed ⊢
  have whole : Compile.Shows start (ShowsOneOf (ShowsAs start ⟨info, [aside, only]⟩ aside.layer))
      (Root.write { info with layout := edit info.layout }
        [⟨aside, writeWith aside⟩, ⟨only, writeWith only⟩]) := by
    refine Root.write_shows_of_writePage page ?_
    refine Root.writePage_shows_color takes composed filled colored fun body => ?_
    refine ⟨append_ne_empty_of_right _ (by decide), _, ?_, Embedded.self⟩
    exact ShowsAs.page body root stands shown rfl filled colored
  have edited : NodeInfo.kind { info with layout := edit info.layout } = .widgetRoot := root
  exact (NodeInfo.writeBody_tells_of_root (Lasts.always False) edited whole.tells).shown

/-- Whatever a node shows of a layer, a piece for the layer stands in its own code. -/
theorem Exhibits.writeBody_shows (exhibits : node.Exhibits layer)
    (label : node.kind = .text → ∃ block, node.layer.kind = .text block)
    (edit : Layout α → Layout α) :
    Compile.Shows start (ShowsOneOf (node.ShowsAs start layer))
      (NodeInfo.writeBody { node.toNodeInfo with layout := edit node.layout }
        (asChildren node.children)) := by
  have present (closed : node.isDrawnGroup = false) : node.isEmptyGroup node.children = false := by
    rw [NodeInfo.isEmptyGroup, closed, Bool.false_and]
  rcases exhibits with ⟨drawn, same⟩ | ⟨shape, inside⟩ | ⟨stands, shown, same, paints⟩
  · have closed : node.isDrawnGroup = false := by
      rw [NodeInfo.isDrawnGroup]
      rcases drawn with box | text
      · rw [box]
      · rw [text]
    exact writeBody_shows_of_hasBody label (present closed)
      (fun _ body text => ShowsAs.own drawn same body text) edit
  · have closed : node.isDrawnGroup = false := by
      rw [NodeInfo.isDrawnGroup, shape]
    exact writeBody_shows_of_hasBody label (present closed)
      (fun _ body text => ShowsAs.member shape inside (Markup.draws_render inside) body text) edit
  · rcases holds_of_backdrop? stands with root | group
    · have painted : ∃ fill color, layer.activeFill? = some fill ∧
          fill.firstColor? = some color := by
        rw [NodeInfo.Paints, root] at paints
        exact paints
      obtain ⟨fill, color, filled, colored⟩ := painted
      exact writeBody_shows_page root stands shown same filled colored edit
    · exact writeBody_shows_decoration group stands shown same paints edit

/-- The code of a tree has a piece for every layer that a node shows which it reaches. -/
theorem Reaches.writeWith_showsOneOf {part : Node α} (reaches : node.Reaches part)
    (inline : node.IsInline) (exhibits : part.Exhibits layer)
    (label : part.kind = .text → ∃ block, part.layer.kind = .text block)
    (edit : Layout α → Layout α) :
    Compile.Shows start (ShowsOneOf (part.ShowsAs start layer)) (node.writeWith edit) :=
  reaches.writeWith_shows (survivesEdits_showsOneOf _) (fun _ shows => shows.1) inline
    (fun edit => exhibits.writeBody_shows label edit) edit

end Node

end DesignExport
