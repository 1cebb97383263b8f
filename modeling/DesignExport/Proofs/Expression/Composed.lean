import DesignExport.Proofs.Expression.Present
import DesignExport.Proofs.Tree.Composed
set_option autoImplicit false

/-! Writing expressions is put together from basic steps. A parent asks that of its
children only as far as it writes them, and a tree draws no units and builds no methods but
those of the nodes that are written with it. -/

namespace DesignExport

open Compile (Composed Framed Writing)

variable {α : Type} [Scalar α] {uses : TextRun α → Prop} {draws : ShapeUnit α → Prop}
  {builds : LayerInfo α → Prop} {renders declares : Prop}

namespace Box

theorem filling_writing (node : NodeInfo α) (opacity : α) :
    Writing uses draws builds renders (filling node opacity) := by
  unfold filling
  split
  · exact Writing.pure _
  · exact Writing.pure _
  · dsimp only
    split
    · exact (Writing.pure _).bind fun _ => Writing.pure _
    · exact (AssetImage.ofFill_writing node.layer).bind fun _ => Writing.pure _
  · split
    · exact Writing.pure _
    · refine (Writing.noting _).bind fun color => ?_
      split
      · exact Writing.pure _
      · exact Writing.pure _

theorem border_writing (layer : LayerInfo α) (opacity : α) (unit : String) :
    Writing uses draws builds renders (border layer opacity unit) := by
  unfold border
  split
  · exact Writing.pure _
  · exact (Writing.noting _).bind fun _ => Writing.pure _

theorem opacity_writing (layer : LayerInfo α) : Writing uses draws builds renders (opacity layer) := by
  refine (Writing.inheritedOpacity layer).bind fun inherited => ?_
  split
  · exact Writing.pure _
  · exact Writing.pure _

theorem decoration_writing (node : NodeInfo α) (unit : String) :
    Writing uses draws builds renders (decoration node unit) := by
  refine (opacity_writing node.layer).bind fun opacity => ?_
  refine (filling_writing node opacity).bind fun filling => ?_
  refine (border_writing node.layer opacity unit).bind fun border => ?_
  exact Writing.ite (Writing.pure _) (Writing.pure _)

theorem write_writing (node : NodeInfo α) : Writing uses draws builds renders (write node) := by
  refine Writing.settings.bind fun settings => ?_
  refine (decoration_writing node settings.widthUnit).bind fun decoration => ?_
  exact Writing.ite (Writing.pure _) (Writing.pure _)

theorem write_composed (node : NodeInfo α) : Composed draws builds renders declares (write node) :=
  Compile.composed_of_writing (write_writing node)

end Box

namespace Label

/-- The runs of a text whose fonts are recorded: the one that a flat text is written in, or
those with characters. -/
def recorded (node : NodeInfo α) (block : TextBlock α) : List (TextRun α) :=
  if isFlat node block then [block.runs.headD TextRun.usual]
  else (slices block.runs block.text.toList).map (·.1)

theorem warnOfRun_writing (layer : LayerInfo α) (run : TextRun α) :
    Writing uses draws builds renders (warnOfRun layer run) := by
  unfold warnOfRun
  refine Writing.ite_skip (Writing.warn _ layer) ?_
  refine Writing.ite_skip (Writing.warn _ layer) ?_
  exact Writing.ite (Writing.warn _ layer) (Writing.pure ())

theorem warnOfRuns_writing (layer : LayerInfo α) :
    ∀ runs : List (TextRun α), Writing uses draws builds renders (warnOfRuns layer runs)
  | [] => Writing.pure ()
  | run :: rest => (warnOfRun_writing layer run).bind fun _ => warnOfRuns_writing layer rest

theorem warnOf_writing (layer : LayerInfo α) (block : TextBlock α) :
    Writing uses draws builds renders (warnOf layer block) := by
  refine (warnOfRuns_writing layer block.runs).bind fun _ => ?_
  exact Writing.ite (Writing.warn _ layer) (Writing.pure ())

theorem flat_writing (node : NodeInfo α) (block : TextBlock α) (context : TextContext α)
    (used : uses (block.runs.headD TextRun.usual)) :
    Writing uses draws builds renders (flat node block context) := by
  refine (Writing.useFont used).bind fun _ => ?_
  exact Writing.settings.bind fun _ => Writing.pure _

theorem spans_writing (baseline : TextStyle) (context : TextContext α) :
    ∀ slices : List (TextRun α × List Char), (∀ slice ∈ slices, uses slice.1) →
      Writing uses draws builds renders (spans baseline context slices)
  | [], _ => Writing.pure ""
  | (_, _) :: rest, used => by
      obtain ⟨first, others⟩ := List.forall_mem_cons.mp used
      refine (Writing.useFont first).bind fun _ => ?_
      refine Writing.settings.bind fun settings => ?_
      exact (spans_writing baseline context rest others).bind fun _ => Writing.pure _

theorem spans_composed (baseline : TextStyle) (context : TextContext α)
    (slices : List (TextRun α × List Char)) :
    Composed draws builds renders declares (spans baseline context slices) :=
  Compile.composed_of_writing (spans_writing baseline context slices fun _ _ => trivial)

theorem rich_writing (block : TextBlock α) (context : TextContext α)
    (used : ∀ slice ∈ slices block.runs block.text.toList, uses slice.1) :
    Writing uses draws builds renders (rich block context) := by
  refine Writing.settings.bind fun settings => ?_
  exact (spans_writing _ context _ used).bind fun _ => Writing.pure _

theorem context_writing (node : NodeInfo α) (block : TextBlock α) :
    Writing uses draws builds renders (context node block) :=
  (Writing.inheritedOpacity node.layer).bind fun _ => Writing.pure _

theorem write_writing (node : NodeInfo α)
    (used : ∀ block, node.layer.kind = .text block → ∀ run ∈ recorded node block, uses run) :
    Writing uses draws builds renders (write node) := by
  unfold write
  split
  next block known =>
    refine (warnOf_writing node.layer block).bind fun _ => ?_
    refine (context_writing node block).bind fun context => ?_
    have own := used block known
    rw [recorded] at own
    refine Writing.ite_bind (fun isFlat => ?_) (fun isRich => ?_) fun _ => Writing.pure _
    · rw [if_pos isFlat] at own
      exact flat_writing node block context (own _ (List.mem_singleton_self _))
    · rw [if_neg isRich] at own
      exact rich_writing block context fun slice member => own slice.1 (List.mem_map_of_mem member)
  next => exact Writing.pure _

theorem write_composed (node : NodeInfo α) : Composed draws builds renders declares (write node) :=
  Compile.composed_of_writing (write_writing node fun _ _ _ _ => trivial)

end Label

/-- A text records the font of a run when it is written. -/
def NodeInfo.UsesRun (node : NodeInfo α) (run : TextRun α) : Prop :=
  node.kind = .text ∧ ∃ block, node.layer.kind = .text block ∧ run ∈ Label.recorded node block

namespace Picture

theorem write_writing (layout : Layout α) {unit : ShapeUnit α} (drawn : draws unit) :
    Writing uses draws builds renders (write layout unit) := by
  refine (Writing.source drawn).bind fun data => ?_
  refine (Writing.addDirective (by decide)).bind fun _ => ?_
  exact Writing.ite (Writing.pure _) (Writing.pure _)

theorem write_composed (layout : Layout α) {unit : ShapeUnit α} (drawn : draws unit) :
    Composed draws builds renders declares (write layout unit) :=
  Compile.composed_of_writing (write_writing layout drawn)

end Picture

/-- Writing a child is put together from basic steps. -/
def Child.IsWriting (uses : TextRun α → Prop) (draws : ShapeUnit α → Prop) (builds : LayerInfo α → Prop)
    (child : Child α) : Prop :=
  ∀ (edit : Layout α → Layout α), Writing uses draws builds True (child.write edit)

namespace Child

theorem writeList_writing (edit : Layout α → Layout α) :
    ∀ children : List (Child α), (∀ child ∈ children, child.IsWriting uses draws builds) →
      Writing uses draws builds True (writeList edit children)
  | [], _ => Writing.pure _
  | child :: rest, writing => by
      obtain ⟨first, others⟩ := List.forall_mem_cons.mp writing
      refine (first edit).bind fun _ => ?_
      exact (writeList_writing edit rest others).bind fun _ => Writing.pure _

theorem writeStack_writing (children : List (Child α))
    (writing : ∀ child ∈ children, child.IsWriting uses draws builds) :
    Writing uses draws builds True (writeStack children) :=
  (writeList_writing _ children writing).bind fun _ => Writing.pure _

/-- The children whose code is part of the code of a node are writing. -/
def AreWritingIn (uses : TextRun α → Prop) (draws : ShapeUnit α → Prop)
    (builds : LayerInfo α → Prop) (node : NodeInfo α) (children : List (Child α)) : Prop :=
  ∀ child ∈ children, child.node ∈ node.written (nodes children) →
    child.IsWriting uses draws builds

end Child

namespace Root

theorem pageColor_writing (owner : LayerInfo α) :
    Writing uses draws builds renders (pageColor owner) := by
  unfold pageColor
  split
  · exact Writing.pure _
  · exact Writing.pure _
  · exact (Writing.warn _ owner).bind fun _ => Writing.pure _
  · exact (Writing.warn _ owner).bind fun _ => Writing.pure _

theorem pageColor_composed (owner : LayerInfo α) :
    Composed draws builds renders declares (pageColor owner) :=
  Compile.composed_of_writing (pageColor_writing owner)

variable {node : NodeInfo α} (root : node.kind = .widgetRoot) {children : List (Child α)}
  (writing : Child.AreWritingIn uses draws builds node children)

include root writing

theorem writeStack_writing (noSole : node.soleChild? (Child.nodes children) = none) :
    Writing uses draws builds True (Child.writeStack children) := by
  refine Child.writeStack_writing children fun child member => writing child member ?_
  rw [written_of_no_sole root noSole]
  exact List.mem_map_of_mem member

theorem writeBody_writing (page : node.layer.kind = .artboard) :
    Writing uses draws builds True (writeBody node children) := by
  unfold writeBody
  split
  case h_1 first only =>
    split
    case isTrue takes =>
      have last : only ∈ [first, only] := List.mem_cons_of_mem first List.mem_cons_self
      have sole : only.node ∈ node.written (Child.nodes [first, only]) := by
        have alone : node.written (Child.nodes [first, only]) = [only.node] :=
          written_of_sole root (soleChild?_pair root page takes)
        rw [alone]
        exact List.mem_singleton_self _
      exact (writing only last sole _).bind fun _ => Writing.pure _
    case isFalse takesNone =>
      exact writeStack_writing root writing (soleChild?_pair_of_not root takesNone)
  case h_2 different =>
    exact writeStack_writing root writing (soleChild?_of_not_pair root different)

theorem write_writing : Writing uses draws builds True (write node children) := by
  unfold write
  split
  case h_1 page =>
    refine (pageColor_writing _).bind fun color => ?_
    exact (writeBody_writing root writing page).bind fun _ => Writing.pure _
  case h_2 noPage =>
    exact writeStack_writing root writing (soleChild?_of_not_page root noPage _)

end Root

namespace Group

theorem warnOfMask_writing (layer : LayerInfo α) : Writing uses draws builds renders (warnOfMask layer) :=
  Writing.ite (Writing.warn _ layer) (Writing.pure ())

theorem warnOfMask_composed (layer : LayerInfo α) :
    Composed draws builds renders declares (warnOfMask layer) :=
  Compile.composed_of_writing (warnOfMask_writing layer)

theorem writeRendered_writing (node : NodeInfo α) :
    Writing uses draws builds True (writeRendered node) := by
  refine Writing.settings.bind fun settings => ?_
  exact (Writing.addRender node.layer trivial).bind fun _ => Writing.pure _

theorem cells_writing (orientation : Orientation) (unit : String) :
    ∀ (children : List (α × Child α)) (hasTrimmed : Bool),
      (∀ entry ∈ children, entry.2.IsWriting uses draws builds) →
        Writing uses draws builds True (cells orientation unit hasTrimmed children)
  | [], _, _ => Writing.pure _
  | (gap, child) :: rest, hasTrimmed, writing => by
      obtain ⟨first, others⟩ := List.forall_mem_cons.mp writing
      refine (first _).bind fun written => ?_
      refine Writing.ite ?_ ?_
      · exact (cells_writing orientation unit rest hasTrimmed others).bind fun _ => Writing.pure _
      · exact (cells_writing orientation unit rest _ others).bind fun _ => Writing.pure _

theorem onBackground_writing (layer : LayerInfo α) (code unit : String) :
    Writing uses draws builds renders (onBackground layer code unit) := by
  unfold onBackground
  refine Writing.ite_skip (Writing.warn _ layer) ?_
  refine (Writing.inheritedOpacity layer).bind fun opacity => ?_
  dsimp only
  split
  · refine (Writing.noting _).bind fun _ => ?_
    exact (Box.border_writing layer opacity unit).bind fun _ => Writing.pure _
  · refine (Writing.pure none).bind fun _ => ?_
    exact (Box.border_writing layer opacity unit).bind fun _ => Writing.pure _

theorem onBackground_composed (layer : LayerInfo α) (code unit : String) :
    Composed draws builds renders declares (onBackground layer code unit) :=
  Compile.composed_of_writing (onBackground_writing layer code unit)

variable {node : NodeInfo α}

theorem writeFlex_writing (stack : Stack α) (children : List (Child α))
    (writing : ∀ child ∈ children, child.IsWriting uses draws builds) :
    Writing uses draws builds True (writeFlex stack children) := by
  refine Writing.settings.bind fun settings => ?_
  refine (cells_writing _ _ _ _ fun entry member => ?_).bind fun _ => Writing.pure _
  exact writing entry.2 (List.mem_reverse.mp (List.of_mem_zip member).2)

theorem writeChildren_writing (hasBackground : Bool) (children : List (Child α))
    (writing : ∀ child ∈ children, child.IsWriting uses draws builds) :
    Writing uses draws builds True (writeChildren node hasBackground children) := by
  unfold writeChildren
  split
  next stack known => exact writeFlex_writing stack children writing
  next =>
    split
    next only =>
      exact (writing only List.mem_cons_self _).bind fun _ => Writing.pure _
    next => exact Child.writeStack_writing children writing

variable (drawn : node.isDrawnGroup = true)

include drawn

theorem writeContent_writing (first : Child α) (rest : List (Child α))
    (writing : Child.AreWritingIn uses draws builds node (first :: rest)) :
    Writing uses draws builds True (writeContent node first rest) := by
  refine Writing.settings.bind fun settings => ?_
  refine (warnOfMask_writing node.layer).bind fun _ => ?_
  dsimp only
  split
  case isTrue takes =>
    refine (writeChildren_writing true rest fun child member => ?_).bind fun written => ?_
    · refine writing child (List.mem_cons_of_mem first member) ?_
      have others : node.written (Child.nodes (first :: rest)) = Child.nodes rest :=
        written_of_takes drawn takes _
      rw [others]
      exact List.mem_map_of_mem member
    · exact (onBackground_writing _ _ _).bind fun _ => Writing.pure _
  case isFalse takesNone =>
    refine (writeChildren_writing false (first :: rest) fun child member => ?_).bind
      fun _ => Writing.pure _
    refine writing child member ?_
    have all : node.written (Child.nodes (first :: rest)) = Child.nodes (first :: rest) :=
      written_of_takes_none drawn takesNone _
    rw [all]
    exact List.mem_map_of_mem member

theorem write_writing : ∀ children : List (Child α), Child.AreWritingIn uses draws builds node children →
    Writing uses draws builds True (write node children)
  | [], _ => Writing.pure _
  | first :: rest, writing => writeContent_writing drawn first rest writing

theorem writeScroll_writing (direction : ScrollDirection) :
    ∀ children : List (Child α), Child.AreWritingIn uses draws builds node children →
      Writing uses draws builds True (writeScroll node direction children)
  | [], _ => Writing.pure _
  | first :: rest, writing =>
      Writing.settings.bind fun _ =>
        (writeContent_writing drawn first rest writing).bind fun _ => Writing.pure _

end Group

namespace NodeInfo

theorem templateSettings_writing (node : NodeInfo α) (cut : Template.Cut) :
    Writing uses draws builds renders (templateSettings node cut) := by
  unfold templateSettings
  split
  · exact Writing.pure _
  · split
    · exact Writing.pure _
    · exact (Writing.warn _ node.layer).bind fun _ => Writing.pure _

theorem templateSettings_composed (node : NodeInfo α) (cut : Template.Cut) :
    Composed draws builds renders declares (templateSettings node cut) :=
  Compile.composed_of_writing (templateSettings_writing node cut)

theorem writeBuilder_writing (node : NodeInfo α) (children : List (Child α)) :
    Writing uses draws builds renders (writeBuilder node children) :=
  Writing.settings.bind fun _ => Writing.pure _

theorem writeBuilder_composed (node : NodeInfo α) (children : List (Child α)) :
    Composed draws builds renders declares (writeBuilder node children) :=
  Compile.composed_of_writing (writeBuilder_writing node children)

theorem decorate_writing (node : NodeInfo α) (code : String) :
    Writing uses draws builds renders (decorate node code) := by
  refine Writing.settings.bind fun settings => ?_
  refine (Writing.note _).bind fun _ => ?_
  refine (Decorator.applyAll_writing node.decorators _).bind fun decorated => ?_
  exact Writing.ite (Writing.pure _) (Writing.pure _)

theorem decorate_composed (node : NodeInfo α) (code : String) :
    Composed draws builds renders declares (decorate node code) :=
  Compile.composed_of_writing (decorate_writing node code)

section Drawn

variable {node : NodeInfo α} {children : List (Child α)}
  (used : ∀ run, node.UsesRun run → uses run)
  (drawn : ∀ unit, node.kind = .shape unit → draws unit)
  (writing : Child.AreWritingIn uses draws builds node children)

include used drawn writing

theorem writeBody_writing : Writing uses draws builds True (writeBody node children) := by
  unfold writeBody
  split
  case h_1 root => exact (Root.write_writing root writing).bind fun _ => Writing.pure _
  case h_2 => exact (Box.write_writing node).bind fun _ => Writing.pure _
  case h_3 text =>
    refine (Label.write_writing node fun block known run recorded => ?_).bind fun _ => Writing.pure _
    exact used run ⟨text, block, known, recorded⟩
  case h_4 unit shape =>
    exact (Picture.write_writing _ (drawn unit shape)).bind fun _ => Writing.pure _
  case h_5 kind group =>
    split
    case isTrue => exact (Group.writeRendered_writing node).bind fun _ => Writing.pure _
    case isFalse notMarked =>
      have unmarked : node.layer.isMarkedForExport = false := Bool.eq_false_iff.mpr notMarked
      cases kind with
      | instanceOf widget => exact Writing.pure _
      | plain =>
          have isGroup : node.isDrawnGroup = true := by
            simp only [isDrawnGroup, group, unmarked, Bool.not_false]
          exact (Group.write_writing isGroup children writing).bind fun _ => Writing.pure _
      | scroll direction =>
          have isGroup : node.isDrawnGroup = true := by
            simp only [isDrawnGroup, group, unmarked, Bool.not_false]
          exact (Group.writeScroll_writing isGroup direction children writing).bind
            fun _ => Writing.pure _

theorem writeInline_writing : Writing uses draws builds True (writeInline node children) := by
  refine (writeBody_writing used drawn writing).bind fun body => ?_
  refine Writing.ite (Writing.pure _) ?_
  exact (decorate_writing _ _).bind fun _ => Writing.pure _

/-- A group without code builds no method. -/
theorem writeMethod_writing
    (built : node.isEmptyGroup (Child.nodes children) = false → builds node.layer) :
    Writing uses draws builds True (writeMethod node children) := by
  cases empty : node.isEmptyGroup (Child.nodes children) with
  | true =>
      rw [writeMethod, writeInline_of_isEmptyGroup empty]
      exact Writing.pure _
  | false =>
      refine (writeInline_writing used drawn writing).bind fun inline => ?_
      refine Writing.ite (Writing.pure _) ?_
      exact Writing.addMethod (built empty) _ fun settings => Writing.pure _

end Drawn

section Placed

variable {node : NodeInfo α} {children : List (Child α)}
  (used : ∀ run, node.isDrawn = true → node.UsesRun run → uses run)
  (drawn : ∀ unit, node.isDrawn = true → node.kind = .shape unit → draws unit)
  (writing : ∀ child ∈ children, child.node ∈ node.placed (Child.nodes children) →
    child.IsWriting uses draws builds)

include used drawn writing

theorem writeTemplate_writing (custom : node.mode = .custom) :
    Writing uses draws builds True (writeTemplate node children) := by
  unfold writeTemplate
  dsimp only
  split
  case h_1 => exact Writing.pure _
  case h_2 cut found =>
    have place : node.placeholder? = some cut.placeholder := by
      rw [placeholder?, found]
      rfl
    refine (templateSettings_writing node cut).bind fun settings => ?_
    refine Writing.bind ?_ fun _ => Writing.pure _
    cases placeholder : cut.placeholder with
    | children =>
        rw [placeholder] at place
        refine (Child.writeList_writing _ children fun child member => ?_).bind
          fun _ => Writing.pure _
        refine writing child member ?_
        rw [placed_of_children custom place]
        exact List.mem_map_of_mem member
    | this =>
        rw [placeholder] at place
        have isDrawn : node.isDrawn = true := isDrawn_of_this custom place
        have runs := fun run => used run isDrawn
        have units := fun unit => drawn unit isDrawn
        have written : Child.AreWritingIn uses draws builds node children := by
          rw [placed_of_isDrawn isDrawn] at writing
          exact writing
        exact Writing.ite (writeInline_writing runs units written) (writeBody_writing runs units written)

theorem write_writing
    (built : node.mode = .method → node.isEmptyGroup (Child.nodes children) = false →
      builds node.layer) :
    Writing uses draws builds True (write node children) := by
  have inPlace (isDrawn : node.isDrawn = true) : Child.AreWritingIn uses draws builds node children := by
    rw [placed_of_isDrawn isDrawn] at writing
    exact writing
  unfold write
  split
  case h_1 inline =>
    have isDrawn : node.isDrawn = true := by rw [NodeInfo.isDrawn, inline]
    exact writeInline_writing (fun run => used run isDrawn) (fun unit => drawn unit isDrawn)
      (inPlace isDrawn)
  case h_2 isMethod =>
    have isDrawn : node.isDrawn = true := by rw [NodeInfo.isDrawn, isMethod]
    exact writeMethod_writing (fun run => used run isDrawn) (fun unit => drawn unit isDrawn)
      (inPlace isDrawn) (built isMethod)
  case h_3 => exact writeBuilder_writing node children
  case h_4 custom => exact writeTemplate_writing used drawn writing custom

end Placed

end NodeInfo

namespace Node

/-- The units that are drawn when a node is written. -/
def Draws (node : Node α) (unit : ShapeUnit α) : Prop :=
  ∃ part, node.Reaches part ∧ part.isDrawn = true ∧ part.kind = .shape unit

/-- The layers whose methods are built when a node is written. -/
def Builds (node : Node α) (layer : LayerInfo α) : Prop :=
  ∃ part, node.Reaches part ∧ part.mode = .method ∧ part.isEmptyGroup part.children = false ∧
    part.layer = layer

/-- The runs whose fonts are recorded when a node is written. -/
def Records (node : Node α) (run : TextRun α) : Prop :=
  ∃ part, node.Reaches part ∧ part.isDrawn = true ∧ part.UsesRun run

/-- What is used, drawn and built when a node is written is among some runs, some units and
some layers. -/
structure KeepsTo (uses : TextRun α → Prop) (draws : ShapeUnit α → Prop)
    (builds : LayerInfo α → Prop) (node : Node α) : Prop where
  runs : ∀ run, node.Records run → uses run
  units : ∀ unit, node.Draws unit → draws unit
  methods : ∀ layer, node.Builds layer → builds layer

theorem keepsTo_self (node : Node α) : node.KeepsTo node.Records node.Draws node.Builds :=
  ⟨fun _ used => used, fun _ drawn => drawn, fun _ built => built⟩

theorem keepsTo_any (node : Node α) :
    node.KeepsTo (fun _ => True) (fun _ => True) (fun _ => True) :=
  ⟨fun _ _ => trivial, fun _ _ => trivial, fun _ _ => trivial⟩

theorem KeepsTo.child {info : NodeInfo α} {children : List (Node α)} {child : Node α}
    (keeps : KeepsTo uses draws builds ⟨info, children⟩) (placed : child ∈ info.placed children) :
    child.KeepsTo uses draws builds where
  runs := by
    rintro run ⟨part, reaches, used⟩
    exact keeps.runs run ⟨part, Reaches.child placed reaches, used⟩
  units := by
    rintro unit ⟨part, reaches, drawn⟩
    exact keeps.units unit ⟨part, Reaches.child placed reaches, drawn⟩
  methods := by
    rintro layer ⟨part, reaches, built⟩
    exact keeps.methods layer ⟨part, Reaches.child placed reaches, built⟩

mutual

theorem writeWith_writing : ∀ node : Node α, node.KeepsTo uses draws builds →
    ∀ edit : Layout α → Layout α, Writing uses draws builds True (writeWith node edit)
  | ⟨info, children⟩, keeps, edit => by
      rw [writeWith]
      refine NodeInfo.write_writing (fun run isDrawn used => ?_) (fun unit isDrawn shape => ?_)
        (fun child member placed => ?_) fun isMethod present => ?_
      · exact keeps.runs run ⟨⟨info, children⟩, Reaches.self _, isDrawn, used⟩
      · exact keeps.units unit ⟨⟨info, children⟩, Reaches.self _, isDrawn, shape⟩
      · rw [nodes_asChildren] at placed
        exact asChildren_writing children child member (keeps.child placed)
      · rw [nodes_asChildren] at present
        exact keeps.methods info.layer ⟨⟨info, children⟩, Reaches.self _, isMethod, present, rfl⟩

theorem asChildren_writing : ∀ (nodes : List (Node α)), ∀ child ∈ asChildren nodes,
    child.node.KeepsTo uses draws builds → child.IsWriting uses draws builds
  | [], _, member, _ => by
      rw [asChildren] at member
      exact absurd member List.not_mem_nil
  | node :: rest, child, member, keeps => by
      rw [asChildren, List.mem_cons] at member
      rcases member with first | later
      · subst first
        exact writeWith_writing node keeps
      · exact asChildren_writing rest child later keeps

end

theorem isWriting_of_mem_asChildren {nodes : List (Node α)} :
    ∀ child ∈ asChildren nodes,
      child.IsWriting (fun _ => True) (fun _ => True) (fun _ => True) :=
  fun child member => asChildren_writing nodes child member child.node.keepsTo_any

theorem writeBody_composed (info : NodeInfo α) (children : List (Node α)) :
    Composed (fun _ => True) (fun _ => True) True declares
      (NodeInfo.writeBody info (asChildren children)) :=
  Compile.composed_of_writing <| NodeInfo.writeBody_writing (fun _ _ => trivial)
    (fun _ _ => trivial) fun child member _ => isWriting_of_mem_asChildren child member

theorem writeInline_composed (info : NodeInfo α) (children : List (Node α)) :
    Composed (fun _ => True) (fun _ => True) True declares
      (NodeInfo.writeInline info (asChildren children)) :=
  Compile.composed_of_writing <| NodeInfo.writeInline_writing (fun _ _ => trivial)
    (fun _ _ => trivial) fun child member _ => isWriting_of_mem_asChildren child member

theorem writeWith_composed (node : Node α) (edit : Layout α → Layout α) :
    Composed (fun _ => True) (fun _ => True) True declares (node.writeWith edit) :=
  (writeWith_writing node node.keepsTo_any edit).composed

theorem write_framed (node : Node α) : Framed (write node) :=
  (writeWith_writing node node.keepsTo_any _).framed

end Node

end DesignExport
