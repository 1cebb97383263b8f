import DesignExport.Number.Exact
import DesignExport.Proofs.Export.Bodies
import DesignExport.Proofs.Expression.Decorated
import DesignExport.Proofs.Expression.Styles
import DesignExport.Proofs.Tree.Carried
import DesignExport.Proofs.Tree.Parametrized
set_option autoImplicit false

/-! The parameters of the constructor of a widget, and where its code mentions them: in the
handler of a tap, as the text or the colour of a label, as the colour or the image of a box, and
as the builder that stands for a layer. A parameter is registered for a node as the node is
built; it is mentioned when the node is written. In between boxes can be merged, and a node may
stand where nothing is written. -/

namespace DesignExport

variable {α : Type}

section Mentions

open Compile (Composed Files HandsOn Keeps Lasts Leads Shows Tells Yields)
open NodeInfo (call)

/-- The code of a node mentions a parameter by some piece of code. -/
inductive Node.Mentions (part : Node α) (name : String) : String → Prop where
  /-- A tap calls the parameter. -/
  | tap (placed : part.mode = .inline ∨ part.mode = .method)
      (decorated : .tap name ∈ part.decorators)
      (present : part.isEmptyGroup part.children = false) :
      Mentions part name ("GestureDetector(onTap: () => " ++ name ++ "?.call(), child: ")
  | text (isDrawn : part.isDrawn = true) (label : part.kind = .text)
      (named : part.params.text = some name) : Mentions part name ("Text(" ++ name ++ ", ")
  | textColor (isDrawn : part.isDrawn = true) (label : part.kind = .text)
      (named : part.params.fill = some name) : Mentions part name ("color: " ++ name ++ ", ")
  | color {color : Color} (isDrawn : part.isDrawn = true) (box : part.kind = .box)
      (filled : part.layer.activeFill? = some (.color color))
      (named : part.params.fill = some name) : Mentions part name ("color: " ++ name ++ ", ")
  | image {image : ImageFill α} (isDrawn : part.isDrawn = true) (box : part.kind = .box)
      (filled : part.layer.activeFill? = some (.image image))
      (named : part.params.fill = some name) :
      Mentions part name ("DecorationImage(image: " ++ name ++ ", fit: ")
  /-- The builder is called in place of the node. -/
  | builder (isBuilder : part.mode = .builder) (named : part.params.builder = some name) :
      Mentions part name (call name)

/-- Code is written for a node itself, or a builder is called in its place. -/
def Node.HasCode (part : Node α) : Prop :=
  part.mode = .builder ∨ part.isDrawn = true ∧ part.isEmptyGroup part.children = false

theorem NodeInfo.isEmptyGroup_of_closed {node : NodeInfo α} (closed : node.isDrawnGroup = false)
    (children : List (Node α)) : node.isEmptyGroup children = false := by
  rw [isEmptyGroup, closed, Bool.false_and]

theorem NodeInfo.isDrawnGroup_of_label {node : NodeInfo α} (label : node.kind = .text) :
    node.isDrawnGroup = false := by
  rw [isDrawnGroup, label]

theorem NodeInfo.isDrawnGroup_of_box {node : NodeInfo α} (box : node.kind = .box) :
    node.isDrawnGroup = false := by
  rw [isDrawnGroup, box]

theorem NodeInfo.isDrawn_of_placed {node : NodeInfo α}
    (placed : node.mode = .inline ∨ node.mode = .method) : node.isDrawn = true := by
  rw [isDrawn]
  rcases placed with inline | method
  · rw [inline]
  · rw [method]

/-- A node mentions the parameters that it asks for if there is code for it, and no others. -/
theorem Node.exists_mentions_iff {part : Node α} (suits : part.IsParametrized) {name : String} :
    (∃ piece, part.Mentions name piece) ↔ part.Asks name ∧ part.HasCode := by
  have label (own : part.kind = .text) : part.isEmptyGroup part.children = false :=
    NodeInfo.isEmptyGroup_of_closed (NodeInfo.isDrawnGroup_of_label own) _
  have box (own : part.kind = .box) : part.isEmptyGroup part.children = false :=
    NodeInfo.isEmptyGroup_of_closed (NodeInfo.isDrawnGroup_of_box own) _
  constructor
  · rintro ⟨_, tap⟩
    cases tap with
    | tap placed decorated present =>
        exact ⟨.tap decorated, Or.inr ⟨NodeInfo.isDrawn_of_placed placed, present⟩⟩
    | text isDrawn own named => exact ⟨.text named, Or.inr ⟨isDrawn, label own⟩⟩
    | textColor isDrawn own named => exact ⟨.fill named, Or.inr ⟨isDrawn, label own⟩⟩
    | color isDrawn own filled named => exact ⟨.fill named, Or.inr ⟨isDrawn, box own⟩⟩
    | image isDrawn own filled named => exact ⟨.fill named, Or.inr ⟨isDrawn, box own⟩⟩
    | builder isBuilder named => exact ⟨.builder named, Or.inl isBuilder⟩
  · rintro ⟨asks, code⟩
    cases asks with
    | tap decorated =>
        have placed := suits.tap name decorated
        rcases code with isBuilder | ⟨-, present⟩
        · rw [isBuilder] at placed
          exact placed.elim nofun nofun
        · exact ⟨_, .tap placed decorated present⟩
    | text named =>
        obtain ⟨notBuilder, own⟩ := suits.params.text name named
        exact ⟨_, .text (code.resolve_left notBuilder).1 own named⟩
    | fill named =>
        obtain ⟨notBuilder, own⟩ := suits.params.fill name named
        have isDrawn := (code.resolve_left notBuilder).1
        rcases own with own | ⟨own, ⟨color, filled⟩ | ⟨image, filled⟩⟩
        · exact ⟨_, .textColor isDrawn own named⟩
        · exact ⟨_, .color isDrawn own filled named⟩
        · exact ⟨_, .image isDrawn own filled named⟩
    | builder named => exact ⟨_, .builder (suits.params.builder name named) named⟩

/-- What mentions a parameter stands out in its tree. -/
theorem Node.Mentions.standsOut {part : Node α} {name piece : String}
    (mentions : part.Mentions name piece) : part.StandsOut := by
  cases mentions with
  | tap _ decorated _ => exact Or.inl fun bare => absurd (bare.1 ▸ decorated) List.not_mem_nil
  | text _ label _ => exact Or.inr (Or.inl label)
  | textColor _ label _ => exact Or.inr (Or.inl label)
  | color _ box _ _ => exact Or.inr (Or.inr box)
  | image _ box _ _ => exact Or.inr (Or.inr box)
  | builder isBuilder _ =>
      refine Or.inl fun bare => ?_
      rw [bare.2] at isBuilder
      cases isBuilder

/-- Whether a node mentions a parameter depends on little of the node. -/
theorem Node.Mentions.transfer {one other : Node α} {name piece : String}
    (mentions : one.Mentions name piece) (layer : one.layer = other.layer)
    (decorators : one.decorators = other.decorators) (mode : one.mode = other.mode)
    (params : one.params = other.params) (label : one.kind = .text → other.kind = .text)
    (box : one.kind = .box → other.kind = .box)
    (empty : one.isEmptyGroup one.children = other.isEmptyGroup other.children) :
    other.Mentions name piece := by
  have drawn : one.isDrawn = other.isDrawn := by
    rw [NodeInfo.isDrawn, NodeInfo.isDrawn, NodeInfo.placeholder?, NodeInfo.placeholder?, mode, layer]
  cases mentions with
  | tap placed decorated present =>
      exact .tap (mode ▸ placed) (decorators ▸ decorated) (empty ▸ present)
  | text isDrawn own named => exact .text (drawn ▸ isDrawn) (label own) (params ▸ named)
  | textColor isDrawn own named => exact .textColor (drawn ▸ isDrawn) (label own) (params ▸ named)
  | color isDrawn own filled named =>
      exact .color (drawn ▸ isDrawn) (box own) (layer ▸ filled) (params ▸ named)
  | image isDrawn own filled named =>
      exact .image (drawn ▸ isDrawn) (box own) (layer ▸ filled) (params ▸ named)
  | builder isBuilder named => exact .builder (mode ▸ isBuilder) (params ▸ named)

/-- The node in the place of another one mentions the same parameters. -/
theorem Node.Carries.mentions_iff {carrier part : Node α} (carries : carrier.Carries part)
    {name piece : String} : carrier.Mentions name piece ↔ part.Mentions name piece := by
  have label : carrier.kind = .text ↔ part.kind = .text := by
    rcases carries.kind with same | ⟨plain, shape⟩
    · rw [same]
    · rw [plain]
      refine ⟨fun own => ?_, fun own => by cases own⟩
      rw [NodeInfo.isShape, own] at shape
      cases shape
  have box : carrier.kind = .box ↔ part.kind = .box := by
    rcases carries.kind with same | ⟨plain, shape⟩
    · rw [same]
    · rw [plain]
      refine ⟨fun own => ?_, fun own => by cases own⟩
      rw [NodeInfo.isShape, own] at shape
      cases shape
  constructor
  · exact fun mentions => mentions.transfer carries.layer carries.decorators carries.mode
      carries.params label.mp box.mp carries.isEmptyGroup
  · exact fun mentions => mentions.transfer carries.layer.symm carries.decorators.symm
      carries.mode.symm carries.params.symm label.mpr box.mpr carries.isEmptyGroup.symm

/-! ### Labels and boxes -/

section

variable [Scalar α] {node : NodeInfo α} {name : String}

namespace Label

/-- What a flat label shows, the whole label shows. -/
theorem write_yields_of_flat {shows : String → Prop} (survives : SurvivesEdits shows)
    {block : TextBlock α} (label : node.layer.kind = .text block)
    (isFlat : isFlat node block = true)
    (shown : ∀ colors, colors.colorParam = node.params.fill →
      Yields (flat node block colors) shows) :
    Yields (write node) (fun result => shows result.1) := by
  have colored : Yields (context node block) (fun colors => colors.colorParam = node.params.fill) :=
    Yields.bind_any fun _ => Yields.pure rfl
  unfold write
  rw [label]
  refine Yields.bind_any fun _ => Yields.bind colored fun colors same => ?_
  dsimp only
  rw [if_pos isFlat]
  refine Yields.bind (shown colors same) fun code known => Yields.pure ?_
  refine place_shows survives _ _ ?_
  split
  · exact survives.between known _ _
  · exact known

theorem write_yields_text {block : TextBlock α} (label : node.layer.kind = .text block)
    (named : node.params.text = some name) :
    Yields (write node) (fun result => ShowsPiece ("Text(" ++ name ++ ", ") result.1) := by
  have survives := survivesEdits_showsPiece ("Text(" ++ name ++ ", ")
  refine write_yields_of_flat survives label ?_ fun colors _ => ?_
  · rw [isFlat, named]
    simp
  · refine Yields.bind_any fun _ => Yields.bind_any fun settings => Yields.pure ?_
    rw [named, Option.getD_some]
    have text : "Text(" ++ name ++ ", " ≠ "" := append_ne_empty_of_right _ (by decide)
    exact survives.behind _ (survives.behind _ (survives.behind _ (showsPiece_self text)))

theorem write_yields_color {block : TextBlock α} (label : node.layer.kind = .text block)
    (named : node.params.fill = some name) :
    Yields (write node) (fun result => ShowsPiece ("color: " ++ name ++ ", ") result.1) := by
  have survives := survivesEdits_showsPiece ("color: " ++ name ++ ", ")
  refine write_yields_of_flat survives label ?_ fun colors same => ?_
  · rw [isFlat, named]
    simp
  · refine Yields.bind_any fun _ => Yields.bind_any fun settings => Yields.pure ?_
    have entry : (StyleKey.color, name) ∈
        TextStyle.ofRun (block.runs.headD TextRun.usual) colors settings .full := by
      refine List.mem_filterMap.mpr ⟨.color, by decide, ?_⟩
      rw [TextStyle.value?, same, named]
      rfl
    exact survives.behind _ (survives.behind _ (survives.before _ (styleArgument_shows entry)))

end Label

namespace Box

/-- What the filling of a box shows, the whole box shows. -/
theorem write_yields_of_filling {shows : String → Prop} (survives : SurvivesEdits shows)
    (shown : ∀ opacity, Yields (filling node opacity) (fun filling => shows filling.write)) :
    Yields (write node) (fun result => shows result.1) := by
  have decorated (unit : String) : Yields (decoration node unit) shows := by
    refine Yields.bind_any fun opacity => Yields.bind (shown opacity) fun filling known => ?_
    refine Yields.bind_any fun border => ?_
    refine Yields.ite (fun _ => Yields.pure known) fun _ => Yields.pure ?_
    exact survives.behind _ (survives.behind _ (survives.before _ known))
  refine Yields.bind_any fun settings => Yields.bind (decorated _) fun decoration known => ?_
  refine Yields.ite (fun _ => Yields.pure ?_) fun _ => Yields.pure ?_
  · exact survives.behind _ (survives.behind _ (survives.before _ known))
  · exact survives.behind _ (survives.before _ known)

theorem write_yields_color {color : Color} (filled : node.layer.activeFill? = some (.color color))
    (named : node.params.fill = some name) :
    Yields (write node) (fun result => ShowsPiece ("color: " ++ name ++ ", ") result.1) := by
  refine write_yields_of_filling (survivesEdits_showsPiece _) fun opacity => ?_
  unfold filling
  rw [filled, named]
  exact Yields.pure (showsPiece_self (append_ne_empty_of_right _ (by decide)))

theorem write_yields_image {image : ImageFill α}
    (filled : node.layer.activeFill? = some (.image image))
    (named : node.params.fill = some name) : Yields (write node)
      (fun result => ShowsPiece ("DecorationImage(image: " ++ name ++ ", fit: ") result.1) := by
  have survives := survivesEdits_showsPiece ("DecorationImage(image: " ++ name ++ ", fit: ")
  refine write_yields_of_filling survives fun opacity => ?_
  unfold filling
  rw [filled, named]
  refine Yields.pure (survives.between ?_ _ _)
  have text : "DecorationImage(image: " ++ name ++ ", fit: " ≠ "" :=
    append_ne_empty_of_right _ (by decide)
  exact survives.behind _ (survives.behind _ (survives.behind _ (survives.behind _
    (showsPiece_self text))))

end Box

/-! ### Mentions in the whole code -/

namespace Node

variable {part : Node α} {piece : String} {start : Context α} {fact : Context α → Prop}
  (lasts : Lasts (fun _ => True) fact)

include lasts

/-- A node tells what it mentions. -/
theorem Mentions.tells {name : String} (mentions : part.Mentions name piece)
    (label : part.kind = .text → ∃ block, part.layer.kind = .text block)
    (files : Files (ShowsPiece piece) fact) (edit : Layout α → Layout α) :
    Tells start (ShowsPiece piece) fact (part.writeWith edit) := by
  have handsOn : HandsOn (ShowsPiece piece) fact := handsOn_showsOneOf _ lasts
  cases mentions with
  | tap placed decorated present =>
      refine writeWith_tells_of_decorator (NodeInfo.isDecorated_of_placed placed) decorated label
        present handsOn files (fun code => Yields.pure ?_) edit
      have text : "GestureDetector(onTap: () => " ++ name ++ "?.call(), child: " ≠ "" :=
        append_ne_empty_of_right _ (by decide)
      exact handsOn.survives.behind _ (handsOn.survives.behind _ (showsPiece_self text))
  | text isDrawn text named =>
      obtain ⟨block, own⟩ := label text
      refine writeWith_tells_of_writeBody handsOn files isDrawn (fun edit => ?_) edit
      rw [NodeInfo.writeBody, text]
      exact Yields.bind (Label.write_yields_text own named) fun _ shown => Yields.pure shown
  | textColor isDrawn text named =>
      obtain ⟨block, own⟩ := label text
      refine writeWith_tells_of_writeBody handsOn files isDrawn (fun edit => ?_) edit
      rw [NodeInfo.writeBody, text]
      exact Yields.bind (Label.write_yields_color own named) fun _ shown => Yields.pure shown
  | color isDrawn box filled named =>
      refine writeWith_tells_of_writeBody handsOn files isDrawn (fun edit => ?_) edit
      rw [NodeInfo.writeBody, box]
      exact Yields.bind (Box.write_yields_color filled named) fun _ shown => Yields.pure shown
  | image isDrawn box filled named =>
      refine writeWith_tells_of_writeBody handsOn files isDrawn (fun edit => ?_) edit
      rw [NodeInfo.writeBody, box]
      exact Yields.bind (Box.write_yields_image filled named) fun _ shown => Yields.pure shown
  | builder isBuilder named =>
      intro context same
      have composed : Composed (fun _ => True) (fun _ => True) True True (part.writeWith edit) :=
        writeWith_composed part edit
      have called := writeWith_yields_call isBuilder named edit context
      refine ⟨Or.inl ?_, (composed.framed.idle_eq context).trans same⟩
      rw [called]
      exact showsPiece_self (call_ne_empty name)

end Node

end

end Mentions

/-! ### Parameters -/

namespace Node

/-- A tree that is written mentions a parameter by some piece of code. -/
def MentionsBelow (tree : Node α) (name piece : String) : Prop :=
  ∃ part, tree.Reaches part ∧ part.Mentions name piece

/-- A part from before the shape pass is written after it. -/
def Keeps (tree part : Node α) : Prop :=
  ∃ carrier, tree.Reaches carrier ∧ carrier.Carries part

variable [Scalar α]

/-- Why a part from before the shape pass is not written after it: it is a box that is
merged, or it is passed over. -/
def Drops (root tree part : Node α) (eager : Bool) : Prop :=
  (part.kind = .box ∧ ∃ run ∈ root.mergedRuns eager, part ∈ run) ∨
    ∃ carrier, carrier.Carries part ∧ tree.PassesOver carrier

omit [Scalar α] in
/-- Parameters are for what stands out. -/
theorem standsOut_of_asks {part : Node α} (suits : part.IsParametrized) {name : String}
    (asks : part.Asks name) : part.StandsOut := by
  cases asks with
  | tap decorated => exact Or.inl fun bare => absurd (bare.1 ▸ decorated) List.not_mem_nil
  | text named => exact Or.inr (Or.inl (suits.params.text name named).2)
  | fill named => exact Or.inr ((suits.params.fill name named).2.imp_right And.left)
  | builder named =>
      refine Or.inl fun bare => ?_
      have isBuilder := suits.params.builder name named
      rw [bare.2] at isBuilder
      cases isBuilder

/-- A node that mentions a parameter is written after the shape pass unless there is a
reason why not. -/
theorem keeps_or_drops {root part : Node α} {eager : Bool} (built : root.IsAsBuilt)
    (inside : part ∈ root.parts) (stands : part.StandsOut) :
    (root.combineShapes eager).Keeps part ∨ root.Drops (root.combineShapes eager) part eager := by
  rcases exists_carrier stands root eager built inside with ⟨carrier, kept, carries⟩ | merged
  · rcases reaches_or_passesOver kept with reached | passed
    · exact Or.inl ⟨carrier, reached, carries⟩
    · exact Or.inr (Or.inr ⟨carrier, carries, passed⟩)
  · exact Or.inr (Or.inl merged)

/-- After the shape pass those parameters are mentioned that a part asked for before it, of
which there is code and which is kept. -/
theorem mentionsBelow_combineShapes_iff {root : Node α} (built : root.IsAsBuilt)
    (suits : root.Throughout NodeInfo.IsParametrized) (eager : Bool) {name : String} :
    (∃ piece, (root.combineShapes eager).MentionsBelow name piece) ↔
      ∃ part ∈ root.parts, part.Asks name ∧ part.HasCode ∧ (root.combineShapes eager).Keeps part := by
  constructor
  · rintro ⟨piece, carrier, reached, mentions⟩
    obtain ⟨part, inside, carries⟩ :=
      exists_of_carrier mentions.standsOut root eager built reached.mem_parts
    obtain ⟨asks, code⟩ :=
      (exists_mentions_iff (suits part inside)).mp ⟨piece, carries.mentions_iff.mp mentions⟩
    exact ⟨part, inside, asks, code, carrier, reached, carries⟩
  · rintro ⟨part, inside, asks, code, carrier, reached, carries⟩
    obtain ⟨piece, mentions⟩ := (exists_mentions_iff (suits part inside)).mpr ⟨asks, code⟩
    exact ⟨piece, carrier, reached, carries.mentions_iff.mpr mentions⟩

end Node

variable [Scalar α]

/-- The parameters of a widget are those that the parts of its tree ask for. A parameter is
mentioned in the code of the widget or of a method, but for methods that are lost with a
warning, if a part that asks for it has code and is kept by the shape pass and in what is
written; otherwise no node that is written mentions it. A part is kept unless it is a box
that is merged with its neighbours, or is passed over. -/
theorem compileWidget_parameters (layer : Layer α) (start : Context α) :
    let root := ((Node.buildRoot layer).run start).1
    let tree := ((widgetTree layer).run start).1
    let className := ((widgetClass layer.toLayerInfo).run start).1
    let code := ((widgetCode layer className).run start).1
    (∀ name, name ∈ code.2.params.keys ↔ ∃ part ∈ root.parts, part.Asks name) ∧
      (∀ name, (∃ piece, tree.MentionsBelow name piece) ↔
        ∃ part ∈ root.parts, part.Asks name ∧ part.HasCode ∧ tree.Keeps part) ∧
      (∀ name piece, tree.MentionsBelow name piece → ShowsInBody piece code.1 code.2 ∨
        ((compileWidget layer).run start.bare).2.WarnsOfMethod) ∧
      ∀ part ∈ root.parts, ∀ name, part.Asks name →
        tree.Keeps part ∨ root.Drops tree part start.settings.combineShapes := by
  intro root tree className code
  have shapes : tree = root.combineShapes start.settings.combineShapes := widgetTree_run layer start
  have isBuilt := Node.buildRoot_yields layer start
  have suits := Node.buildRoot_yields_isParametrized layer start
  refine ⟨fun name => ?_, fun name => ?_, fun name piece mentions => ?_, ?_⟩
  · have meets : code.2.Meets root.demands := widgetCode_meets layer start
    rw [WidgetScope.mem_keys_iff_of_demands_eq meets.demands_eq, Node.mem_names_demands]
  · rw [shapes]
    exact Node.mentionsBelow_combineShapes_iff isBuilt suits _
  · obtain ⟨part, reached, own⟩ := mentions
    exact reached.showsInCode fun _ label lasts files => own.tells lasts label files
  · intro part inside name asks
    rw [shapes]
    exact Node.keeps_or_drops isBuilt inside (Node.standsOut_of_asks (suits part inside) asks)

/-- A page with a dot on a background whose colour is a parameter. -/
def tintedPage : Layer Rat :=
  let back : LayerInfo Rat :=
    { LayerInfo.usual "back" "bg" .ellipse with
      fill := some (.color ⟨255, 0, 0, 255⟩)
      properties := [("colorParamName", .text "tint")] }
  let dot : LayerInfo Rat :=
    { LayerInfo.usual "dot" "Dot" .ellipse with
      hasDefaultName := true
      fill := some (.color ⟨0, 0, 255, 255⟩) }
  ⟨{ LayerInfo.usual "home" "Home" .artboard with hasDefaultName := true },
    [⟨back, []⟩, ⟨dot, []⟩]⟩

/-- The page takes the colour of the layer. The parameter is never used, and nothing is said
about that. -/
theorem parameters_tintedPage :
    let start := Context.start (Index.ofDocument ⟨[], [tintedPage], ⟨[], []⟩⟩) {} .files
    let code := ((widgetCode tintedPage "Home").run start).1
    ((compileWidget tintedPage).run start).2.log = [] ∧
      code.2.params.keys = ["tint"] ∧ code.2.methods = [] ∧
        ¬ "tint".toList <:+: code.1.toList := by
  decide +kernel

end DesignExport
