import DesignExport.Proofs.Compile.Keeps
import DesignExport.Proofs.Expression.Placeholders
import DesignExport.Proofs.Number.Rational
import DesignExport.Proofs.Text.Search
import DesignExport.Proofs.Tree.Reach
set_option autoImplicit false

/-! Templates in the code. A node in custom mode is written as its template, in which the
first placeholder gives way to the code of the children or of the node itself; nothing else
of the template changes, and what is put in is not looked at again. The code of a node does
not depend on its mode, so that the node is written for its own template as if it were inline. -/

namespace DesignExport

variable {α : Type}

/-! ### The template of a layer -/

namespace LayerInfo

variable {layer : LayerInfo α} {property : Property}

/-- A text is read if one is stored that holds more than blanks. -/
theorem textProperty?_eq_some_iff {text : String} :
    layer.textProperty? property = some text ↔ text.toList ≠ [] ∧
      ∃ stored, layer.property? property = some (.text stored) ∧ Text.Trims stored.toList text.toList := by
  have read : ((layer.property? property).bind Json.text?).map Text.trim = some text ↔
      ∃ stored, layer.property? property = some (.text stored) ∧ Text.Trims stored.toList text.toList := by
    rw [Option.map_eq_some_iff]
    refine exists_congr fun stored => and_congr ?_ ?_
    · rw [Option.bind_eq_some_iff]
      constructor
      · rintro ⟨entry, own, isText⟩
        cases entry with
        | text value =>
            cases isText
            exact own
        | _ => cases isText
      · intro own
        exact ⟨.text stored, own, rfl⟩
    · rw [Text.trims_iff, Text.trim, ← String.toList_inj, String.toList_ofList]
  rw [textProperty?, Option.filter_eq_some_iff, read, decide_eq_true_iff, and_comm, ne_eq, ne_eq,
    String.toList_eq_nil_iff]

theorem textProperty?_of_trims {stored : String} {trimmed : List Char}
    (entry : layer.property? property = some (.text stored)) (trims : Text.Trims stored.toList trimmed)
    (filled : trimmed ≠ []) : layer.textProperty? property = some (String.ofList trimmed) := by
  rw [textProperty?_eq_some_iff, String.toList_ofList]
  exact ⟨filled, stored, entry, trims⟩

/-- The text that is stored for a layer without the blanks around it. A layer without such a
text, or with one of nothing but blanks, has the usual template. -/
inductive TemplateIs (layer : LayerInfo α) : List Char → Prop where
  | stored {text : String} {template : List Char}
      (entry : layer.property? .customCode = some (.text text))
      (trims : Text.Trims text.toList template) (filled : template ≠ []) : TemplateIs layer template
  | usual
      (blank : ∀ text, layer.property? .customCode = some (.text text) →
        ∀ char ∈ text.toList, Text.isBlank char = true) :
      TemplateIs layer "Container()".toList

theorem templateIs_iff {template : List Char} :
    layer.TemplateIs template ↔
      ((layer.textProperty? .customCode).getD NodeInfo.usualTemplate).toList = template := by
  constructor
  · rintro (⟨entry, trims, filled⟩ | ⟨blank⟩)
    · rw [textProperty?_of_trims entry trims filled, Option.getD_some, String.toList_ofList]
    · have absent : layer.textProperty? .customCode = none := by
        refine Option.eq_none_iff_forall_ne_some.mpr fun text own => ?_
        obtain ⟨filled, stored, entry, trims⟩ := textProperty?_eq_some_iff.mp own
        exact filled (trims.unique (Text.trims_nil_iff.mpr (blank stored entry)))
      rw [absent]
      rfl
  · rintro rfl
    cases own : layer.textProperty? .customCode with
    | some text =>
        obtain ⟨filled, stored, entry, trims⟩ := textProperty?_eq_some_iff.mp own
        exact .stored entry trims filled
    | none =>
        refine .usual fun text entry => Text.trims_nil_iff.mp ?_
        have trims := Text.trims_trim text.toList
        by_cases gone : Text.trimEnd (Text.trimStart text.toList) = []
        · rwa [gone] at trims
        · rw [textProperty?_of_trims entry trims gone] at own
          cases own

end LayerInfo

/-! ### The mode of a node -/

variable [Scalar α]

namespace NodeInfo

/-- The node in another mode. -/
def inMode (node : NodeInfo α) (mode : ExportMode) : NodeInfo α :=
  { node with mode := mode }

/-- Code, and the node it has been written for in another mode. -/
def writtenInMode (mode : ExportMode) (written : Written α) : Written α :=
  (written.1, { written.2 with mode := mode })

variable (node : NodeInfo α) (mode : ExportMode) (children : List (Child α))

theorem writeBody_inMode :
    writeBody (node.inMode mode) children = writtenInMode mode <$> writeBody node children := by
  obtain ⟨layer, kind, layout, decorators, own, params⟩ := node
  cases kind with
  | widgetRoot => rfl
  | box => rfl
  | text => rfl
  | shape unit => rfl
  | group kind =>
      by_cases marked : layer.isMarkedForExport = true
      · -- The image of a rendered group takes the place of the children.
        simp only [writeBody, inMode, marked, if_true]
        rfl
      · simp only [writeBody, inMode, marked]
        cases kind <;> rfl

theorem writeInline_inMode :
    writeInline (node.inMode mode) children = writtenInMode mode <$> writeInline node children := by
  rw [writeInline, writeInline, writeBody_inMode, bind_map_left, map_bind]
  refine bind_congr fun written => ?_
  obtain ⟨body, written⟩ := written
  change (if body.isEmpty then _ else _) = writtenInMode mode <$> (if body.isEmpty then _ else _)
  split
  · rfl
  · rfl

/-- The node as it is put into its own template, with its layout and its decorators or
without them. -/
def writeItself (decorators : Bool) : Compile α (Written α) :=
  if decorators then (node.inMode .inline).write children
  else (node.inMode .inline).writeBody children

/-- The template is written by a node that gets its mode back. -/
theorem writePlaceholder_this (custom : node.mode = .custom) (settings : Template.Settings) :
    writePlaceholder node children .this settings =
      writtenInMode .custom <$> node.writeItself children settings.decorators := by
  have back : (node.inMode .inline).inMode .custom = node := by
    rw [← custom]
    rfl
  have inline : (node.inMode .inline).write children = writeInline (node.inMode .inline) children := rfl
  rw [writePlaceholder, writeItself, inline, apply_ite (writtenInMode .custom <$> ·), ← writeInline_inMode,
    ← writeBody_inMode, back]

/-- How a node with a template is written: the template as a whole if it has no placeholder,
and otherwise with the first placeholder replaced, as its settings want it. -/
inductive Expands (node : NodeInfo α) (nodes : List (Node α)) (context : Context α)
    (template : List Char) : Written α × Context α → Prop where
  | whole (nowhere : ∀ cut : Template.Cut, ¬cut.IsOf template) :
      Expands node nodes context template ((String.ofList template, ⟨node, nodes⟩), context)
  | children {cut : Template.Cut} {settings : Template.Settings} {codes : String} {written : List (Node α)}
      {noted after : Context α}
      (first : cut.IsFirstOf template) (named : cut.placeholder = .children)
      (wanted : (templateSettings node cut).run context = (settings, noted))
      (listed : (Child.writeList (editForTemplate settings.childLayout) (Node.asChildren nodes)).run noted =
        ((codes, written), after)) :
      Expands node nodes context template
        ((String.ofList cut.before ++ codes ++ String.ofList cut.after, ⟨node, written⟩), after)
  | itself {cut : Template.Cut} {settings : Template.Settings} {code : String} {written : Node α}
      {noted after : Context α}
      (first : cut.IsFirstOf template) (named : cut.placeholder = .this)
      (wanted : (templateSettings node cut).run context = (settings, noted))
      (wrote : (node.writeItself (Node.asChildren nodes) settings.decorators).run noted =
        ((code, written), after)) :
      Expands node nodes context template
        ((String.ofList cut.before ++ code ++ String.ofList cut.after,
          { written with mode := .custom }), after)

theorem writeTemplate_expands (custom : node.mode = .custom) (nodes : List (Node α)) (context : Context α)
    {template : List Char} (own : node.layer.TemplateIs template) :
    Expands node nodes context template
      ((writeTemplate node (Node.asChildren nodes)).run context) := by
  obtain rfl := LayerInfo.templateIs_iff.mp own
  rw [writeTemplate, Node.nodes_asChildren]
  dsimp only
  generalize (node.layer.textProperty? .customCode).getD usualTemplate = template
  -- The computed cut is the first placeholder; the code puts its text around what it writes.
  cases found : Template.cut? template.toList with
  | none =>
      have whole : Expands node nodes context template.toList
          ((String.ofList template.toList, ⟨node, nodes⟩), context) :=
        .whole (Template.cut?_eq_none_iff.mp found)
      rwa [String.ofList_toList] at whole
  | some cut =>
      have first := Template.cut?_eq_some_iff.mp found
      dsimp only
      rw [Compile.run_bind, Compile.run_bind]
      cases named : cut.placeholder with
      | children => exact .children first named rfl rfl
      | this =>
          rw [node.writePlaceholder_this _ custom]
          exact .itself first named rfl rfl

theorem Expands.custom_mode {node : NodeInfo α} {nodes : List (Node α)} {context : Context α}
    {template : List Char} {result : Written α × Context α}
    (expands : Expands node nodes context template result) (custom : node.mode = .custom) :
    result.1.2.mode = .custom := by
  cases expands with
  | whole => exact custom
  | children => exact custom
  | itself => rfl

end NodeInfo

/-- A node in custom mode is written as its template, expanded once, and is in custom mode
again afterwards. -/
theorem Node.writeWith_expands {node : Node α} (custom : node.mode = .custom)
    (edit : Layout α → Layout α) (context : Context α) :
    let edited : NodeInfo α := { node.toNodeInfo with layout := edit node.layout }
    let result := (node.writeWith edit).run context
    (∃ template, node.layer.TemplateIs template) ∧
      (∀ template, node.layer.TemplateIs template →
        edited.Expands node.children context template result) ∧
      result.1.2.mode = .custom := by
  obtain ⟨info, nodes⟩ := node
  intro edited result
  have isTemplate : result = (NodeInfo.writeTemplate edited (asChildren nodes)).run context := by
    have mode : edited.mode = .custom := custom
    change (NodeInfo.write edited (asChildren nodes)).run context = _
    rw [NodeInfo.write, mode]
  have expands : ∀ template, info.layer.TemplateIs template →
      edited.Expands nodes context template result := by
    intro template own
    rw [isTemplate]
    exact edited.writeTemplate_expands custom nodes context own
  obtain ⟨template, own⟩ : ∃ template, info.layer.TemplateIs template :=
    ⟨_, LayerInfo.templateIs_iff.mpr rfl⟩
  exact ⟨⟨template, own⟩, expands, (expands template own).custom_mode custom⟩

/-- A title whose text looks like a placeholder. -/
def tagLayer (template : String) : LayerInfo Rat :=
  let block : TextBlock Rat := { TextBlock.empty with text := "<CHILDREN>" }
  { LayerInfo.usual "title" "Title" (.text block) with
    hasDefaultName := true
    localBounds := ⟨0, 0, 50, 20⟩
    properties := [("exportMode", .text "custom"), ("customCode", .text template)] }

def tagNode (template : String) : Node Rat :=
  ⟨⟨tagLayer template, .text, { Layout.initial with isEnabled := false }, [], .custom, {}⟩, []⟩

def tagStart (template : String) : Context Rat :=
  Context.start
    (Index.ofDocument ⟨[], [⟨LayerInfo.usual "home" "Home" .artboard, [⟨tagLayer template, []⟩]⟩], ⟨[], []⟩⟩)
    {} .clipboard

/-- Blanks around the template, a name with a blank behind it, a placeholder behind the first
one, and a placeholder in the code that is put in. -/
def crowdedTemplate : String :=
  "  <CHILDREN ><THIS\x7b'decorators':true\x7d><CHILDREN>\n"

theorem Node.writeWith_expands_crowdedTemplate :
    let node := tagNode crowdedTemplate
    let result := (node.writeWith id).run (tagStart crowdedTemplate)
    node.mode = .custom ∧
      ((∃ template, node.layer.TemplateIs template) ∧
        (∀ template, node.layer.TemplateIs template →
          node.Expands node.children (tagStart crowdedTemplate) template result) ∧
        result.1.2.mode = .custom) ∧
      result.1.1 = "<CHILDREN >Text('<CHILDREN>', style: TextStyle(fontFamily: 'Helvetica Neue', " ++
        "fontSize: 14, ), softWrap: false, )<CHILDREN>" :=
  ⟨rfl, Node.writeWith_expands rfl id (tagStart crowdedTemplate), by decide +kernel⟩

/-- Of a template that is a blank nothing is left without blanks, and the code is the usual
template. -/
theorem Node.writeWith_blankTemplate :
    let node := tagNode " "
    node.mode = .custom ∧ node.layer.property? .customCode = some (.text " ") ∧
      Text.Trims " ".toList [] ∧ (∀ cut : Template.Cut, ¬cut.IsOf []) ∧
      ((node.writeWith id).run (tagStart " ")).1.1 = "Container()" := by
  refine ⟨rfl, rfl, Text.trims_nil_iff.mpr (List.all_eq_true.mp rfl), Template.Cut.not_isOf_nil, by decide +kernel⟩

end DesignExport
