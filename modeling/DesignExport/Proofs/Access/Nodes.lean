import DesignExport.Expression.Label
import DesignExport.Expression.Node
import DesignExport.Proofs.Access.Groups
import DesignExport.Proofs.Access.Shapes
import DesignExport.Proofs.Access.Steps
import DesignExport.Proofs.Expression.Placeholders
import DesignExport.Proofs.Tree.Throughout
set_option autoImplicit false

/-! The accesses of nodes: the first run of a rich text and the characters of each run, which
are found by indices, the code in front of a comment and behind it, and the template in front of
its placeholder and behind it. Every index is in range if no length overflows when it is added to
a position in the text, so that a tree is written without an access that is out of range if the
runs of its texts are bounded. -/

namespace DesignExport

variable {α : Type}

/-! ### Rich texts -/

section Labels

open Access (between? between?_eq_some between?_length sum? sum?_eq_some)
open Checked (Meets)

/-- The lengths of runs can be added to any position in the text. -/
def TextBlock.IsBounded (block : TextBlock α) : Prop :=
  ∀ run ∈ block.runs, block.text.toList.length + run.length < UInt64.size

instance (block : TextBlock α) : Decidable block.IsBounded :=
  inferInstanceAs (Decidable (∀ run ∈ block.runs, block.text.toList.length + run.length < UInt64.size))

def LayerKind.text? : LayerKind α → Option (TextBlock α)
  | .text block => some block
  | _ => none

/-- If the layer is a text, its runs are bounded. -/
def LayerInfo.HasBoundedRuns (layer : LayerInfo α) : Prop :=
  ∀ block ∈ layer.kind.text?, block.IsBounded

instance (layer : LayerInfo α) : Decidable layer.HasBoundedRuns :=
  inferInstanceAs (Decidable (∀ block ∈ layer.kind.text?, block.IsBounded))

namespace Label

/-- Where the characters of a run end that start at some index. -/
def checkedStop (block : TextBlock α) (index start : Nat) (run : TextRun α) : Option Nat :=
  let length := block.text.toList.length
  if index = block.runs.length - 1 then some length
  else (sum? start run.length).map fun sum => min sum length

variable [Scalar α]

/-- The spans of the runs from an index on, whose characters start at another index. -/
def checkedSpans (block : TextBlock α) (baseline : TextStyle) (context : TextContext α) :
    Nat → Nat → List (TextRun α) → Checked α String
  | _, _, [] => pure ""
  | index, start, run :: rest =>
      if run.length = 0 then checkedSpans block baseline context (index + 1) start rest
      else do
        Checked.of (useFont run)
        let stop ← checkedStop block index start run
        let text ← between? block.text.toList (min start stop) stop
        let style := TextStyle.ofRun run context (← Checked.of Compile.settings) .run
        let others ← checkedSpans block baseline context (index + 1) stop rest
        pure (span text (style.delta baseline) ++ others)

def checkedRich (block : TextBlock α) (context : TextContext α) : Checked α String := do
  let settings ← Checked.of Compile.settings
  let first ← block.runs[0]?
  let baseline := TextStyle.ofRun first context settings .baseline
  let spans ← checkedSpans block baseline context 0 0 block.runs
  pure ("Text.rich(TextSpan(" ++ styleArgument baseline ++ "children: [" ++ spans ++ "], ), " ++
    lastArguments block ++ ")")

def checkedWrite (node : NodeInfo α) : Checked α (String × Layout α) := do
  match node.layer.kind with
  | .text block =>
      Checked.of (warnOf node.layer block)
      let context ← Checked.of (context node block)
      let code ←
        if isFlat node block then Checked.of (flat node block context)
        else checkedRich block context
      let clipped := if block.isClipped then Scroll.vertical code else code
      pure (place node.layout block clipped)
  | _ => pure ("", node.layout)

variable {block : TextBlock α}

omit [Scalar α] in
/-- A run with characters ends in the text, and the runs behind it start there. -/
theorem exists_checkedStop (bounded : block.IsBounded) {index start : Nat} {run : TextRun α}
    {rest : List (TextRun α)} (counted : index + (run :: rest).length = block.runs.length)
    (among : run ∈ block.runs) (inside : start ≤ block.text.toList.length)
    (covers : run.length ≠ 0) :
    ∃ stop, checkedStop block index start run = some stop ∧ start ≤ stop ∧
      stop ≤ block.text.toList.length ∧
      slices (run :: rest) (block.text.toList.drop start) =
        (run, (block.text.toList.take stop).drop start) :: slices rest (block.text.toList.drop stop) := by
  have isLast : index = block.runs.length - 1 ↔ rest = [] := by
    rw [List.length_cons] at counted
    rw [← List.length_eq_zero_iff]
    omega
  unfold checkedStop
  rw [slices, if_neg covers]
  by_cases last : rest = []
  · refine ⟨block.text.toList.length, if_pos (isLast.mpr last), inside, Nat.le_refl _, ?_⟩
    rw [last, List.take_length]
    rfl
  · -- Not the last run: its end is a sum, cut off at the end of the text.
    have fits := bounded run among
    refine ⟨min (start + run.length) block.text.toList.length, ?_, ?_, Nat.min_le_right _ _, ?_⟩
    · rw [if_neg (fun same => last (isLast.mp same)), sum?_eq_some (by omega)]
      rfl
    · omega
    · have more : rest.isEmpty = false := List.isEmpty_eq_false_iff.mpr last
      have text : (block.text.toList.drop start).take run.length =
          (block.text.toList.take (min (start + run.length) block.text.toList.length)).drop start := by
        rw [List.drop_take, List.take_eq_take_iff, List.length_drop]
        omega
      have behind : (block.text.toList.drop start).drop run.length =
          block.text.toList.drop (min (start + run.length) block.text.toList.length) := by
        rw [List.drop_drop, List.drop_eq_drop_min]
      rw [more, text, behind]
      rfl

/-- The runs that remain have the characters that remain. -/
theorem checkedSpans_meets (bounded : block.IsBounded) (baseline : TextStyle)
    (context : TextContext α) (runs : List (TextRun α)) :
    ∀ index start : Nat, index + runs.length = block.runs.length → runs ⊆ block.runs →
      start ≤ block.text.toList.length →
      Meets (checkedSpans block baseline context index start runs)
        (spans baseline context (slices runs (block.text.toList.drop start))) := by
  induction runs with
  | nil =>
      intro index start _ _ _
      rw [checkedSpans, slices, spans]
      exact Meets.pure ""
  | cons run rest ih =>
      -- `index` counts the runs of the block, `start` stays a position of the text.
      intro index start counted among inside
      have later : index + 1 + rest.length = block.runs.length := by
        rw [← counted, List.length_cons]
        omega
      have others := List.subset_of_cons_subset among
      rw [checkedSpans]
      by_cases bare : run.length = 0
      · rw [if_pos bare, slices, if_pos bare]
        exact ih (index + 1) start later others inside
      · obtain ⟨stop, ends, ordered, within, cut⟩ :=
          exists_checkedStop bounded counted (among List.mem_cons_self) inside bare
        rw [if_neg bare, cut, spans]
        apply (Meets.of (useFont run)).bind
        intro _
        apply Meets.access ends
        have text : between? block.text.toList (min start stop) stop =
            some ((block.text.toList.take stop).drop start) := by
          rw [Nat.min_eq_left ordered, between?_eq_some ordered within]
        apply Meets.access text
        apply (Meets.of Compile.settings).bind
        intro settings
        apply (ih (index + 1) stop later others within).bind
        intro spans
        exact Meets.pure _

theorem checkedRich_meets (bounded : block.IsBounded) (several : block.runs ≠ [])
    (context : TextContext α) : Meets (checkedRich block context) (rich block context) := by
  apply (Meets.of Compile.settings).bind
  intro settings
  have first : block.runs[0]? = some (block.runs.headD TextRun.usual) := by
    cases runs : block.runs with
    | nil => exact absurd runs several
    | cons run rest => rfl
  apply Meets.access first
  apply (checkedSpans_meets bounded _ context block.runs 0 0 (Nat.zero_add _) (List.Subset.refl _)
    (Nat.zero_le _)).bind
  intro spans
  exact Meets.pure _

/-- A text that is not flat has several runs. -/
theorem checkedWrite_meets {node : NodeInfo α} (bounded : node.layer.HasBoundedRuns) :
    Meets (checkedWrite node) (write node) := by
  unfold checkedWrite write
  cases kind : node.layer.kind with
  | text block =>
      have fits : block.IsBounded := by
        apply bounded block
        rw [kind]
        rfl
      apply (Meets.of (warnOf node.layer block)).bind
      intro _
      apply (Meets.of (context node block)).bind
      intro context
      apply Meets.ite_bind
      · intro _
        exact Meets.of _
      · intro isRich
        apply checkedRich_meets fits
        intro none
        apply isRich
        simp [isFlat, none]
      · intro code
        exact Meets.pure _
  | _ => exact Meets.pure _

end Label

end Labels

open Access (cutAt? cutAt?_append position? position?_eq)
open Checked (Meets)
open Text (byteCount byteCount_append)

/-! ### Comments -/

/-- The comment stands behind the byte of the first parenthesis. -/
def checkedLayerComment (code : String) (layer : LayerInfo α) : Option String := do
  let name := Text.shorten (Text.trim layer.name) commentLength
  let line := "// Layer: '" ++ name ++ "' (" ++ layer.kind.label ++ ")\n"
  match position? '(' code.toList with
  | some position =>
      let (before, after) ← cutAt? (position + 1) code.toList
      pure (String.ofList before ++ "\n" ++ line ++ String.ofList after)
  | none => pure (line ++ code)

/-- A parenthesis has one byte, so the code can be cut behind it. -/
theorem checkedLayerComment_eq (code : String) (layer : LayerInfo α) :
    checkedLayerComment code layer = some (layerComment code layer) := by
  unfold checkedLayerComment layerComment
  rw [position?_eq]
  cases found : Text.cutAround? ['('] code.toList with
  | none => rfl
  | some parts =>
      obtain ⟨before, after⟩ := parts
      -- The byte behind the parenthesis is where the text up to it ends.
      have behind : byteCount before + 1 = byteCount (before ++ ['(']) :=
        (byteCount_append before ['(']).symm
      have cut := cutAt?_append (before ++ ['(']) after
      rw [← Text.eq_append_of_cutAround? found] at cut
      have text : String.ofList (before ++ ['(']) ++ "\n" = String.ofList before ++ "(\n" := by
        rw [String.ofList_append, String.append_assoc]
        rfl
      simp only [Option.map_some, behind, cut, Option.bind_eq_bind, Option.bind_some, text]
      rfl

/-! ### Nodes -/

variable [Scalar α]

namespace NodeInfo

def checkedBody (node : NodeInfo α) (children : List (CheckedChild α)) : Checked α (Written α) := do
  match node.kind with
  | .widgetRoot => do
      let (code, nodes) ← Root.checkedWrite node children
      pure (code, ⟨node, nodes⟩)
  | .box => do
      let (code, layout) ← Checked.of (Box.write node)
      pure (code, ⟨{ node with layout := layout }, CheckedChild.nodes children⟩)
  | .text => do
      let (code, layout) ← Label.checkedWrite node
      pure (code, ⟨{ node with layout := layout }, CheckedChild.nodes children⟩)
  | .shape unit => do
      let (code, layout, known) ← Picture.checkedWrite node.layout unit
      pure (code,
        ⟨{ node with layout := layout, kind := .shape known }, CheckedChild.nodes children⟩)
  | .group kind =>
      if node.layer.isMarkedForExport then do
        let (code, layout) ← Checked.of (Group.writeRendered node)
        pure (code, ⟨{ node with layout := layout }, CheckedChild.nodes children⟩)
      else
        match kind with
        | .instanceOf widget => pure (widget ++ "()", ⟨node, CheckedChild.nodes children⟩)
        | .plain => do
            let (code, nodes) ← Group.checkedWrite node children
            pure (code, ⟨node, nodes⟩)
        | .scroll direction => do
            let (code, nodes) ← Group.checkedScroll node direction children
            pure (code, ⟨node, nodes⟩)

def checkedDecorate (node : NodeInfo α) (code : String) : Checked α (String × Layout α) := do
  let settings ← Checked.of Compile.settings
  let (placed, layout, log) := node.layout.wrap code node.layer settings.widthUnit
  Checked.of (Compile.note log)
  let decorated ← Checked.of (Decorator.applyAll placed node.decorators)
  if settings.includeNameComments && !node.layer.hasDefaultName then
    let commented ← checkedLayerComment decorated node.layer
    pure (commented, layout)
  else pure (decorated, layout)

def checkedInline (node : NodeInfo α) (children : List (CheckedChild α)) : Checked α (Written α) := do
  let (body, written) ← checkedBody node children
  if body.isEmpty then pure (body, written)
  else
    let (code, layout) ← written.checkedDecorate body
    pure (code, { written with layout := layout })

def checkedMethod (node : NodeInfo α) (children : List (CheckedChild α)) : Checked α (Written α) := do
  let (code, written) ← checkedInline node children
  if code.isEmpty then pure (code, written)
  else
    let name := node.layer.methodName (← Checked.of Compile.settings).normalizeNameCase
    Checked.of (Compile.addMethod name code)
    pure (call name, written)

def checkedPlaceholder (node : NodeInfo α) (children : List (CheckedChild α))
    (placeholder : Template.Placeholder) (settings : Template.Settings) : Checked α (Written α) := do
  match placeholder with
  | .children => do
      let (codes, nodes) ← CheckedChild.writeList (editForTemplate settings.childLayout) children
      pure (codes, ⟨node, nodes⟩)
  | .this => if settings.decorators then checkedInline node children else checkedBody node children

/-- The template stays in front of the first byte of the placeholder and behind the last. -/
def checkedTemplate (node : NodeInfo α) (children : List (CheckedChild α)) :
    Checked α (Written α) := do
  let template := (node.layer.textProperty? .customCode).getD usualTemplate
  match Template.cut? template.toList with
  | none => pure (template, ⟨node, CheckedChild.nodes children⟩)
  | some cut => do
      let settings ← Checked.of (templateSettings node cut)
      let (code, written) ← checkedPlaceholder node children cut.placeholder settings
      let (before, _) ← cutAt? (byteCount cut.before) template.toList
      let (_, after) ← cutAt? (byteCount (cut.before ++ cut.matched)) template.toList
      pure (String.ofList before ++ code ++ String.ofList after, written)

def checkedBuilder (node : NodeInfo α) (children : List (CheckedChild α)) :
    Checked α (Written α) := do
  let settings ← Checked.of Compile.settings
  let name := node.params.builder.getD (node.layer.builderName settings.normalizeNameCase)
  pure (call name, ⟨node, CheckedChild.nodes children⟩)

def checkedWrite (node : NodeInfo α) (children : List (CheckedChild α)) : Checked α (Written α) := do
  match node.mode with
  | .inline => checkedInline node children
  | .method => checkedMethod node children
  | .builder => checkedBuilder node children
  | .custom => checkedTemplate node children

theorem checkedDecorate_meets (node : NodeInfo α) (code : String) :
    Meets (checkedDecorate node code) (decorate node code) := by
  apply (Meets.of Compile.settings).bind
  intro settings
  apply (Meets.of (Compile.note _)).bind
  intro _
  apply (Meets.of (Decorator.applyAll _ node.decorators)).bind
  intro decorated
  apply Meets.ite
  · intro _
    apply Meets.access (checkedLayerComment_eq decorated node.layer)
    exact Meets.pure _
  · intro _
    exact Meets.pure _

section

variable {node : NodeInfo α} (bounded : node.layer.HasBoundedRuns) (children : List (Child α))

include bounded

theorem checkedBody_meets :
    Meets (checkedBody node (children.map CheckedChild.of)) (writeBody node children) := by
  unfold checkedBody writeBody
  rw [CheckedChild.nodes_map_of]
  cases node.kind with
  | widgetRoot =>
      apply (Root.checkedWrite_meets node children).bind
      intro written
      exact Meets.pure _
  | box =>
      apply (Meets.of (Box.write node)).bind
      intro written
      exact Meets.pure _
  | text =>
      apply (Label.checkedWrite_meets bounded).bind
      intro written
      exact Meets.pure _
  | shape unit =>
      apply (Picture.checkedWrite_meets node.layout unit).bind
      intro written
      exact Meets.pure _
  | group kind =>
      apply Meets.ite
      · intro _
        apply (Meets.of (Group.writeRendered node)).bind
        intro written
        exact Meets.pure _
      · intro _
        cases kind with
        | instanceOf widget => exact Meets.pure _
        | plain =>
            apply (Group.checkedWrite_meets node children).bind
            intro written
            exact Meets.pure _
        | scroll direction =>
            apply (Group.checkedScroll_meets node direction children).bind
            intro written
            exact Meets.pure _

theorem checkedInline_meets :
    Meets (checkedInline node (children.map CheckedChild.of)) (writeInline node children) := by
  apply (checkedBody_meets bounded children).bind
  intro written
  apply Meets.ite
  · intro _
    exact Meets.pure _
  · intro _
    apply (checkedDecorate_meets written.2.toNodeInfo written.1).bind
    intro decorated
    exact Meets.pure _

theorem checkedMethod_meets :
    Meets (checkedMethod node (children.map CheckedChild.of)) (writeMethod node children) := by
  apply (checkedInline_meets bounded children).bind
  intro written
  apply Meets.ite
  · intro _
    exact Meets.pure _
  · intro _
    apply (Meets.of Compile.settings).bind
    intro settings
    apply (Meets.of (Compile.addMethod _ _)).bind
    intro _
    exact Meets.pure _

theorem checkedPlaceholder_meets (placeholder : Template.Placeholder) (settings : Template.Settings) :
    Meets (checkedPlaceholder node (children.map CheckedChild.of) placeholder settings)
      (writePlaceholder node children placeholder settings) := by
  cases placeholder with
  | children =>
      apply (CheckedChild.writeList_meets _ children).bind
      intro written
      exact Meets.pure _
  | this =>
      apply Meets.ite
      · intro _
        exact checkedInline_meets bounded children
      · intro _
        exact checkedBody_meets bounded children

theorem checkedTemplate_meets :
    Meets (checkedTemplate node (children.map CheckedChild.of)) (writeTemplate node children) := by
  unfold checkedTemplate writeTemplate
  rw [CheckedChild.nodes_map_of]
  dsimp only
  generalize (node.layer.textProperty? .customCode).getD usualTemplate = template
  cases found : Template.cut? template.toList with
  | none => exact Meets.pure _
  | some cut =>
      have whole := (Template.cut?_eq_some_iff.mp found).whole
      have front := cutAt?_append cut.before (cut.matched ++ cut.after)
      have behind := cutAt?_append (cut.before ++ cut.matched) cut.after
      rw [← List.append_assoc, ← whole] at front
      rw [← whole] at behind
      apply (Meets.of (templateSettings node cut)).bind
      intro settings
      apply (checkedPlaceholder_meets bounded children cut.placeholder settings).bind
      intro written
      apply Meets.access front
      apply Meets.access behind
      exact Meets.pure _

theorem checkedWrite_meets :
    Meets (checkedWrite node (children.map CheckedChild.of)) (write node children) := by
  unfold checkedWrite write
  cases node.mode with
  | inline => exact checkedInline_meets bounded children
  | method => exact checkedMethod_meets bounded children
  | custom => exact checkedTemplate_meets bounded children
  | builder =>
      unfold checkedBuilder writeBuilder
      rw [CheckedChild.nodes_map_of]
      apply (Meets.of Compile.settings).bind
      intro settings
      exact Meets.pure _

end

end NodeInfo

/-! ### Trees -/

namespace Node

mutual

def checkedWriteWith : Node α → (Layout α → Layout α) → Checked α (Written α)
  | ⟨node, children⟩, edit =>
      NodeInfo.checkedWrite { node with layout := edit node.layout } (checkedAsChildren children)

def checkedAsChildren : List (Node α) → List (CheckedChild α)
  | [] => []
  | node :: rest => ⟨node, checkedWriteWith node⟩ :: checkedAsChildren rest

end

/-- The text of every node has bounded runs. -/
def HasBoundedRuns (node : Node α) : Prop :=
  node.Throughout fun part => part.layer.HasBoundedRuns

mutual

theorem checkedWriteWith_meets : ∀ {node : Node α}, node.HasBoundedRuns →
    ∀ edit : Layout α → Layout α, Meets (checkedWriteWith node edit) (writeWith node edit)
  | ⟨info, children⟩, bounded, edit => by
      obtain ⟨own, below⟩ := throughout_mk.mp bounded
      let edited : NodeInfo α := { info with layout := edit info.layout }
      have same : edited.layer.HasBoundedRuns := own
      rw [checkedWriteWith, writeWith, checkedAsChildren_eq below]
      exact NodeInfo.checkedWrite_meets same _

theorem checkedAsChildren_eq : ∀ {nodes : List (Node α)},
    (∀ node ∈ nodes, node.HasBoundedRuns) →
      checkedAsChildren nodes = (asChildren nodes).map CheckedChild.of
  | [], _ => by
      rw [checkedAsChildren, asChildren]
      rfl
  | node :: rest, bounded => by
      obtain ⟨first, others⟩ := List.forall_mem_cons.mp bounded
      have own : checkedWriteWith node = fun edit => Checked.of (writeWith node edit) :=
        funext fun edit => (checkedWriteWith_meets first edit).eq_of
      rw [checkedAsChildren, asChildren, checkedAsChildren_eq others, own]
      rfl

end

end Node

end DesignExport
