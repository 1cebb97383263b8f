import DesignExport.Expression.Picture
import DesignExport.Proofs.Access.Steps
import DesignExport.Tree.Merge
set_option autoImplicit false

/-! The accesses of shapes: the first dash of a stroke that has a dash of some length, the
first digits of a digest, and the child of a group that has one child. -/

namespace DesignExport

open Access (cutAt? cutAt?_of_single)
open Checked (Meets)

variable {α : Type}

/-! ### Identifiers -/

theorem Md5.length_lowestFirst (count value : Nat) : (lowestFirst count value).length = count := by
  induction count generalizing value with
  | zero => rfl
  | succ count ih => rw [lowestFirst, List.length_cons, ih]

theorem Md5.utf8Size_hexDigit (value : Nat) : (hexDigit value).utf8Size = 1 := by
  have single : "0123456789abcdef".toList.all (·.utf8Size == 1) = true := by decide
  rw [hexDigit, List.getD_eq_getElem?_getD]
  cases found : "0123456789abcdef".toList[value]? with
  | none => rfl
  | some char => exact eq_of_beq (List.all_eq_true.mp single char (List.mem_of_getElem? found))

theorem Md5.utf8Size_hexOfText (text : String) : ∀ char ∈ (hexOfText text).toList, char.utf8Size = 1 := by
  intro char member
  rw [hexOfText, Digest.hex, String.toList_ofList] at member
  obtain ⟨part, _, inPart⟩ := List.mem_flatMap.mp member
  obtain ⟨byte, _, inByte⟩ := List.mem_flatMap.mp inPart
  rcases List.mem_cons.mp inByte with same | later
  · rw [same]
    exact utf8Size_hexDigit _
  · rw [List.mem_singleton.mp later]
    exact utf8Size_hexDigit _

theorem Md5.length_hexOfText (text : String) : (hexOfText text).toList.length = 32 := by
  have bytes (part : UInt32) : ((lowestFirst 4 part.toNat).flatMap hexByte).length = 8 := by
    simp [List.length_flatMap, hexByte, List.map_const', length_lowestFirst]
  rw [hexOfText, Digest.hex, String.toList_ofList]
  simp [bytes]

/-- The name of a constant from the first bytes of a digest. -/
def checkedMarkupId (markup : String) : Option String := do
  let (digits, _) ← cutAt? 8 (Md5.hexOfText markup).toList
  pure ("_svg_" ++ String.ofList digits)

theorem checkedMarkupId_eq (markup : String) : checkedMarkupId markup = some (markupId markup) := by
  have enough : 8 ≤ (Md5.hexOfText markup).toList.length := by
    rw [Md5.length_hexOfText]
    decide
  rw [checkedMarkupId, cutAt?_of_single (Md5.utf8Size_hexOfText markup) enough]
  rfl

variable [Scalar α]

/-! ### Markup -/

namespace Markup

def checkedDashes (stroke : Stroke α) : Option String := do
  if stroke.isDashed then
    let dash ← stroke.dashes[0]?
    let gap := (stroke.dashes[1]?).getD dash
    pure (" " ++ attr "stroke-dasharray" (numbers 2 [dash, gap]) ++
      (if stroke.dashOffset == 0.0 then ""
        else " " ++ attr "stroke-dashoffset" (Scalar.fixed stroke.dashOffset 2)))
  else pure ""

def checkedStroke (layer : LayerInfo α) (opacity : α) : Option (String × Log) := do
  match layer.activeStroke? with
  | none => pure ("stroke=\"none\"", [])
  | some own =>
      let dashes ← checkedDashes own
      pure (paint "stroke" own.color opacity ++ " " ++
          attr "stroke-width" (Scalar.fixed own.width 2) ++ dashes ++
          (if own.join = .miter && !(own.miterLimit == Stroke.usualMiterLimit) then
            " " ++ attr "stroke-miterlimit" (Scalar.fixed own.miterLimit 2) else "") ++
          (if own.cap = .butt then "" else " " ++ attr "stroke-linecap" own.cap.name) ++
          (if own.join = .miter then "" else " " ++ attr "stroke-linejoin" own.join.name),
        if own.position = .center then []
        else warning "Only centre strokes are supported on shapes" layer)

def checkedPath (opacityOf : OpacityOf α) (layer : LayerInfo α) : Option (String × Log) := do
  let opacity := opacityOf layer
  let (fillText, definitions, fillLog) := fill layer opacity
  let (strokeText, strokeLog) ← checkedStroke layer opacity
  let shadowLog :=
    if layer.visibleShadow?.isSome then warning "Shadows are not supported on shapes" layer else []
  let placed := layer.transform.after (Affine.shift layer.localBounds.x layer.localBounds.y)
  let transformText :=
    match transform? placed with
    | some written => attr "transform" written ++ " "
    | none => ""
  let definitionText := if definitions.isEmpty then "" else "<defs>" ++ definitions ++ "</defs>"
  pure (definitionText ++ "<path " ++ transformText ++ attr "d" (outline layer) ++ " " ++ fillText ++
      " " ++ strokeText ++ " />",
    fillLog ++ strokeLog ++ shadowLog)

mutual

def checkedMember (opacityOf : OpacityOf α) : ShapeMember α → Option (String × Log)
  | .primitive layer => checkedPath opacityOf layer
  | .nested frame inner => do
      let (body, log) ← checkedMembers opacityOf inner
      pure (frameOpening frame ++ body ++ "</g>", log)

def checkedMembers (opacityOf : OpacityOf α) : List (ShapeMember α) → Option (String × Log)
  | [] => pure ("", [])
  | first :: rest => do
      let (text, log) ← checkedMember opacityOf first
      let (others, otherLog) ← checkedMembers opacityOf rest
      pure (text ++ others, log ++ otherLog)

end

def checkedRender (opacityOf : OpacityOf α) (unit : ShapeUnit α) : Option (String × Log) := do
  let box := unit.viewBox
  let (body, log) ← checkedMembers opacityOf unit.members
  let grouped := if isTransformed unit then "<g>" ++ body ++ "</g>" else body
  pure ("<svg viewBox=\"" ++ numbers 1 [box.x, box.y, box.width, box.height] ++ "\" >" ++ grouped ++
      "</svg>",
    log)

/-- A stroke with a dash of some length has a first dash. -/
theorem checkedDashes_eq (stroke : Stroke α) : checkedDashes stroke = some (dashes stroke) := by
  unfold checkedDashes dashes
  cases listed : stroke.dashes with
  | nil =>
      -- None of no dashes has a length, so the first one is not looked up.
      have plain : stroke.isDashed = false := by rw [Stroke.isDashed, listed]; rfl
      rw [plain]
      rfl
  | cons dash rest =>
      dsimp only
      by_cases dashed : stroke.isDashed = true
      · rw [if_pos dashed, if_pos dashed]
        cases rest with
        | nil => rfl
        | cons gap others => rfl
      · rw [if_neg dashed, if_neg dashed]
        rfl

theorem checkedStroke_eq (layer : LayerInfo α) (opacity : α) :
    checkedStroke layer opacity = some (stroke layer opacity) := by
  unfold checkedStroke stroke
  cases layer.activeStroke? with
  | none => rfl
  | some own =>
      dsimp only
      rw [checkedDashes_eq]
      rfl

theorem checkedPath_eq (opacityOf : OpacityOf α) (layer : LayerInfo α) :
    checkedPath opacityOf layer = some (path opacityOf layer) := by
  simp only [checkedPath, checkedStroke_eq, Option.bind_eq_bind, Option.bind_some]
  rfl

mutual

theorem checkedMember_eq (opacityOf : OpacityOf α) : ∀ shape : ShapeMember α,
    checkedMember opacityOf shape = some (member opacityOf shape)
  | .primitive layer => by
      rw [checkedMember, member]
      exact checkedPath_eq opacityOf layer
  | .nested frame inner => by
      rw [checkedMember, member, checkedMembers_eq]
      rfl

theorem checkedMembers_eq (opacityOf : OpacityOf α) : ∀ shapes : List (ShapeMember α),
    checkedMembers opacityOf shapes = some (members opacityOf shapes)
  | [] => by
      rw [checkedMembers, members]
      rfl
  | first :: rest => by
      rw [checkedMembers, members, checkedMember_eq, checkedMembers_eq]
      rfl

end

theorem checkedRender_eq (opacityOf : OpacityOf α) (unit : ShapeUnit α) :
    checkedRender opacityOf unit = some (render opacityOf unit) := by
  unfold checkedRender
  rw [checkedMembers_eq]
  rfl

end Markup

namespace ShapeUnit

def checkedMarkup (opacityOf : Markup.OpacityOf α) (unit : ShapeUnit α) :
    Option (String × ShapeUnit α × Log) := do
  match unit.knownMarkup with
  | some known => pure (known, unit, [])
  | none =>
      let (text, log) ← Markup.checkedRender opacityOf unit
      pure (text, { unit.withBox with knownMarkup := some text }, log)

def checkedId (opacityOf : Markup.OpacityOf α) (unit : ShapeUnit α) :
    Option (String × ShapeUnit α × Log) := do
  match unit.knownId with
  | some known => pure (known, unit, [])
  | none =>
      let (text, rendered, log) ← unit.checkedMarkup opacityOf
      let name ← checkedMarkupId text
      pure (name, { rendered with knownId := some name }, log)

variable (opacityOf : Markup.OpacityOf α) (unit : ShapeUnit α)

theorem checkedMarkup_eq : unit.checkedMarkup opacityOf = some (unit.markup opacityOf) := by
  unfold checkedMarkup markup
  cases unit.knownMarkup with
  | some known => rfl
  | none =>
      dsimp only
      rw [Markup.checkedRender_eq]
      rfl

theorem checkedId_eq : unit.checkedId opacityOf = some (unit.id opacityOf) := by
  unfold checkedId ShapeUnit.id
  cases unit.knownId with
  | some known => rfl
  | none =>
      dsimp only
      rw [checkedMarkup_eq, Option.bind_eq_bind, Option.bind_some, checkedMarkupId_eq]
      rfl

end ShapeUnit

/-! ### Pictures -/

namespace Picture

def checkedMarkup (unit : ShapeUnit α) : Checked α (String × ShapeUnit α) := do
  let (text, known, log) ← unit.checkedMarkup (← Checked.of get).index.inheritedOpacity
  Checked.of (Compile.note log)
  pure (text, known)

def checkedId (unit : ShapeUnit α) : Checked α (String × ShapeUnit α) := do
  let (name, known, log) ← unit.checkedId (← Checked.of get).index.inheritedOpacity
  Checked.of (Compile.note log)
  pure (name, known)

def checkedSource (unit : ShapeUnit α) : Checked α (String × ShapeUnit α) := do
  match (← Checked.of get).target with
  | .clipboard =>
      let (text, known) ← checkedMarkup unit
      pure (Dart.stringLiteral text, known)
  | .files =>
      let (name, named) ← checkedId unit
      let (text, known) ← checkedMarkup named
      Checked.of (Compile.addPicture name text)
      pure (name, known)

def checkedWrite (layout : Layout α) (unit : ShapeUnit α) :
    Checked α (String × Layout α × ShapeUnit α) := do
  let placed := place layout unit
  let (data, known) ← checkedSource unit
  Checked.of (Compile.addImport "package:flutter_svg/flutter_svg.dart")
  let opening := "SvgPicture.string(" ++ data ++ ", allowDrawingOutsideViewBox: true, "
  if placed.isFixedSize then pure (opening ++ ")", placed, known)
  else pure (opening ++ "fit: BoxFit.fill, )", { placed with shouldExpand := true }, known)

theorem checkedMarkup_meets (unit : ShapeUnit α) : Meets (checkedMarkup unit) (markup unit) := by
  apply (Meets.of get).bind
  intro context
  apply Meets.access (ShapeUnit.checkedMarkup_eq _ unit)
  apply (Meets.of (Compile.note _)).bind
  intro _
  exact Meets.pure _

theorem checkedId_meets (unit : ShapeUnit α) : Meets (checkedId unit) (id unit) := by
  apply (Meets.of get).bind
  intro context
  apply Meets.access (ShapeUnit.checkedId_eq _ unit)
  apply (Meets.of (Compile.note _)).bind
  intro _
  exact Meets.pure _

theorem checkedSource_meets (unit : ShapeUnit α) : Meets (checkedSource unit) (source unit) := by
  apply (Meets.of get).bind
  intro context
  cases context.target with
  | clipboard =>
      apply (checkedMarkup_meets unit).bind
      intro result
      exact Meets.pure _
  | files =>
      apply (checkedId_meets unit).bind
      intro named
      apply (checkedMarkup_meets named.2).bind
      intro result
      apply (Meets.of (Compile.addPicture _ _)).bind
      intro _
      exact Meets.pure _

theorem checkedWrite_meets (layout : Layout α) (unit : ShapeUnit α) :
    Meets (checkedWrite layout unit) (write layout unit) := by
  apply (checkedSource_meets unit).bind
  intro result
  apply (Meets.of (Compile.addImport _)).bind
  intro _
  apply Meets.ite
  · intro _
    exact Meets.pure _
  · intro _
    exact Meets.pure _

end Picture

/-! ### The shape pass -/

namespace Node

/-- Replaces a plain group by the one shape that it holds, which is found by its index. -/
def checkedCollapse (node : Node α) : Option (Node α) := do
  if !node.isCollapsible || node.children.length ≠ 1 || node.hasBackground then pure node
  else
    let child ← node.children[0]?
    match child.kind with
    | .shape unit =>
        if child.decorators.isEmpty && child.mode = .inline then
          pure { node with kind := .shape (ShapeUnit.framed node.layer unit), children := [] }
        else pure node
    | _ => pure node

mutual

def checkedCombineShapes : Node α → Bool → Option (Node α)
  | ⟨info, children⟩, eager => do
      let below := isEagerBelow info.layer eager
      let merged ← checkedCombineAll children below
      checkedCollapse (mergeChildren below ⟨info, merged⟩)

def checkedCombineAll : List (Node α) → Bool → Option (List (Node α))
  | [], _ => pure []
  | node :: rest, eager => do
      let merged ← checkedCombineShapes node eager
      let others ← checkedCombineAll rest eager
      pure (merged :: others)

end

theorem checkedCollapse_eq (node : Node α) : checkedCollapse node = some node.collapse := by
  obtain ⟨info, children⟩ := node
  unfold checkedCollapse collapse
  cases children with
  | nil => simp
  | cons child rest =>
      cases rest with
      | cons other others => simp
      | nil =>
          simp only [List.length_singleton, List.getElem?_cons_zero, Option.bind_eq_bind,
            Option.bind_some]
          cases child.kind with
          | shape unit =>
              cases info.isCollapsible with
              | false => rfl
              | true =>
                  cases Node.hasBackground ⟨info, [child]⟩ with
                  | true => rfl
                  | false => exact (apply_ite some _ _ _).symm
          | _ => simp

mutual

theorem checkedCombineShapes_eq : ∀ (node : Node α) (eager : Bool),
    checkedCombineShapes node eager = some (node.combineShapes eager)
  | ⟨info, children⟩, eager => by
      rw [checkedCombineShapes, combineShapes, checkedCombineAll_eq]
      exact checkedCollapse_eq _

theorem checkedCombineAll_eq : ∀ (nodes : List (Node α)) (eager : Bool),
    checkedCombineAll nodes eager = some (combineAll nodes eager)
  | [], _ => by
      rw [checkedCombineAll, combineAll]
      rfl
  | node :: rest, eager => by
      rw [checkedCombineAll, combineAll, checkedCombineShapes_eq, checkedCombineAll_eq]
      rfl

end

end Node

end DesignExport
