import DesignExport.Expression.Group
import DesignExport.Expression.Root
import DesignExport.Proofs.Access.Steps
set_option autoImplicit false

/-! The accesses of groups and roots: the background, which is the child in front, the
children behind it, and the one child that is the whole body of a page. -/

namespace DesignExport

open Access (between? between?_length)
open Checked (Meets)

variable {α : Type}

/-- A child as its parent sees it, with a checked step that writes it. -/
structure CheckedChild (α : Type) where
  node : Node α
  write : (Layout α → Layout α) → Checked α (Written α)

namespace CheckedChild

/-- A child whose step never stops. -/
def of (child : Child α) : CheckedChild α :=
  ⟨child.node, fun edit => Checked.of (child.write edit)⟩

def nodes (children : List (CheckedChild α)) : List (Node α) :=
  children.map (·.node)

theorem nodes_map_of (children : List (Child α)) : nodes (children.map of) = Child.nodes children := by
  rw [nodes, List.map_map]
  rfl

/-! ### Lists of children -/

def writeList (edit : Layout α → Layout α) :
    List (CheckedChild α) → Checked α (String × List (Node α))
  | [] => pure ("", [])
  | child :: rest => do
      let (code, node) ← child.write edit
      let (codes, nodes) ← writeList edit rest
      pure (Child.item code ++ codes, node :: nodes)

def writeStack (children : List (CheckedChild α)) : Checked α (String × List (Node α)) := do
  let (codes, nodes) ← writeList id children
  pure ("Stack(children: <Widget>[" ++ codes ++ "], )", nodes)

theorem writeList_meets (edit : Layout α → Layout α) (children : List (Child α)) :
    Meets (writeList edit (children.map of)) (Child.writeList edit children) := by
  induction children with
  | nil => exact Meets.pure _
  | cons child rest ih =>
      apply (Meets.of (child.write edit)).bind
      intro written
      apply ih.bind
      intro others
      exact Meets.pure _

theorem writeStack_meets (children : List (Child α)) :
    Meets (writeStack (children.map of)) (Child.writeStack children) := by
  apply (writeList_meets id children).bind
  intro written
  exact Meets.pure _

end CheckedChild

namespace NodeInfo

/-- The child in front is the background. -/
def hasBackground (node : NodeInfo α) (children : List (CheckedChild α)) : Bool :=
  match children.head? with
  | some first => node.takesBackground first.node.layer
  | none => false

end NodeInfo

variable [Scalar α]

/-! ### Groups -/

namespace Group

def checkedCells (orientation : Orientation) (unit : String) (hasTrimmed : Bool) :
    List (α × CheckedChild α) → Checked α (String × List (Node α))
  | [] => pure ("", [])
  | (gap, child) :: rest => do
      let (code, node) ← child.write (fun layout => { layout with shouldFixSize := false })
      if code.isEmpty then
        let (codes, nodes) ← checkedCells orientation unit hasTrimmed rest
        pure (codes, node :: nodes)
      else
        let (written, trimmedNow) := trimOnce hasTrimmed gap
        let (codes, nodes) ← checkedCells orientation unit trimmedNow rest
        pure (spacer orientation unit written ++ cell orientation unit node.layer code ++ ", " ++ codes,
          node :: nodes)

def checkedFlex (stack : Stack α) (children : List (CheckedChild α)) :
    Checked α (String × List (Node α)) := do
  let unit := (← Checked.of Compile.settings).widthUnit
  let gaps := (stack.spacings.gaps (children.length - 1)).reverse
  let (items, nodes) ←
    checkedCells stack.orientation unit false ((0.0 :: gaps).zip children.reverse)
  pure (flexWidget stack.orientation ++
      "(crossAxisAlignment: CrossAxisAlignment.start, mainAxisAlignment: MainAxisAlignment.start, " ++
      "children: <Widget>[" ++ items ++ "], )",
    nodes.reverse)

/-- A single child on a background is found by its index. -/
def checkedChildren (node : NodeInfo α) (hasBackground : Bool) (rest : List (CheckedChild α)) :
    Checked α (String × List (Node α)) := do
  match node.layer.arrangement.activeStack? with
  | some stack => checkedFlex stack rest
  | none =>
      if hasBackground && rest.length = 1 then
        let only ← rest[0]?
        let (code, written) ← only.write id
        pure (code, [written])
      else CheckedChild.writeStack rest

/-- The children from the one behind the background on. -/
def checkedContent (node : NodeInfo α) (children : List (CheckedChild α)) :
    Checked α (String × List (Node α)) := do
  let unit := (← Checked.of Compile.settings).widthUnit
  Checked.of (warnOfMask node.layer)
  let start := if node.hasBackground children then 1 else 0
  let rest ← between? children start children.length
  let (code, written) ← checkedChildren node (node.hasBackground children) rest
  if node.hasBackground children then
    let background ← children[0]?
    let onto ← Checked.of
      (onBackground background.node.layer (padded node.layer code unit) unit)
    pure (onto, background.node :: written)
  else pure (padded node.layer code unit, written)

def checkedWrite (node : NodeInfo α) (children : List (CheckedChild α)) :
    Checked α (String × List (Node α)) :=
  if children.isEmpty then pure ("", []) else checkedContent node children

def checkedScroll (node : NodeInfo α) (direction : ScrollDirection)
    (children : List (CheckedChild α)) : Checked α (String × List (Node α)) := do
  if children.isEmpty then pure ("", [])
  else
    let unit := (← Checked.of Compile.settings).widthUnit
    let (code, written) ← checkedContent node children
    let layers := children.map (·.node.layer)
    pure (Scroll.view (Scroll.content layers code unit) direction, written)

theorem checkedCells_meets (orientation : Orientation) (unit : String)
    (cells : List (α × Child α)) : ∀ hasTrimmed : Bool,
    Meets (checkedCells orientation unit hasTrimmed (cells.map (Prod.map id CheckedChild.of)))
      (Group.cells orientation unit hasTrimmed cells) := by
  induction cells with
  | nil => exact fun _ => Meets.pure _
  | cons cell rest ih =>
      intro hasTrimmed
      apply (Meets.of (cell.2.write _)).bind
      intro written
      apply Meets.ite
      · intro _
        apply (ih hasTrimmed).bind
        intro others
        exact Meets.pure _
      · intro _
        apply (ih _).bind
        intro others
        exact Meets.pure _

theorem checkedFlex_meets (stack : Stack α) (children : List (Child α)) :
    Meets (checkedFlex stack (children.map CheckedChild.of)) (writeFlex stack children) := by
  have cells (gaps : List α) : (0.0 :: gaps).zip (children.map CheckedChild.of).reverse =
      (withGaps gaps children.reverse).map (Prod.map id CheckedChild.of) := by
    rw [withGaps, ← List.map_reverse, List.zip_map_right]
  apply (Meets.of Compile.settings).bind
  intro settings
  simp only [cells, List.length_map]
  apply (checkedCells_meets stack.orientation settings.widthUnit _ false).bind
  intro written
  exact Meets.pure _

theorem checkedChildren_meets (node : NodeInfo α) (hasBackground : Bool)
    (children : List (Child α)) :
    Meets (checkedChildren node hasBackground (children.map CheckedChild.of))
      (writeChildren node hasBackground children) := by
  unfold checkedChildren writeChildren
  cases node.layer.arrangement.activeStack? with
  | some stack => exact checkedFlex_meets stack children
  | none =>
      cases hasBackground with
      | false => exact CheckedChild.writeStack_meets children
      | true =>
          match children with
          | [] => exact CheckedChild.writeStack_meets []
          | [only] =>
              have here : ([only].map CheckedChild.of)[0]? = some (CheckedChild.of only) := rfl
              apply Meets.access here
              apply (Meets.of (only.write id)).bind
              intro written
              exact Meets.pure _
          | first :: second :: others =>
              exact CheckedChild.writeStack_meets (first :: second :: others)

/-- Behind the background, and in front of it, there are children as far as the list goes. -/
theorem checkedContent_meets (node : NodeInfo α) (first : Child α) (rest : List (Child α)) :
    Meets (checkedContent node ((first :: rest).map CheckedChild.of))
      (writeContent node first rest) := by
  have front : node.hasBackground ((first :: rest).map CheckedChild.of) =
      node.takesBackground first.node.layer := rfl
  apply (Meets.of Compile.settings).bind
  intro settings
  apply (Meets.of (warnOfMask node.layer)).bind
  intro _
  rw [front]
  cases node.takesBackground first.node.layer with
  | true =>
      apply Meets.access (between?_length (Nat.le_add_left 1 _))
      apply (checkedChildren_meets node true rest).bind
      intro written
      have here : ((first :: rest).map CheckedChild.of)[0]? = some (CheckedChild.of first) := rfl
      apply Meets.access here
      apply (Meets.of (onBackground first.node.layer _ _)).bind
      intro onto
      exact Meets.pure _
  | false =>
      apply Meets.access (between?_length (Nat.zero_le _))
      apply (checkedChildren_meets node false (first :: rest)).bind
      intro written
      exact Meets.pure _

theorem checkedWrite_meets (node : NodeInfo α) (children : List (Child α)) :
    Meets (checkedWrite node (children.map CheckedChild.of)) (write node children) := by
  cases children with
  | nil => exact Meets.pure _
  | cons first rest => exact checkedContent_meets node first rest

theorem checkedScroll_meets (node : NodeInfo α) (direction : ScrollDirection)
    (children : List (Child α)) :
    Meets (checkedScroll node direction (children.map CheckedChild.of))
      (writeScroll node direction children) := by
  cases children with
  | nil => exact Meets.pure _
  | cons first rest =>
      have layers : ((first :: rest).map CheckedChild.of).map (·.node.layer) =
          (first :: rest).map (·.node.layer) := by
        rw [List.map_map]
        rfl
      unfold checkedScroll writeScroll
      rw [layers]
      apply (Meets.of Compile.settings).bind
      intro settings
      apply (checkedContent_meets node first rest).bind
      intro written
      exact Meets.pure _

end Group

/-! ### Roots -/

namespace Root

/-- One child behind a background is found by its index, and written where it stands. -/
def checkedBody (node : NodeInfo α) (children : List (CheckedChild α)) :
    Checked α (String × List (Node α)) := do
  if node.hasBackground children && children.length = 2 then
    let only ← children[1]?
    let (code, written) ← only.write id
    pure (code, (CheckedChild.nodes children).set 1 written)
  else CheckedChild.writeStack children

def checkedFillOwner (node : NodeInfo α) (children : List (CheckedChild α)) : LayerInfo α :=
  match children.head? with
  | some first =>
      if node.hasBackground children && first.node.layer.activeFill?.isSome then first.node.layer
      else node.layer
  | none => node.layer

def checkedPage (node : NodeInfo α) (children : List (CheckedChild α)) :
    Checked α (String × List (Node α)) := do
  let color ← Checked.of (pageColor (checkedFillOwner node children))
  let (body, nodes) ← checkedBody node children
  let background := match color with
    | some expression => "backgroundColor: " ++ expression ++ ", "
    | none => ""
  pure ("Scaffold(" ++ background ++ "body: " ++ body ++ ", )", nodes)

def checkedWrite (node : NodeInfo α) (children : List (CheckedChild α)) :
    Checked α (String × List (Node α)) := do
  match node.layer.kind with
  | .artboard => checkedPage node children
  | _ => CheckedChild.writeStack children

omit [Scalar α] in
theorem checkedBody_meets (node : NodeInfo α) (children : List (Child α)) :
    Meets (checkedBody node (children.map CheckedChild.of)) (writeBody node children) := by
  unfold checkedBody
  match children with
  | [] =>
      rw [if_neg (by simp)]
      exact CheckedChild.writeStack_meets []
  | [first] =>
      rw [if_neg (by simp)]
      exact CheckedChild.writeStack_meets [first]
  | [first, only] =>
      have front : (node.hasBackground ([first, only].map CheckedChild.of) &&
          ([first, only].map CheckedChild.of).length = 2) = node.takesBackground first.node.layer :=
        Bool.and_true _
      rw [front]
      apply Meets.ite
      · intro _
        have here : ([first, only].map CheckedChild.of)[1]? = some (CheckedChild.of only) := rfl
        apply Meets.access here
        apply (Meets.of (only.write id)).bind
        intro written
        exact Meets.pure _
      · intro _
        exact CheckedChild.writeStack_meets [first, only]
  | first :: second :: third :: others =>
      rw [if_neg (by simp)]
      exact CheckedChild.writeStack_meets (first :: second :: third :: others)

theorem checkedPage_meets (node : NodeInfo α) (children : List (Child α)) :
    Meets (checkedPage node (children.map CheckedChild.of)) (writePage node children) := by
  have owner : checkedFillOwner node (children.map CheckedChild.of) = fillOwner node children := by
    cases children with
    | nil => rfl
    | cons first rest => rfl
  unfold checkedPage
  rw [owner]
  apply (Meets.of (pageColor (fillOwner node children))).bind
  intro color
  apply (checkedBody_meets node children).bind
  intro body
  exact Meets.pure _

theorem checkedWrite_meets (node : NodeInfo α) (children : List (Child α)) :
    Meets (checkedWrite node (children.map CheckedChild.of)) (write node children) := by
  unfold checkedWrite write
  cases node.layer.kind with
  | artboard => exact checkedPage_meets node children
  | _ => exact CheckedChild.writeStack_meets children

end Root

end DesignExport
