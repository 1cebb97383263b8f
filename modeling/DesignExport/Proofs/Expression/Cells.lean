import DesignExport.Export.Run
import DesignExport.Proofs.Expression.Renders
import DesignExport.Proofs.Layout.Frames
import DesignExport.Proofs.Number.Rational
set_option autoImplicit false

/-! The cells of a row or column and the spacers in front of them. A child has the gap that
is recorded for its place in front of its cell, unless it is the last one in drawing order,
which has none. If this one has no code, then the first cell is that of another child, and
its gap opens the row. -/

namespace DesignExport

/-- Scalars whose zero is neither a gap to write nor one to trim. -/
class ZeroIsNoGap (α : Type) [Scalar α] : Prop where
  not_positive : ¬(0.0 : α) < 0.0
  not_large : ¬trimBound < (0.0 : α)

instance : ZeroIsNoGap Float where
  not_positive := by decide
  not_large := by decide +kernel

instance : ZeroIsNoGap Rat where
  not_positive := by decide +kernel
  not_large := by decide +kernel

namespace Group

variable {α : Type}

/-- A child that has been written. -/
structure Cell (α : Type) where
  place : Nat
  layer : LayerInfo α
  code : String

inductive Item (α : Type) where
  | spacer (gap : α)
  | cell (cell : Cell α)

def Cell.isDrawn (cell : Cell α) : Bool :=
  !cell.code.isEmpty

/-- Writes a child that is not to state its size, since its cell does. -/
def writeUnsized (child : Child α) : Compile α (Written α) :=
  child.write (fun layout => { layout with shouldFixSize := false })

def writeCells : List (Child α × Nat) → Compile α (List (Cell α))
  | [] => pure []
  | (child, place) :: rest => do
      let (code, node) ← writeUnsized child
      let others ← writeCells rest
      pure (⟨place, node.layer, code⟩ :: others)

/-- The children that have code, from the last one to the first one. -/
def drawnCells (children : List (Child α)) (context : Context α) : List (Cell α) :=
  ((writeCells children.zipIdx.reverse).run context).1.filter Cell.isDrawn

theorem map_place_writeCells (entries : List (Child α × Nat)) (context : Context α) :
    ((writeCells entries).run context).1.map Cell.place = entries.map Prod.snd := by
  induction entries generalizing context with
  | nil => rfl
  | cons entry rest ih =>
      obtain ⟨child, place⟩ := entry
      rw [List.map_cons, ← ih ((writeUnsized child).run context).2]
      rfl

/-- Cells stand in the reverse of drawing order. -/
theorem pairwise_drawnCells (children : List (Child α)) (context : Context α) :
    (drawnCells children context).Pairwise fun first second => second.place < first.place := by
  have places := map_place_writeCells children.zipIdx.reverse context
  have falling : (children.zipIdx.reverse.map Prod.snd).Pairwise fun first second => second < first := by
    rw [List.map_reverse, List.zipIdx_map_snd, List.pairwise_reverse]
    exact List.pairwise_lt_range'
  rw [← places, List.pairwise_map] at falling
  exact falling.filter _

theorem place_lt_of_mem_drawnCells {children : List (Child α)} {context : Context α} {cell : Cell α}
    (member : cell ∈ drawnCells children context) : cell.place < children.length := by
  have places := map_place_writeCells children.zipIdx.reverse context
  have listed : cell.place ∈ ((writeCells children.zipIdx.reverse).run context).1.map Cell.place :=
    List.mem_map_of_mem (List.mem_filter.mp member).1
  rw [places, List.map_reverse, List.zipIdx_map_snd, List.mem_reverse, List.mem_range'_1] at listed
  omega

/-- A mask is noted before the children are written. -/
def behindMask (node : NodeInfo α) (start : Context α) : Context α :=
  ((warnOfMask node.layer).run start).2

theorem settings_behindMask (node : NodeInfo α) (start : Context α) :
    (behindMask node start).settings = start.settings := by
  unfold behindMask warnOfMask
  split <;> rfl

variable [Scalar α]

def Item.write (orientation : Orientation) (unit : String) : Item α → String
  | .spacer gap => "SizedBox(" ++ axisArgument orientation ++ ": " ++ Dart.dimension gap unit ++ ", ), "
  | .cell drawn => Group.cell orientation unit drawn.layer drawn.code ++ ", "

def writeItems (orientation : Orientation) (unit : String) (items : List (Item α)) : String :=
  String.join (items.map (Item.write orientation unit))

/-- The code of a row or column of some items. -/
def flexCode (orientation : Orientation) (unit : String) (items : List (Item α)) : String :=
  flexWidget orientation ++
    "(crossAxisAlignment: CrossAxisAlignment.start, mainAxisAlignment: MainAxisAlignment.start, " ++
    "children: <Widget>[" ++ writeItems orientation unit items ++ "], )"

/-! ### Gaps and items -/

/-- The gap for a place. A negative one counts as zero. -/
def recordedGap (spacings : Spacings α) (place : Nat) : α :=
  Scalar.atLeast 0.0 (spacings.gapAt place)

/-- Of several children the last one has no gap. -/
def gapBefore (spacings : Spacings α) (count place : Nat) : α :=
  if place + 1 = count then 0.0 else recordedGap spacings place

/-- The first gap above the bound is trimmed. -/
def trimFirst : List α → List α
  | [] => []
  | gap :: rest =>
      match trimmed? gap with
      | some shorter => shorter :: rest
      | none => gap :: trimFirst rest

def spacers (gap : α) : List (Item α) :=
  if (0.0 : α) < gap then [.spacer gap] else []

/-- Each cell behind a gap of its own. -/
def spaced : List α → List (Cell α) → List (Item α)
  | gap :: gaps, cell :: cells => spacers gap ++ .cell cell :: spaced gaps cells
  | _, _ => []

/-- The cells with the gaps between them, none in front of the first one. -/
def between (gap : Cell α → α) : List (Cell α) → List (Item α)
  | [] => []
  | first :: rest => .cell first :: spaced (trimFirst (rest.map gap)) rest

/-- Exactly one gap is trimmed if some gap is above the bound. -/
theorem trimFirst_append {front rest : List α} {gap shorter : α}
    (small : ∀ gap ∈ front, trimmed? gap = none) (large : trimmed? gap = some shorter) :
    trimFirst (front ++ gap :: rest) = front ++ shorter :: rest := by
  induction front with
  | nil => simp only [List.nil_append, trimFirst, large]
  | cons first front ih =>
      obtain ⟨one, others⟩ := List.forall_mem_cons.mp small
      simp only [List.cons_append, trimFirst, one, ih others]

/-- Measures are written with one place, so that rounding a trimmed gap to one place only
takes three units off what is written. -/
theorem dimension_trimmed {gap shorter : Rat} (trimmed : trimmed? gap = some shorter) (unit : String) :
    Dart.dimension shorter unit = Dart.dimension (gap - 3) unit := by
  have three : (3.0 : Rat) = 3 := by decide +kernel
  have rounded : shorter = Scalar.roundTo (gap - 3) 1 := by
    rw [← three]
    unfold trimmed? at trimmed
    split at trimmed
    · exact (Option.some.inj trimmed).symm
    · cases trimmed
  simp only [Dart.dimension, Scalar.fixed, rounded, Scalar.roundTo_roundTo_one]
  rfl

/-- The gaps behind one that has been trimmed stay as they are. -/
def trimRest (hasTrimmed : Bool) (gaps : List α) : List α :=
  if hasTrimmed then gaps else trimFirst gaps

theorem trimRest_cons (hasTrimmed : Bool) (gap : α) (rest : List α) :
    trimRest hasTrimmed (gap :: rest) =
      (trimOnce hasTrimmed gap).1 :: trimRest (trimOnce hasTrimmed gap).2 rest := by
  cases hasTrimmed with
  | true => rfl
  | false =>
      simp only [trimRest, trimOnce, trimFirst, Bool.false_eq_true, if_false]
      cases trimmed? gap with
      | none => rfl
      | some shorter => rfl

theorem writeItems_append (orientation : Orientation) (unit : String) (front back : List (Item α)) :
    writeItems orientation unit (front ++ back) =
      writeItems orientation unit front ++ writeItems orientation unit back := by
  simp only [writeItems, List.map_append, String.join_append]

theorem writeItems_cons (orientation : Orientation) (unit : String) (item : Item α)
    (items : List (Item α)) :
    writeItems orientation unit (item :: items) =
      item.write orientation unit ++ writeItems orientation unit items :=
  String.join_cons

theorem writeItems_spacers (orientation : Orientation) (unit : String) (gap : α) :
    writeItems orientation unit (spacers gap) = spacer orientation unit gap := by
  unfold spacers spacer
  by_cases positive : (0.0 : α) < gap
  · rw [if_pos positive, if_pos positive, writeItems_cons]
    exact String.append_empty ..
  · rw [if_neg positive, if_neg positive]
    rfl

/-! ### What a row or column is written as -/

theorem cells_run_cons (orientation : Orientation) (unit : String) (hasTrimmed : Bool) (gap : α)
    (child : Child α) (rest : List (α × Child α)) (context : Context α) :
    let written := (writeUnsized child).run context
    ((cells orientation unit hasTrimmed ((gap, child) :: rest)).run context).1.1 =
      if written.1.1.isEmpty then ((cells orientation unit hasTrimmed rest).run written.2).1.1
      else
        spacer orientation unit (trimOnce hasTrimmed gap).1 ++
          cell orientation unit written.1.2.layer written.1.1 ++ ", " ++
            ((cells orientation unit (trimOnce hasTrimmed gap).2 rest).run written.2).1.1 := by
  intro written
  have opened : (cells orientation unit hasTrimmed ((gap, child) :: rest)).run context =
      StateT.run (if written.1.1.isEmpty then do
          let later ← cells orientation unit hasTrimmed rest
          pure (later.1, written.1.2 :: later.2)
        else do
          let later ← cells orientation unit (trimOnce hasTrimmed gap).2 rest
          pure (spacer orientation unit (trimOnce hasTrimmed gap).1 ++
            cell orientation unit written.1.2.layer written.1.1 ++ ", " ++ later.1,
            written.1.2 :: later.2)) written.2 := rfl
  rw [opened]
  split <;> rfl

theorem cells_run (orientation : Orientation) (unit : String) (gap : Nat → α)
    (entries : List (Child α × Nat)) (hasTrimmed : Bool) (context : Context α) :
    let drawn := ((writeCells entries).run context).1.filter Cell.isDrawn
    ((cells orientation unit hasTrimmed
        (entries.map fun entry => (gap entry.2, entry.1))).run context).1.1 =
      writeItems orientation unit
        (spaced (trimRest hasTrimmed (drawn.map fun cell => gap cell.place)) drawn) := by
  intro drawn
  -- A child without code neither uses up the trimming nor leaves its gap behind.
  induction entries generalizing hasTrimmed context with
  | nil => cases hasTrimmed <;> rfl
  | cons entry rest ih =>
      obtain ⟨child, place⟩ := entry
      let written := (writeUnsized child).run context
      let first : Cell α := ⟨place, written.1.2.layer, written.1.1⟩
      have listed : drawn = (first :: ((writeCells rest).run written.2).1).filter Cell.isDrawn := rfl
      refine (cells_run_cons orientation unit hasTrimmed (gap place) child _ context).trans ?_
      by_cases blank : written.1.1.isEmpty = true
      · have hidden : ¬first.isDrawn = true := by simp [Cell.isDrawn, first, blank]
        rw [if_pos blank, listed, List.filter_cons_of_neg hidden]
        exact ih hasTrimmed written.2
      · have shown : first.isDrawn = true := by simp [Cell.isDrawn, first, blank]
        rw [if_neg blank, listed, List.filter_cons_of_pos shown, List.map_cons, trimRest_cons, spaced,
          writeItems_append, writeItems_spacers, writeItems_cons, ih _ written.2]
        simp only [String.append_assoc, Item.write, first]
        rfl

/-- Gaps are listed in drawing order, so that each child finds the one for its own place. -/
theorem withGaps_eq (spacings : Spacings α) (children : List (Child α)) :
    withGaps (spacings.gaps (children.length - 1)).reverse children.reverse =
      children.zipIdx.reverse.map fun entry =>
        (gapBefore spacings children.length entry.2, entry.1) := by
  have lengths : (withGaps (spacings.gaps (children.length - 1)).reverse children.reverse).length =
      children.length := by
    simp [withGaps, Spacings.gaps]
    omega
  apply List.ext_getElem
  · simp [lengths]
  · intro index inside _
    rw [lengths] at inside
    have place : children.length - 1 - index < children.length := by omega
    simp only [withGaps, List.getElem_zip, List.getElem_map, List.getElem_reverse,
      List.length_zipIdx, List.getElem_zipIdx]
    cases index with
    | zero =>
        have last : 0 + (children.length - 1 - 0) + 1 = children.length := by omega
        rw [gapBefore, if_pos last]
        rfl
    | succ index =>
        have earlier : children.length - 1 - (index + 1) + 1 ≠ children.length := by omega
        have same : children.length - 1 - 1 - index = children.length - 1 - (index + 1) := by omega
        simp only [Spacings.gaps, List.getElem_cons_succ, List.getElem_reverse, List.getElem_map,
          List.getElem_range, List.length_map, List.length_range, Nat.zero_add, same]
        rw [gapBefore, if_neg earlier, recordedGap]

/-- What a row or column is written as, in terms of what its children are written as. -/
theorem writeFlex_run (stack : Stack α) (children : List (Child α)) (context : Context α) :
    let drawn := drawnCells children context
    let gap (cell : Cell α) := gapBefore stack.spacings children.length cell.place
    ((writeFlex stack children).run context).1.1 =
      flexCode stack.orientation context.settings.widthUnit (spaced (trimFirst (drawn.map gap)) drawn) := by
  intro drawn gap
  have items := cells_run stack.orientation context.settings.widthUnit
    (gapBefore stack.spacings children.length) children.zipIdx.reverse false context
  rw [← withGaps_eq] at items
  have opened : ((writeFlex stack children).run context).1.1 =
      flexWidget stack.orientation ++
        "(crossAxisAlignment: CrossAxisAlignment.start, mainAxisAlignment: MainAxisAlignment.start, " ++
        "children: <Widget>[" ++
        ((cells stack.orientation context.settings.widthUnit false
          (withGaps (stack.spacings.gaps (children.length - 1)).reverse children.reverse)).run
            context).1.1 ++ "], )" := rfl
  rw [opened, items]
  rfl

/-! ### The gap in front of the first cell -/

/-- The first cell is not that of the last child, and the gap for its place is written. -/
def OpensWithGap (spacings : Spacings α) (count : Nat) : List (Cell α) → Prop
  | [] => False
  | first :: _ => first.place + 1 ≠ count ∧ (0.0 : α) < recordedGap spacings first.place

theorem gapBefore_of_earlier (spacings : Spacings α) {count place later : Nat}
    (earlier : place < later) (inside : later < count) :
    gapBefore spacings count place = recordedGap spacings place := by
  have notLast : place + 1 ≠ count := by omega
  rw [gapBefore, if_neg notLast]

theorem trimmed?_eq_none {gap : α} (small : ¬trimBound < gap) : trimmed? gap = none := by
  rw [trimmed?, if_neg small]

theorem recordedGap_eq_zero {spacings : Spacings α} {place : Nat}
    (none : ¬(0.0 : α) < recordedGap spacings place) : recordedGap spacings place = 0.0 := by
  unfold recordedGap Scalar.atLeast at none ⊢
  by_cases positive : (0.0 : α) < spacings.gapAt place
  · rw [if_pos positive] at none
    exact absurd positive none
  · rw [if_neg positive]

variable [ZeroIsNoGap α]

/-- A gap that counts as none leaves the others as they are. -/
theorem spaced_trimFirst_zero (gaps : List α) (first : Cell α) (rest : List (Cell α)) :
    spaced (trimFirst ((0.0 : α) :: gaps)) (first :: rest) = .cell first :: spaced (trimFirst gaps) rest := by
  rw [trimFirst, trimmed?_eq_none ZeroIsNoGap.not_large, spaced, spacers, if_neg ZeroIsNoGap.not_positive,
    List.nil_append]

theorem items_eq (spacings : Spacings α) {count : Nat} {drawn : List (Cell α)}
    (falling : drawn.Pairwise fun first second => second.place < first.place)
    (inside : ∀ cell ∈ drawn, cell.place < count) :
    let gap (cell : Cell α) := recordedGap spacings cell.place
    let items := spaced (trimFirst (drawn.map fun cell => gapBefore spacings count cell.place)) drawn
    (¬OpensWithGap spacings count drawn → items = between gap drawn) ∧
      (OpensWithGap spacings count drawn → items = spaced (trimFirst (drawn.map gap)) drawn) := by
  intro gap items
  cases drawn with
  | nil => exact ⟨fun _ => rfl, fun opens => opens.elim⟩
  | cons first rest =>
      -- All cells behind the first one come earlier in drawing order, so none of them is that
      -- of the last child.
      obtain ⟨above, -⟩ := List.pairwise_cons.mp falling
      have bound := inside first List.mem_cons_self
      have others : (rest.map fun cell => gapBefore spacings count cell.place) = rest.map gap := by
        apply List.map_congr_left
        intro cell member
        exact gapBefore_of_earlier spacings (above cell member) bound
      have listed : items =
          spaced (trimFirst (gapBefore spacings count first.place :: rest.map gap)) (first :: rest) := by
        rw [← others]
        rfl
      rw [listed]
      constructor
      · intro closed
        have none : gapBefore spacings count first.place = 0.0 := by
          by_cases last : first.place + 1 = count
          · rw [gapBefore, if_pos last]
          · rw [gapBefore, if_neg last]
            exact recordedGap_eq_zero fun positive => closed ⟨last, positive⟩
        rw [none, spaced_trimFirst_zero]
        rfl
      · intro opens
        rw [gapBefore, if_neg opens.1]
        rfl

/-! ### Groups -/

section Stacks

omit [ZeroIsNoGap α]

variable {node : NodeInfo α} {stack : Stack α}
  (active : node.layer.arrangement.activeStack? = some stack)

include active

theorem writeChildren_of_stack (hasBackground : Bool) (children : List (Child α)) :
    writeChildren node hasBackground children = writeFlex stack children := by
  unfold writeChildren
  rw [active]

/-- The row or column is all there is of the content but for the padding and the background. -/
theorem writeContent_surrounds (first : Child α) (rest : List (Child α)) (start : Context α) :
    let placed := node.foreground (·.node.layer) (first :: rest)
    let row := ((writeFlex stack placed).run (behindMask node start)).1.1
    NodeInfo.Surrounds (α := α)
      (NodeInfo.inPadding node.layer.arrangement.insets? start.settings.widthUnit row)
      ((writeContent node first rest).run start).1.1 := by
  intro placed row
  let unit := start.settings.widthUnit
  have opened : (writeContent node first rest).run start =
      StateT.run (if node.takesBackground first.node.layer then do
          let written ← writeChildren node true rest
          let onto ← onBackground first.node.layer (padded node.layer written.1 unit) unit
          pure (onto, first.node :: written.2)
        else do
          let written ← writeChildren node false (first :: rest)
          pure (padded node.layer written.1 unit, written.2)) (behindMask node start) := rfl
  rw [opened, writeChildren_of_stack active, writeChildren_of_stack active]
  by_cases takes : node.takesBackground first.node.layer = true
  · have behind : placed = rest := if_pos takes
    rw [if_pos takes]
    obtain ⟨decoration, onto⟩ := onBackground_yields_decorated first.node.layer
      (padded node.layer ((writeFlex stack rest).run (behindMask node start)).1.1 unit) unit
      ((writeFlex stack rest).run (behindMask node start)).2
    have decorated : NodeInfo.Surrounds (α := α)
        (NodeInfo.inPadding node.layer.arrangement.insets? unit row) _ := .onBackground decoration
    simp only [row, behind] at decorated ⊢
    exact onto ▸ decorated
  · have whole : placed = first :: rest := if_neg takes
    rw [if_neg takes]
    simp only [row, whole]
    exact NodeInfo.Surrounds.bare

/-- The same with the scrolling. -/
theorem writeBody_surrounds (drawn : node.isDrawnGroup = true) (first : Child α)
    (rest : List (Child α)) (start : Context α) :
    let placed := node.foreground (·.node.layer) (first :: rest)
    let row := ((writeFlex stack placed).run (behindMask node start)).1.1
    NodeInfo.Surrounds (α := α)
      (NodeInfo.inPadding node.layer.arrangement.insets? start.settings.widthUnit row)
      ((node.writeBody (first :: rest)).run start).1.1 := by
  intro placed row
  have content := writeContent_surrounds active first rest start
  unfold NodeInfo.isDrawnGroup at drawn
  unfold NodeInfo.writeBody
  cases kind : node.kind with
  | widgetRoot | box | text | shape =>
      rw [kind] at drawn
      cases drawn
  | group inside =>
      rw [kind] at drawn
      cases inside with
      | instanceOf widget => cases drawn
      | plain =>
          have unmarked : node.layer.isMarkedForExport = false := by simpa using drawn
          dsimp only
          rw [unmarked, if_neg Bool.false_ne_true]
          exact content
      | scroll direction =>
          have unmarked : node.layer.isMarkedForExport = false := by simpa using drawn
          dsimp only
          rw [unmarked, if_neg Bool.false_ne_true]
          exact content.scrolled _ _ direction

end Stacks

/-- The cells of a row or column are the children with code, the last one first. Between two
cells stands the gap for the place of the second one, unless it is zero, and the first gap
above the bound is trimmed. If the last child has no code, then a gap stands in front of the
first cell as well: the one for its place. -/
theorem stack_spaces_cells {node : NodeInfo α} {stack : Stack α} (drawn : node.isDrawnGroup = true)
    (active : node.layer.arrangement.activeStack? = some stack) (first : Child α)
    (rest : List (Child α)) (start : Context α) :
    let placed := node.foreground (·.node.layer) (first :: rest)
    let cells := drawnCells placed (behindMask node start)
    let gap (cell : Cell α) := recordedGap stack.spacings cell.place
    let unit := start.settings.widthUnit
    ∃ items : List (Item α),
      NodeInfo.Surrounds (α := α)
          (NodeInfo.inPadding node.layer.arrangement.insets? unit (flexCode stack.orientation unit items))
          ((node.writeBody (first :: rest)).run start).1.1 ∧
        (¬OpensWithGap stack.spacings placed.length cells → items = between gap cells) ∧
        (OpensWithGap stack.spacings placed.length cells →
          items = spaced (trimFirst (cells.map gap)) cells) := by
  intro placed cells gap unit
  have surrounds := writeBody_surrounds active drawn first rest start
  dsimp only at surrounds
  rw [writeFlex_run, settings_behindMask] at surrounds
  refine ⟨_, surrounds, ?_⟩
  exact items_eq stack.spacings (pairwise_drawnCells placed _) fun _ => place_lt_of_mem_drawnCells

def titleLayer : LayerInfo Rat :=
  let block : TextBlock Rat := { TextBlock.empty with text := "Hi" }
  { LayerInfo.usual "title" "Title" (.text block) with
    hasDefaultName := true, localBounds := ⟨0, 0, 50, 20⟩ }

/-- A group without children, which has no code. -/
def bareLayer : LayerInfo Rat :=
  { LayerInfo.usual "bare" "Bare" .group with hasDefaultName := true, localBounds := ⟨0, 0, 50, 20⟩ }

def titleNode : Node Rat :=
  ⟨⟨titleLayer, .text, { Layout.initial with isEnabled := false }, [], .inline, {}⟩, []⟩

def bareNode : Node Rat :=
  ⟨⟨bareLayer, .group .plain, Layout.initial, [], .inline, {}⟩, []⟩

def columnStack : Stack Rat :=
  ⟨.vertical, .perGap [24, 30]⟩

def columnLayer : LayerInfo Rat :=
  { LayerInfo.usual "column" "Column" .group with
    hasDefaultName := true
    localBounds := ⟨0, 0, 50, 50⟩
    arrangement := ⟨none, .stack, some columnStack, none⟩ }

def columnNode : NodeInfo Rat :=
  ⟨columnLayer, .group .plain, Layout.initial, [], .inline, {}⟩

def columnDocument (layers : List (LayerInfo Rat)) : Document Rat :=
  let page : LayerInfo Rat := { LayerInfo.usual "home" "Home" .artboard with hasDefaultName := true }
  ⟨[], [⟨page, [⟨columnLayer, layers.map fun layer => ⟨layer, []⟩⟩]⟩], ⟨[], []⟩⟩

def columnStart (layers : List (LayerInfo Rat)) : Context Rat :=
  Context.start (Index.ofDocument (columnDocument layers)) {} .clipboard

/-- The cells of a column of nodes. -/
def columnCells (nodes : List (Node Rat)) : List (Cell Rat) :=
  drawnCells (Node.asChildren nodes) (columnStart (nodes.map (·.layer)))

def columnCode (items : List (Item Rat)) : String :=
  flexCode .vertical "" items

/-- The gap in front of a child without code is left out with it. -/
theorem stack_spaces_cells_column :
    let nodes := [titleNode, bareNode, titleNode]
    let start := columnStart (nodes.map (·.layer))
    let cells := columnCells nodes
    cells.map Cell.place = [2, 0] ∧
      NodeInfo.Surrounds (α := Rat)
        ("Column(crossAxisAlignment: CrossAxisAlignment.start, " ++
          "mainAxisAlignment: MainAxisAlignment.start, children: <Widget>[" ++
          "SizedBox(height: 20, child: Text('Hi', style: TextStyle(fontFamily: 'Helvetica Neue', " ++
          "fontSize: 14, ), softWrap: false, ), ), SizedBox(height: 21, ), " ++
          "SizedBox(height: 20, child: Text('Hi', style: TextStyle(fontFamily: 'Helvetica Neue', " ++
          "fontSize: 14, ), softWrap: false, ), ), ], )")
        ((columnNode.writeBody (Node.asChildren nodes)).run start).1.1 := by
  intro nodes start cells
  have places : cells.map Cell.place = [2, 0] := by decide +kernel
  have drawn : columnNode.isDrawnGroup = true := rfl
  have active : columnNode.layer.arrangement.activeStack? = some columnStack := rfl
  obtain ⟨items, surrounds, closed, -⟩ := stack_spaces_cells drawn active
    ⟨titleNode, titleNode.writeWith⟩ (Node.asChildren [bareNode, titleNode]) start
  have closes : ¬OpensWithGap columnStack.spacings 3 cells := by
    cases listed : cells with
    | nil => exact id
    | cons first rest =>
        have last : first.place = 2 := by
          rw [listed] at places
          exact (List.cons.inj places).1
        rintro ⟨other, -⟩
        exact other (by rw [last])
  refine ⟨places, ?_⟩
  have code : columnCode (between (fun cell => recordedGap columnStack.spacings cell.place) cells) =
      "Column(crossAxisAlignment: CrossAxisAlignment.start, " ++
        "mainAxisAlignment: MainAxisAlignment.start, children: <Widget>[" ++
        "SizedBox(height: 20, child: Text('Hi', style: TextStyle(fontFamily: 'Helvetica Neue', " ++
        "fontSize: 14, ), softWrap: false, ), ), SizedBox(height: 21, ), " ++
        "SizedBox(height: 20, child: Text('Hi', style: TextStyle(fontFamily: 'Helvetica Neue', " ++
        "fontSize: 14, ), softWrap: false, ), ), ], )" := by
    decide +kernel
  rw [closed closes] at surrounds
  exact code ▸ surrounds

/-- Without a last child that has code, a gap stands in front of the only cell. -/
theorem gap_opens_column :
    let layers := [titleLayer, bareLayer]
    let cells := columnCells [titleNode, bareNode]
    let cell := "SizedBox(height: 20, child: Text('Hi', style: TextStyle(" ++
      "fontFamily: 'Helvetica Neue', fontSize: 14, ), softWrap: false, ), ), "
    let opening := "Column(crossAxisAlignment: CrossAxisAlignment.start, " ++
      "mainAxisAlignment: MainAxisAlignment.start, children: <Widget>["
    columnCode (between (fun cell => recordedGap columnStack.spacings cell.place) cells) =
        opening ++ cell ++ "], )" ∧
      ((columnDocument layers).copySelected {} "column").toOption.map (·.code) =
        some (opening ++ "SizedBox(height: 21, ), " ++ cell ++ "], )") := by
  intro layers cells cell opening
  constructor
  · decide +kernel
  · decide +kernel

end Group

end DesignExport
