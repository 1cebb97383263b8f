import DesignExport.Expression.Group
set_option autoImplicit false

/-! Where the code of a tree has gaps. A group without children has no code. Most places
for a child leave such a group out; the place for the only layer on a background does
not, and the argument that stands there is left without a value. -/

namespace DesignExport

variable {α : Type}

namespace NodeInfo

/-- Groups that are not shown as an image of themselves. -/
def isDrawnGroup (node : NodeInfo α) : Bool :=
  match node.kind with
  | .group .plain | .group (.scroll _) => !node.layer.isMarkedForExport
  | _ => false

/-- Groups without children have no code. -/
def isEmptyGroup (node : NodeInfo α) (children : List (Node α)) : Bool :=
  node.isDrawnGroup && children.isEmpty

def isPage (node : NodeInfo α) : Bool :=
  match node.kind, node.layer.kind with
  | .widgetRoot, .artboard => true
  | _, _ => false

/-- What is drawn on the first child, if that is the background. -/
def others? (node : NodeInfo α) (children : List (Node α)) : Option (List (Node α)) :=
  match children with
  | first :: rest => if node.takesBackground first.layer then some rest else none
  | [] => none

theorem eq_cons_of_others? {node : NodeInfo α} {children rest : List (Node α)}
    (found : node.others? children = some rest) : ∃ first, children = first :: rest := by
  unfold others? at found
  split at found
  case h_1 first others =>
    split at found
    · cases found
      exact ⟨first, rfl⟩
    · cases found
  case h_2 => cases found

/-- The only child on a background. It stands in the code of its parent without a list
around it, unless the parent is a stack. -/
def soleChild? (node : NodeInfo α) (children : List (Node α)) : Option (Node α) :=
  if node.isPage || (node.isDrawnGroup && !node.layer.arrangement.isStack) then
    match node.others? children with
    | some [only] => some only
    | _ => none
  else none

/-- The children whose code is part of the code of their parent. -/
def written (node : NodeInfo α) (children : List (Node α)) : List (Node α) :=
  match node.kind with
  | .widgetRoot =>
      match node.soleChild? children with
      | some only => [only]
      | none => children
  | _ => if node.isDrawnGroup then (node.others? children).getD children else []

/-- Only roots and groups have code for their children. -/
theorem written_of_closed {node : NodeInfo α} (closed : node.isDrawnGroup = false)
    (noRoot : node.kind ≠ .widgetRoot) (children : List (Node α)) : node.written children = [] := by
  unfold written
  split
  case h_1 root => exact absurd root noRoot
  case h_2 => rw [if_neg (by rw [closed]; exact Bool.false_ne_true)]

end NodeInfo

namespace Node

/-- Nothing is written where the node stands. -/
def isBlank (node : Node α) : Bool :=
  node.isEmptyGroup node.children && (node.mode = .inline || node.mode = .method)

/-- Some argument in the code of a node has no value: the only child on the background
of the node itself, or of a node that is written inside it, has no code. -/
inductive LeavesGap : Node α → Prop where
  | atSole {info : NodeInfo α} {children : List (Node α)} {only : Node α}
      (sole : info.soleChild? children = some only) (blank : only.isBlank = true) :
      LeavesGap ⟨info, children⟩
  | inChild {info : NodeInfo α} {children : List (Node α)} {child : Node α}
      (written : child ∈ info.written children) (inline : child.mode = .inline)
      (gap : LeavesGap child) : LeavesGap ⟨info, children⟩

theorem leavesGap_iff {info : NodeInfo α} {children : List (Node α)} :
    LeavesGap ⟨info, children⟩ ↔
      (∃ only, info.soleChild? children = some only ∧ only.isBlank = true) ∨
        ∃ child ∈ info.written children, child.mode = .inline ∧ child.LeavesGap := by
  constructor
  · intro gap
    cases gap with
    | atSole sole blank => exact Or.inl ⟨_, sole, blank⟩
    | inChild written inline gap => exact Or.inr ⟨_, written, inline, gap⟩
  · rintro (⟨only, sole, blank⟩ | ⟨child, written, inline, gap⟩)
    · exact LeavesGap.atSole sole blank
    · exact LeavesGap.inChild written inline gap

/-- A gap in the code that stands where the node is. -/
def GapWithin (node : Node α) : Prop :=
  node.mode = .inline ∧ node.LeavesGap

theorem not_leavesGap_of_childless {info : NodeInfo α} :
    ¬LeavesGap (⟨info, []⟩ : Node α) := by
  have sole : info.soleChild? [] = none := by
    unfold NodeInfo.soleChild?
    split <;> rfl
  have written : info.written [] = [] := by
    unfold NodeInfo.written
    split
    · rw [sole]
    · split <;> rfl
  rw [leavesGap_iff, sole, written]
  rintro (⟨only, found, _⟩ | ⟨child, member, _⟩)
  · cases found
  · cases member

theorem not_leavesGap_of_isBlank {node : Node α} (blank : node.isBlank = true) :
    ¬node.LeavesGap := by
  obtain ⟨info, children⟩ := node
  simp only [isBlank, NodeInfo.isEmptyGroup, Bool.and_eq_true] at blank
  have childless : children = [] := List.isEmpty_iff.mp blank.1.2
  subst childless
  exact not_leavesGap_of_childless

theorem not_gapWithin_of_isBlank {node : Node α} (blank : node.isBlank = true) :
    ¬node.GapWithin :=
  fun within => not_leavesGap_of_isBlank blank within.2

/-- Nodes without code for their children leave no gaps. -/
theorem not_leavesGap_of_closed {info : NodeInfo α} (closed : info.isDrawnGroup = false)
    (noRoot : info.kind ≠ .widgetRoot) (children : List (Node α)) :
    ¬LeavesGap ⟨info, children⟩ := by
  have page : info.isPage = false := by
    unfold NodeInfo.isPage
    split
    case h_1 root _ => exact absurd root noRoot
    case h_2 => rfl
  have sole : info.soleChild? children = none := by
    unfold NodeInfo.soleChild?
    rw [page, closed]
    rfl
  rw [leavesGap_iff, sole, NodeInfo.written_of_closed closed noRoot]
  rintro (⟨only, found, _⟩ | ⟨child, member, _⟩)
  · cases found
  · cases member

/-- Gaps do not depend on the layout. -/
theorem leavesGap_withLayout (info : NodeInfo α) (layout : Layout α) (children : List (Node α)) :
    LeavesGap ⟨{ info with layout := layout }, children⟩ ↔ LeavesGap ⟨info, children⟩ := by
  rw [leavesGap_iff, leavesGap_iff]
  exact Iff.rfl

end Node

/-- Some of several nodes leaves a gap where it is written. -/
def GapAmong (nodes : List (Node α)) : Prop :=
  ∃ node ∈ nodes, node.GapWithin

theorem gapAmong_cons {node : Node α} {rest : List (Node α)} :
    GapAmong (node :: rest) ↔ node.GapWithin ∨ GapAmong rest := by
  simp only [GapAmong, List.mem_cons, exists_eq_or_imp]

theorem not_gapAmong_nil : ¬GapAmong ([] : List (Node α)) := by
  rintro ⟨node, member, _⟩
  cases member

namespace Group

/-- Each child of a stack has a space in front of it, so that none is left out. -/
theorem map_snd_withGaps [Scalar α] (spacings : Spacings α) (children : List (Child α)) :
    (withGaps ((spacings.gaps (children.length - 1)).reverse) children.reverse).map Prod.snd =
      children.reverse := by
  refine List.map_snd_zip ?_
  simp only [List.length_reverse, List.length_cons, Spacings.gaps, List.length_map,
    List.length_range]
  omega

/-- The only node of several that stand on a background has no code. -/
def IsSoleBlank (node : NodeInfo α) (nodes : List (Node α)) : Prop :=
  node.layer.arrangement.isStack = false ∧ ∃ only, nodes = [only] ∧ only.isBlank = true

variable {node : NodeInfo α} (drawn : node.isDrawnGroup = true)

include drawn

theorem not_isPage : node.isPage = false := by
  unfold NodeInfo.isDrawnGroup at drawn
  unfold NodeInfo.isPage
  cases kind : node.kind with
  | widgetRoot => rw [kind] at drawn; cases drawn
  | box | group | shape | text => rfl

theorem written_of_isDrawnGroup (children : List (Node α)) :
    node.written children = (node.others? children).getD children := by
  unfold NodeInfo.written
  cases kind : node.kind with
  | widgetRoot =>
      unfold NodeInfo.isDrawnGroup at drawn
      rw [kind] at drawn
      cases drawn
  | box | group | shape | text => exact if_pos drawn

theorem written_of_takes {first : Node α} (takes : node.takesBackground first.layer = true)
    (rest : List (Node α)) : node.written (first :: rest) = rest := by
  have others : node.others? (first :: rest) = some rest := if_pos takes
  rw [written_of_isDrawnGroup drawn, others]
  rfl

theorem written_of_takes_none {first : Node α}
    (takesNone : ¬node.takesBackground first.layer = true) (rest : List (Node α)) :
    node.written (first :: rest) = first :: rest := by
  have others : node.others? (first :: rest) = none := if_neg takesNone
  rw [written_of_isDrawnGroup drawn, others]
  rfl

/-- The gaps of a group with children are those of what it draws on its background, or of
all its children. -/
theorem leavesGap_iff_of_isDrawnGroup (children : List (Node α)) :
    Node.LeavesGap ⟨node, children⟩ ↔
      match node.others? children with
      | some others => IsSoleBlank node others ∨ GapAmong others
      | none => GapAmong children := by
  have sole (only : Node α) : (node.soleChild? children = some only ∧ only.isBlank = true) ↔
      node.layer.arrangement.isStack = false ∧ node.others? children = some [only] ∧
        only.isBlank = true := by
    unfold NodeInfo.soleChild?
    rw [not_isPage drawn, drawn, Bool.false_or, Bool.true_and]
    cases node.layer.arrangement.isStack with
    | true => simp
    | false =>
        simp only [Bool.not_false, if_true, true_and]
        refine and_congr_left fun _ => ?_
        split
        case h_1 other found => simp [found]
        case h_2 different =>
          constructor
          · intro found
            cases found
          · intro found
            exact absurd found (different only)
  rw [Node.leavesGap_iff, written_of_isDrawnGroup drawn]
  simp only [sole]
  cases others : node.others? children with
  | none =>
      constructor
      · rintro (⟨only, _, found, _⟩ | gap)
        · cases found
        · exact gap
      · exact Or.inr
  | some others =>
      refine or_congr ?_ Iff.rfl
      constructor
      · rintro ⟨only, free, found, blank⟩
        cases found
        exact ⟨free, only, rfl, blank⟩
      · rintro ⟨free, only, same, blank⟩
        exact ⟨only, free, congrArg some same, blank⟩

end Group

namespace Root

variable {node : NodeInfo α} (root : node.kind = .widgetRoot)

include root

/-- The gaps of a root are those of what is the body of its page, or of its children. -/
theorem leavesGap_iff_of_root (children : List (Node α)) :
    Node.LeavesGap ⟨node, children⟩ ↔
      match node.soleChild? children with
      | some only => only.isBlank = true ∨ only.GapWithin
      | none => GapAmong children := by
  rw [Node.leavesGap_iff, NodeInfo.written, root]
  cases node.soleChild? children with
  | none => simp [GapAmong, Node.GapWithin]
  | some only => simp [Node.GapWithin]

theorem soleChild?_of_root (children : List (Node α)) :
    node.soleChild? children =
      if node.isPage then
        match node.others? children with
        | some [only] => some only
        | _ => none
      else none := by
  unfold NodeInfo.soleChild?
  have noGroup : node.isDrawnGroup = false := by
    unfold NodeInfo.isDrawnGroup
    rw [root]
  rw [noGroup, Bool.false_and, Bool.or_false]

theorem soleChild?_of_not_page (noPage : node.layer.kind ≠ .artboard) (children : List (Node α)) :
    node.soleChild? children = none := by
  have isPage : node.isPage = false := by
    unfold NodeInfo.isPage
    split
    case h_1 artboard => exact absurd artboard noPage
    case h_2 => rfl
  rw [soleChild?_of_root root, isPage]
  rfl

theorem soleChild?_pair {first only : Node α} (page : node.layer.kind = .artboard)
    (takes : node.takesBackground first.layer = true) :
    node.soleChild? [first, only] = some only := by
  have isPage : node.isPage = true := by
    rw [NodeInfo.isPage, root, page]
  have others : node.others? [first, only] = some [only] := if_pos takes
  rw [soleChild?_of_root root, isPage, others]
  rfl

theorem soleChild?_pair_of_not {first only : Node α}
    (takesNone : ¬node.takesBackground first.layer = true) :
    node.soleChild? [first, only] = none := by
  have others : node.others? [first, only] = none := if_neg takesNone
  rw [soleChild?_of_root root, others]
  split <;> rfl

/-- Only two children can be a background and the only layer on it. -/
theorem soleChild?_of_not_pair {children : List (Child α)}
    (different : ∀ first only, children ≠ [first, only]) :
    node.soleChild? (Child.nodes children) = none := by
  rw [soleChild?_of_root root]
  split
  · split
    case h_1 only background =>
      obtain ⟨first, both⟩ := NodeInfo.eq_cons_of_others? background
      obtain ⟨child, rest, same, _, single⟩ := List.map_eq_cons_iff.mp both
      obtain ⟨last, alone, _⟩ := List.map_eq_singleton_iff.mp single
      subst alone
      exact absurd same (different child last)
    case h_2 => rfl
  · rfl

theorem written_of_sole {children : List (Node α)} {only : Node α}
    (sole : node.soleChild? children = some only) : node.written children = [only] := by
  rw [NodeInfo.written, root, sole]

theorem written_of_no_sole {children : List (Node α)} (noSole : node.soleChild? children = none) :
    node.written children = children := by
  rw [NodeInfo.written, root, noSole]

end Root

end DesignExport
