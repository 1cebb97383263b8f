import DesignExport.Proofs.Tree.Shown
import Mathlib.Data.List.Nodup
set_option autoImplicit false

/-! Backgrounds that stand aside. The first child of a group or of a page may be drawn as
the decoration or the colour of its parent, and is not written itself then. A layer that
is to be shown is shown by some node that a tree reaches, or lost in such a background. -/

namespace DesignExport

variable {α : Type}

namespace NodeInfo

/-- The child that is not written because it is the background. -/
def backdrop? (node : NodeInfo α) (children : List (Node α)) : Option (Node α) :=
  match node.kind with
  | .widgetRoot => (node.soleChild? children).bind fun _ => children.head?
  | _ => if node.isDrawnGroup then (node.others? children).bind fun _ => children.head? else none

/-- A group shows the fill of its background if that has a colour; the colour of a page
is the fill of the background. -/
def Paints (node : NodeInfo α) (layer : LayerInfo α) : Prop :=
  match node.kind with
  | .widgetRoot => ∃ fill color, layer.activeFill? = some fill ∧ fill.firstColor? = some color
  | _ => ∀ fill, layer.activeFill? = some fill → ∃ color, fill.firstColor? = some color

/-- Roots and groups that are not shown as images draw their children. -/
def Holds (node : NodeInfo α) : Prop :=
  node.kind = .widgetRoot ∨ node.isDrawnGroup = true

variable {node : NodeInfo α}

theorem Holds.takesChildren (holds : node.Holds) : node.kind.takesChildren = true := by
  rcases holds with root | drawn
  · rw [root]
    rfl
  · unfold isDrawnGroup at drawn
    split at drawn
    next plain => rw [plain]; rfl
    next scroll => rw [scroll]; rfl
    next => cases drawn

theorem takesBackground_of_others? {first : Node α} {others rest : List (Node α)}
    (found : node.others? (first :: others) = some rest) :
    node.takesBackground first.layer = true ∧ others = rest := by
  unfold others? at found
  dsimp only at found
  split at found
  next takes =>
    cases found
    exact ⟨takes, rfl⟩
  next => cases found

theorem others?_of_soleChild? {children : List (Node α)} {only : Node α}
    (sole : node.soleChild? children = some only) : node.others? children = some [only] := by
  unfold soleChild? at sole
  split at sole
  · split at sole
    next others =>
      cases sole
      exact others
    next => cases sole
  · cases sole

theorem backdrop?_of_closed (closed : ¬ node.Holds) (children : List (Node α)) :
    node.backdrop? children = none := by
  obtain ⟨noRoot, noGroup⟩ := not_or.mp closed
  unfold backdrop?
  split
  next root => exact absurd root noRoot
  next => exact if_neg noGroup

/-- The background that stands aside and the children that are written are all children. -/
theorem backdrop?_toList_append_written (holds : node.Holds) (children : List (Node α)) :
    (node.backdrop? children).toList ++ node.written children = children := by
  rcases holds with root | drawn
  · unfold backdrop? written
    rw [root]
    dsimp only
    cases sole : node.soleChild? children with
    | none => rfl
    | some only =>
        obtain ⟨first, same⟩ := eq_cons_of_others? (others?_of_soleChild? sole)
        rw [same]
        rfl
  · have noRoot : node.kind ≠ .widgetRoot := by
      intro root
      rw [isDrawnGroup, root] at drawn
      cases drawn
    rw [Group.written_of_isDrawnGroup drawn]
    unfold backdrop?
    split
    next root => exact absurd root noRoot
    next =>
      rw [if_pos drawn]
      cases others : node.others? children with
      | none => rfl
      | some rest =>
          obtain ⟨first, same⟩ := eq_cons_of_others? others
          rw [same]
          rfl

theorem eq_cons_of_backdrop? (drawn : node.isDrawnGroup = true) {children : List (Node α)}
    {aside : Node α} (stands : node.backdrop? children = some aside) :
    ∃ rest, children = aside :: rest ∧ node.takesBackground aside.layer = true := by
  unfold backdrop? at stands
  split at stands
  next root =>
    rw [isDrawnGroup, root] at drawn
    cases drawn
  next =>
    rw [if_pos drawn] at stands
    obtain ⟨rest, others, head⟩ := Option.bind_eq_some_iff.mp stands
    obtain ⟨first, same⟩ := eq_cons_of_others? others
    rw [same] at head others ⊢
    cases head
    exact ⟨rest, rfl, (takesBackground_of_others? others).1⟩

theorem eq_pair_of_backdrop? (root : node.kind = .widgetRoot) {children : List (Node α)}
    {aside : Node α} (stands : node.backdrop? children = some aside) :
    node.layer.kind = .artboard ∧
      ∃ only, children = [aside, only] ∧ node.takesBackground aside.layer = true := by
  unfold backdrop? at stands
  rw [root] at stands
  obtain ⟨only, sole, head⟩ := Option.bind_eq_some_iff.mp stands
  have others := others?_of_soleChild? sole
  obtain ⟨first, same⟩ := eq_cons_of_others? others
  rw [same] at head others ⊢
  cases head
  refine ⟨?_, only, rfl, (takesBackground_of_others? others).1⟩
  by_contra noPage
  rw [Root.soleChild?_of_not_page root noPage] at sole
  cases sole

theorem holds_of_mem_written {children : List (Node α)} {child : Node α}
    (written : child ∈ node.written children) : node.Holds := by
  by_contra closed
  obtain ⟨noRoot, noGroup⟩ := not_or.mp closed
  rw [written_of_closed (Bool.eq_false_iff.mpr noGroup) noRoot] at written
  exact absurd written List.not_mem_nil

end NodeInfo

namespace Node

/-- A node shows a layer: as its own, as a primitive of its unit, or as the background that
it paints. -/
inductive Exhibits (node : Node α) (layer : LayerInfo α) : Prop where
  | own (drawn : node.kind = .box ∨ node.kind = .text) (same : node.layer = layer)
  | member {unit : ShapeUnit α} (shape : node.kind = .shape unit) (inside : layer ∈ unit.primitives)
  | backdrop {aside : Node α} (stands : node.backdrop? node.children = some aside)
      (shown : layer ∈ aside.shown) (same : aside.layer = layer) (paints : node.Paints layer)

/-- Somewhere in a tree a layer stands in a background of which nothing of the layer is
painted. -/
def Loses (tree : Node α) (layer : LayerInfo α) : Prop :=
  ∃ part aside, tree.Reaches part ∧ part.backdrop? part.children = some aside ∧
    layer ∈ aside.shown ∧ ¬ (aside.layer = layer ∧ part.Paints layer)

/-- All nodes of a tree are written where they stand. -/
abbrev IsInline (node : Node α) : Prop :=
  node.Throughout fun info => info.mode = .inline

section Children

variable {info : NodeInfo α} {children : List (Node α)} {layer : LayerInfo α}

theorem mem_shown_iff (holds : info.Holds) :
    layer ∈ shown ⟨info, children⟩ ↔
      (∃ aside, info.backdrop? children = some aside ∧ layer ∈ aside.shown) ∨
        ∃ child ∈ info.written children, layer ∈ child.shown := by
  have all := info.backdrop?_toList_append_written holds children
  rw [shown_of_holds holds, ← all, shownAll_append, List.mem_append, all, mem_shownAll, mem_shownAll]
  simp only [Option.mem_toList]

theorem placed_eq_written (inline : IsInline ⟨info, children⟩) :
    info.placed children = info.written children :=
  NodeInfo.placed_of_isDrawn (by rw [NodeInfo.isDrawn, (throughout_mk.mp inline).1])

theorem isInline_of_mem_written (inline : IsInline ⟨info, children⟩) {child : Node α}
    (written : child ∈ info.written children) : child.IsInline :=
  (throughout_mk.mp inline).2 child (info.written_subset children written)

theorem reaches_of_written (inline : IsInline ⟨info, children⟩) {child part : Node α}
    (written : child ∈ info.written children) (below : child.Reaches part) :
    Reaches ⟨info, children⟩ part :=
  Reaches.child (by rw [placed_eq_written inline]; exact written) below

end Children

/-- A layer that a tree is to show is shown by a node that the tree reaches, unless it is
lost in a background. -/
theorem exhibited_or_lost {layer : LayerInfo α} : ∀ {node : Node α}, node.IsInline →
    layer ∈ node.shown →
      (∃ part, node.Reaches part ∧ part.Exhibits layer) ∨ node.Loses layer
  | ⟨info, children⟩, inline, shown => by
      -- What is not written below a root or a group is its background, so the layer is lost
      -- there, or the layer of the background itself.
      by_cases holds : info.Holds
      · rcases (mem_shown_iff holds).mp shown with ⟨aside, stands, inside⟩ | ⟨child, written, inside⟩
        · by_cases painted : aside.layer = layer ∧ info.Paints layer
          · exact Or.inl ⟨_, Reaches.self _, Exhibits.backdrop stands inside painted.1 painted.2⟩
          · exact Or.inr ⟨_, aside, Reaches.self _, stands, inside, painted⟩
        · have member := info.written_subset children written
          rcases exhibited_or_lost (isInline_of_mem_written inline written) inside with
            ⟨part, reaches, exhibits⟩ | ⟨part, aside, reaches, lost⟩
          · exact Or.inl ⟨part, reaches_of_written inline written reaches, exhibits⟩
          · exact Or.inr ⟨part, aside, reaches_of_written inline written reaches, lost⟩
      · obtain ⟨noRoot, noGroup⟩ := not_or.mp holds
        refine Or.inl ⟨_, Reaches.self _, ?_⟩
        rw [Node.shown] at shown
        cases kind : info.kind with
        | widgetRoot => exact absurd kind noRoot
        | box =>
            rw [kind] at shown
            exact Exhibits.own (Or.inl kind) (List.mem_singleton.mp shown).symm
        | text =>
            rw [kind] at shown
            exact Exhibits.own (Or.inr kind) (List.mem_singleton.mp shown).symm
        | shape unit =>
            rw [kind] at shown
            exact Exhibits.member kind shown
        | group inside =>
            rw [kind] at shown
            dsimp only at shown
            rw [if_neg noGroup] at shown
            exact absurd shown List.not_mem_nil
termination_by node => sizeOf node
decreasing_by
  have smaller := List.sizeOf_lt_of_mem member
  simp only [Node.mk.sizeOf_spec]
  omega

/-! ### Layers that are to be shown once -/

section Once

variable {info : NodeInfo α} {children : List (Node α)} {layer : LayerInfo α}

theorem loses_iff (inline : IsInline ⟨info, children⟩) :
    Loses ⟨info, children⟩ layer ↔
      (∃ aside, info.backdrop? children = some aside ∧ layer ∈ aside.shown ∧
          ¬ (aside.layer = layer ∧ info.Paints layer)) ∨
        ∃ child ∈ info.written children, child.Loses layer := by
  constructor
  · rintro ⟨part, aside, reaches, lost⟩
    cases reaches with
    | self => exact Or.inl ⟨aside, lost⟩
    | child placed below =>
        rw [placed_eq_written inline] at placed
        exact Or.inr ⟨_, placed, part, aside, below, lost⟩
  · rintro (⟨aside, lost⟩ | ⟨child, written, part, aside, below, lost⟩)
    · exact ⟨_, aside, Reaches.self _, lost⟩
    · exact ⟨part, aside, reaches_of_written inline written below, lost⟩

theorem holds_of_backdrop? {aside : Node α} (stands : info.backdrop? children = some aside) :
    info.Holds := by
  by_contra closed
  rw [NodeInfo.backdrop?_of_closed closed] at stands
  cases stands

theorem mem_shown_of_exhibits {node : Node α} (exhibits : node.Exhibits layer) :
    layer ∈ node.shown := by
  obtain ⟨info, children⟩ := node
  rcases exhibits with ⟨drawn, same⟩ | ⟨shape, inside⟩ | ⟨stands, inside, -, -⟩
  · rw [shown, ← same]
    rcases drawn with box | text
    · have kind : info.kind = .box := box
      rw [kind]
      exact List.mem_singleton_self _
    · have kind : info.kind = .text := text
      rw [kind]
      exact List.mem_singleton_self _
  · have kind : info.kind = .shape _ := shape
    rw [shown, kind]
    exact inside
  · exact (mem_shown_iff (holds_of_backdrop? stands)).mpr (Or.inl ⟨_, stands, inside⟩)

theorem mem_shown_of_reaches {node part : Node α} (reaches : node.Reaches part)
    (inside : layer ∈ part.shown) : node.IsInline → layer ∈ node.shown := by
  induction reaches with
  | self => exact fun _ => inside
  | @child info children child part placed below ih =>
      intro inline
      rw [placed_eq_written inline] at placed
      have deeper := ih inside (isInline_of_mem_written inline placed)
      exact (mem_shown_iff (NodeInfo.holds_of_mem_written placed)).mpr (Or.inr ⟨child, placed, deeper⟩)

theorem mem_shown_of_loses {node : Node α} (inline : node.IsInline) (loses : node.Loses layer) :
    layer ∈ node.shown := by
  obtain ⟨⟨info, children⟩, aside, reaches, stands, inside, -⟩ := loses
  exact mem_shown_of_reaches reaches
    ((mem_shown_iff (holds_of_backdrop? stands)).mpr (Or.inl ⟨aside, stands, inside⟩)) inline

theorem eq_of_mem_shown {first second : Node α} : ∀ {nodes : List (Node α)},
    (shownAll nodes).Nodup → first ∈ nodes → second ∈ nodes → layer ∈ first.shown →
      layer ∈ second.shown → first = second
  | node :: rest, once, one, other, shownFirst, shownSecond => by
      rw [shownAll, List.nodup_append'] at once
      obtain ⟨_, restOnce, apart⟩ := once
      rcases List.mem_cons.mp one with here | later
      · rcases List.mem_cons.mp other with alsoHere | later
        · rw [here, alsoHere]
        · exact absurd (mem_shownAll.mpr ⟨second, later, shownSecond⟩) (apart (here ▸ shownFirst))
      · rcases List.mem_cons.mp other with here | alsoLater
        · exact absurd (mem_shownAll.mpr ⟨first, later, shownFirst⟩) (apart (here ▸ shownSecond))
        · exact eq_of_mem_shown restOnce later alsoLater shownFirst shownSecond

/-- What stands in the background is not drawn on it, if every layer is to be shown once. -/
theorem nodup_of_holds (holds : info.Holds) (once : (shown ⟨info, children⟩).Nodup) :
    (shownAll (info.written children)).Nodup ∧
      ∀ aside, info.backdrop? children = some aside → ∀ layer ∈ aside.shown,
        ∀ child ∈ info.written children, layer ∉ child.shown := by
  rw [shown_of_holds holds, ← info.backdrop?_toList_append_written holds children,
    shownAll_append, List.nodup_append'] at once
  obtain ⟨_, writtenOnce, apart⟩ := once
  refine ⟨writtenOnce, fun aside stands layer inside child written shown => ?_⟩
  refine apart (mem_shownAll.mpr ⟨aside, ?_, inside⟩) (mem_shownAll.mpr ⟨child, written, shown⟩)
  exact Option.mem_toList.mpr stands

theorem nodup_shown_of_mem {child : Node α} : ∀ {nodes : List (Node α)},
    (shownAll nodes).Nodup → child ∈ nodes → child.shown.Nodup
  | node :: rest, once, member => by
      rw [shownAll, List.nodup_append'] at once
      rcases List.mem_cons.mp member with here | later
      · exact here ▸ once.1
      · exact nodup_shown_of_mem once.2.1 later

/-- A layer that is to be shown once is not both shown and lost. -/
theorem not_loses_of_exhibits {node part : Node α} (reaches : node.Reaches part)
    (exhibits : part.Exhibits layer) : node.IsInline → node.shown.Nodup → ¬ node.Loses layer := by
  -- At every node on the route the layer is in one place only: in the background or in one
  -- of the children that are written.
  induction reaches with
  | self node =>
      intro inline once loses
      obtain ⟨info, children⟩ := node
      have holds : info.Holds := by
        rcases (loses_iff inline).mp loses with ⟨aside, stands, -⟩ | ⟨child, written, -⟩
        · exact holds_of_backdrop? stands
        · exact NodeInfo.holds_of_mem_written written
      rcases exhibits with ⟨drawn, -⟩ | ⟨shape, -⟩ | ⟨stands, inside, same, paints⟩
      · have takes : (⟨info, children⟩ : Node α).kind.takesChildren = true := holds.takesChildren
        rcases drawn with box | text
        · rw [box] at takes
          cases takes
        · rw [text] at takes
          cases takes
      · have takes : (⟨info, children⟩ : Node α).kind.takesChildren = true := holds.takesChildren
        rw [shape] at takes
        cases takes
      · rcases (loses_iff inline).mp loses with
          ⟨aside, alsoStands, -, unpainted⟩ | ⟨child, written, lost⟩
        · cases stands.symm.trans alsoStands
          exact unpainted ⟨same, paints⟩
        · exact (nodup_of_holds holds once).2 _ stands layer inside child written
            (mem_shown_of_loses (isInline_of_mem_written inline written) lost)
  | @child info children child part placed below ih =>
      intro inline once loses
      rw [placed_eq_written inline] at placed
      have holds := NodeInfo.holds_of_mem_written placed
      have childInline := isInline_of_mem_written inline placed
      have shown := mem_shown_of_reaches below (mem_shown_of_exhibits exhibits) childInline
      rcases (loses_iff inline).mp loses with ⟨aside, stands, inside, -⟩ | ⟨other, written, lost⟩
      · exact (nodup_of_holds holds once).2 aside stands layer inside child placed shown
      · have writtenOnce := (nodup_of_holds holds once).1
        have alsoShown := mem_shown_of_loses (isInline_of_mem_written inline written) lost
        have same := eq_of_mem_shown writtenOnce placed written shown alsoShown
        rw [← same] at lost
        exact ih exhibits childInline (nodup_shown_of_mem writtenOnce placed) lost

end Once

end Node

end DesignExport
