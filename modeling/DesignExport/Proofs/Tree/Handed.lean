import DesignExport.Proofs.Document.Lineage
import DesignExport.Proofs.Tree.Eager
import DesignExport.Proofs.Tree.Origins
import DesignExport.Proofs.Tree.Special
set_option autoImplicit false

/-! Where the shape pass gets it from that boxes merge. The pass hands that down from a node
to the nodes below it: once a layer asks for it, all layers below have it. A layer that is
compiled alone does not see the layers above it. -/

namespace DesignExport

open Compile (Composed Keeps)

variable {α : Type}

/-! ### Layers above layers -/

namespace Layer

theorem exists_mem_of_mem_flattenAll {layer : Layer α} {layers : List (Layer α)}
    (inside : layer ∈ flattenAll layers) : ∃ top ∈ layers, layer ∈ top.flatten := by
  induction layers with
  | nil => exact absurd inside List.not_mem_nil
  | cons first rest ih =>
      rw [flattenAll, List.mem_append] at inside
      rcases inside with here | later
      · exact ⟨first, List.mem_cons_self, here⟩
      · obtain ⟨top, member, below⟩ := ih later
        exact ⟨top, List.mem_cons_of_mem first member, below⟩

theorem mem_flatten_self (layer : Layer α) : layer ∈ layer.flatten := by
  cases layer
  exact List.mem_cons_self

theorem mem_flatten {layer other : Layer α} :
    other ∈ layer.flatten ↔ other = layer ∨ other ∈ flattenAll layer.children := by
  cases layer
  exact List.mem_cons

mutual

theorem flatten_sublist {layer : Layer α} : ∀ {top : Layer α}, layer ∈ top.flatten →
    List.Sublist layer.flatten top.flatten
  | ⟨info, children⟩, inside => by
      rw [flatten, List.mem_cons] at inside
      rcases inside with same | below
      · rw [same, flatten]
      · rw [flatten]
        exact (flatten_sublist_flattenAll below).cons _

theorem flatten_sublist_flattenAll {layer : Layer α} : ∀ {layers : List (Layer α)},
    layer ∈ flattenAll layers → List.Sublist layer.flatten (flattenAll layers)
  | first :: rest, inside => by
      rw [flattenAll, List.mem_append] at inside
      rw [flattenAll]
      rcases inside with here | later
      · exact (flatten_sublist here).trans (List.sublist_append_left _ _)
      · exact (flatten_sublist_flattenAll later).trans (List.sublist_append_right _ _)

end

theorem nodup_flatten {layer : Layer α} {layers : List (Layer α)}
    (distinct : ((flattenAll layers).map (·.guid)).Nodup) (inside : layer ∈ flattenAll layers) :
    (layer.flatten.map (·.guid)).Nodup :=
  distinct.sublist ((flatten_sublist_flattenAll inside).map _)

theorem not_mem_of_nodup_flatten {layer : Layer α} (distinct : (layer.flatten.map (·.guid)).Nodup) :
    layer ∉ flattenAll layer.children := by
  obtain ⟨info, children⟩ := layer
  rw [flatten, List.map_cons, List.nodup_cons] at distinct
  exact fun inside => distinct.1 (List.mem_map_of_mem inside)

/-- A layer lies below one of several neighbours at most. -/
theorem eq_of_mem_flatten {layer first second : Layer α} : ∀ {layers : List (Layer α)},
    ((flattenAll layers).map (·.guid)).Nodup → first ∈ layers → second ∈ layers →
      layer ∈ first.flatten → layer ∈ second.flatten → first = second
  | top :: rest, distinct, one, other, inFirst, inSecond => by
      rw [flattenAll, List.map_append, List.nodup_append] at distinct
      have apart {layer below : Layer α} (inTop : layer ∈ top.flatten) (member : below ∈ rest)
          (inBelow : layer ∈ below.flatten) : False :=
        distinct.2.2 _ (List.mem_map_of_mem inTop) _
          (List.mem_map_of_mem (mem_flattenAll_trans (mem_flattenAll_self member) inBelow)) rfl
      rcases List.mem_cons.mp one with here | later
      · rcases List.mem_cons.mp other with same | second
        · rw [here, same]
        · exact (apart (here ▸ inFirst) second inSecond).elim
      · rcases List.mem_cons.mp other with same | second
        · exact (apart (same ▸ inSecond) later inFirst).elim
        · exact eq_of_mem_flatten distinct.2.1 later second inFirst inSecond

/-- A layer asks for boxes to be merged below it. -/
def IsEager (layer : LayerInfo α) : Prop :=
  layer.flagProperty? .combineShapes = some true

/-- Some layer of a tree that lies above another one asks for boxes to be merged. -/
def HasEagerAbove (top layer : Layer α) : Prop :=
  ∃ above ∈ top.flatten, IsEager above.toLayerInfo ∧ layer ∈ flattenAll above.children

section

variable {top source layer : Layer α} (distinct : (top.flatten.map (·.guid)).Nodup)

include distinct

theorem nodup_flattenAll_children : ((flattenAll top.children).map (·.guid)).Nodup := by
  obtain ⟨info, children⟩ := top
  rw [flatten, List.map_cons, List.nodup_cons] at distinct
  exact distinct.2

/-- No layer lies below itself. -/
theorem not_hasEagerAbove_self : ¬ top.HasEagerAbove top := by
  rintro ⟨above, inside, -, below⟩
  refine absurd ?_ (not_mem_of_nodup_flatten distinct)
  rcases mem_flatten.mp inside with same | deeper
  · rw [same] at below
    exact below
  · exact mem_flattenAll_trans deeper (mem_flatten.mpr (Or.inr below))

theorem hasEagerAbove_of_child (below : source ∈ top.children) (inside : layer ∈ source.flatten) :
    top.HasEagerAbove layer ↔ IsEager top.toLayerInfo ∨ source.HasEagerAbove layer := by
  have apart := nodup_flattenAll_children distinct
  constructor
  · rintro ⟨above, between, asks, under⟩
    rcases mem_flatten.mp between with atTop | deeper
    · rw [atTop] at asks
      exact Or.inl asks
    · obtain ⟨other, neighbour, inOther⟩ := exists_mem_of_mem_flattenAll deeper
      have reached : layer ∈ other.flatten :=
        mem_flatten_trans inOther (mem_flatten.mpr (Or.inr under))
      rw [eq_of_mem_flatten apart neighbour below reached inside] at inOther
      exact Or.inr ⟨above, inOther, asks, under⟩
  · rintro (asks | ⟨above, between, asks, under⟩)
    · exact ⟨top, top.mem_flatten_self, asks, mem_flattenAll_trans (mem_flattenAll_self below) inside⟩
    · refine ⟨above, mem_flatten.mpr (Or.inr ?_), asks, under⟩
      exact mem_flattenAll_trans (mem_flattenAll_self below) between

end

end Layer

namespace Node

/-! ### Down a tree -/

/-- The shape pass over a tree comes to a node, and merges boxes there or not. -/
inductive Hands : Node α → Bool → Node α → Bool → Prop where
  | self (node : Node α) (eager : Bool) : Hands node eager node eager
  | child {info : NodeInfo α} {children : List (Node α)} {child part : Node α}
      {eager handed : Bool} (member : child ∈ children)
      (below : Hands child (isEagerBelow info.layer eager) part handed) :
      Hands ⟨info, children⟩ eager part handed

variable {node part : Node α} {eager handed : Bool}

theorem Hands.mem_parts (hands : node.Hands eager part handed) : part ∈ node.parts := by
  induction hands with
  | self node eager => exact mem_parts_self node
  | child member _ ih => exact Node.mem_parts.mpr (Or.inr ⟨_, member, ih⟩)

theorem isEagerBelow_iff {layer : LayerInfo α} :
    isEagerBelow layer eager = true ↔ eager = true ∨ Layer.IsEager layer := by
  rw [isEagerBelow, Bool.or_eq_true, decide_eq_true_eq]
  exact Iff.rfl

/-- A node is built of a layer below, and has boxes merged if they merge at the top of the
tree or if a layer above it asks for that. -/
theorem Hands.source [Scalar α] {start : Context α} (hands : node.Hands eager part handed) :
    ∀ {top : Layer α}, ((build top).run start).1 = some node → (top.flatten.map (·.guid)).Nodup →
      ∃ layer ∈ top.flatten, ((build layer).run start).1 = some part ∧
        (handed = true ↔ eager = true ∨ top.HasEagerAbove layer) := by
  induction hands with
  | self node eager =>
      intro top built distinct
      exact ⟨top, top.mem_flatten_self, built,
        (or_iff_left (Layer.not_hasEagerAbove_self distinct)).symm⟩
  | @child info children child part eager handed member _ ih =>
      intro top built distinct
      obtain ⟨here, sources⟩ := build_run_eq_some built
      obtain ⟨source, below, origin⟩ := sources child member
      have apart := Layer.nodup_flattenAll_children distinct
      obtain ⟨layer, inside, made, asked⟩ :=
        ih origin (Layer.nodup_flatten apart (Layer.mem_flattenAll_self below))
      have inTop := Layer.mem_flattenAll_trans (Layer.mem_flattenAll_self below) inside
      refine ⟨layer, Layer.mem_flatten.mpr (Or.inr inTop), made, ?_⟩
      have own : info.layer = top.toLayerInfo := here.layer_eq
      rw [asked, isEagerBelow_iff, own, Layer.hasEagerAbove_of_child distinct below inside, or_assoc]

/-- The same of a node below the root of a widget. -/
theorem Hands.source_buildRoot [Scalar α] {start : Context α} {widget layer : Layer α}
    (distinct : (widget.flatten.map (·.guid)).Nodup)
    (below : layer ∈ Layer.flattenAll widget.children)
    (hands : ((buildRoot widget).run start).1.Hands eager part handed)
    (same : part.layer.guid = layer.guid) : ((build layer).run start).1 = some part ∧
      (handed = true ↔ eager = true ∨ widget.HasEagerAbove layer) := by
  have guids {one other : Layer α} (first : one ∈ widget.flatten) (second : other ∈ widget.flatten)
      (equal : one.guid = other.guid) : one = other :=
    List.inj_on_of_nodup_map distinct first second equal
  have inWidget : layer ∈ widget.flatten := Layer.mem_flatten.mpr (Or.inr below)
  generalize built : ((buildRoot widget).run start).1 = root at hands
  have children : root.children = ((buildAll widget.children).run start).1 := built ▸ rfl
  have own : root.layer = widget.toLayerInfo := built ▸ rfl
  cases hands with
  | self =>
      rw [own] at same
      rw [← guids widget.mem_flatten_self inWidget same] at below
      exact absurd below (Layer.not_mem_of_nodup_flatten distinct)
  | @child info nodes child _ _ _ member further =>
      have found : child ∈ ((buildAll widget.children).run start).1 := children ▸ member
      obtain ⟨source, among, origin⟩ := exists_of_mem_buildAll found
      have apart := Layer.nodup_flattenAll_children distinct
      obtain ⟨found, inside, made, asked⟩ := further.source origin
        (Layer.nodup_flatten apart (Layer.mem_flattenAll_self among))
      have inTop := Layer.mem_flattenAll_trans (Layer.mem_flattenAll_self among) inside
      rw [(build_run_eq_some made).1.layer_eq] at same
      rw [guids (Layer.mem_flatten.mpr (Or.inr inTop)) inWidget same] at inside made asked
      refine ⟨made, ?_⟩
      have layers : info.layer = widget.toLayerInfo := own
      rw [asked, isEagerBelow_iff, layers, Layer.hasEagerAbove_of_child distinct among inside,
        or_assoc]

/-! ### What becomes of a node -/

theorem mem_mergedChildren {info : NodeInfo α} {children : List (Node α)} {node : Node α}
    (alone : node.isPicture = false) (member : node ∈ children) :
    node ∈ mergedChildren eager info children := by
  unfold mergedChildren
  split
  · exact member
  · rw [← flatten_siblingRuns eager (hasBackground ⟨info, children⟩) children] at member
    obtain ⟨run, inside, found⟩ := List.mem_flatten.mp member
    rw [mergeSiblings_eq_flatMap, List.mem_flatMap]
    refine ⟨run, inside, ?_⟩
    rcases isRun_of_mem_siblingRuns _ _ _ run inside with pictures | ⟨single, same⟩
    · rw [pictures node found] at alone
      cases alone
    · rw [same] at found ⊢
      exact found

variable [Scalar α]

theorem mem_combineAll : ∀ {nodes : List (Node α)}, node ∈ nodes →
    node.combineShapes eager ∈ combineAll nodes eager
  | first :: rest, member => by
      rw [combineAll, List.mem_cons]
      rcases List.mem_cons.mp member with here | later
      · exact Or.inl (congrArg (combineShapes · eager) here)
      · exact Or.inr (mem_combineAll later)

theorem children_eq_nil_of_isPicture (built : node.IsAsBuilt)
    (picture : (node.combineShapes eager).isPicture = true) :
    (node.combineShapes eager).children = [] := by
  obtain ⟨info, children⟩ := node
  cases takes : info.kind.takesChildren with
  | false => rw [built.1 takes, combineShapes_childless]
  | true =>
      rw [combineShapes] at picture ⊢
      rcases collapse_cases (mergeChildren _ ⟨info, _⟩) with same | ⟨_, _, _, _, _, _, _, collapsed⟩
      · rw [same, mergeChildren_eq] at picture
        exact absurd picture (by rw [not_isPicture_of_takesChildren takes]; exact Bool.false_ne_true)
      · rw [collapsed]

/-- What the pass makes of a node is in the tree afterwards, unless it is a picture. Then it
may have been merged with others. -/
theorem Hands.mem_parts_combineShapes (hands : node.Hands eager part handed)
    (alone : (part.combineShapes handed).isPicture = false) :
    node.IsAsBuilt → part.combineShapes handed ∈ (node.combineShapes eager).parts := by
  induction hands with
  | self node eager => exact fun _ => mem_parts_self _
  | @child info children child part eager handed member _ ih =>
      intro built
      have childBuilt : child.IsAsBuilt :=
        (asBuilt_of_mem_partsAll (mem_partsAll.mpr ⟨child, member, mem_parts_self child⟩) built.2).2
      have inside := ih alone childBuilt
      generalize below : isEagerBelow info.layer eager = merges at inside
      have stays : (child.combineShapes merges).isPicture = false := by
        refine Bool.eq_false_iff.mpr fun picture => ?_
        have childless := children_eq_nil_of_isPicture childBuilt picture
        generalize child.combineShapes merges = made at inside picture childless
        obtain ⟨own, children⟩ := made
        change children = [] at childless
        rw [childless, parts, partsAll, List.mem_singleton] at inside
        rw [inside] at alone
        exact absurd (alone.symm.trans picture) Bool.false_ne_true
      have kept : child.combineShapes merges ∈ mergedChildren merges info (combineAll children merges) :=
        mem_mergedChildren stays (mem_combineAll member)
      rw [combineShapes, below, mergeChildren_eq]
      rcases collapse_cases ⟨info, mergedChildren merges info (combineAll children merges)⟩ with
        same | ⟨only, unit, single, shape, -, -, -, -⟩
      · rw [same]
        exact Node.mem_parts.mpr (Or.inr ⟨_, kept, inside⟩)
      · change mergedChildren merges info (combineAll children merges) = [only] at single
        rw [single, List.mem_singleton] at kept
        rw [kept, NodeInfo.isPicture, shape] at stays
        cases stays

end Node

end DesignExport
