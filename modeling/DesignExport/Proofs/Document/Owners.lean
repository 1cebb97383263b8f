import DesignExport.Document.Index
import Mathlib.Data.List.Nodup
set_option autoImplicit false

/-! Owners of layers. In a document without repeated guids the index finds the layer
that owns another one. -/

namespace DesignExport

variable {α : Type}

/-- No two layers of a document share a guid. -/
def Document.HasDistinctGuids (document : Document α) : Prop :=
  ((Layer.flattenAll document.children).map (·.guid)).Nodup

instance (document : Document α) : Decidable document.HasDistinctGuids :=
  inferInstanceAs (Decidable ((Layer.flattenAll document.children).map (·.guid)).Nodup)

namespace Layer

mutual

/-- The layers below a layer of a document are layers of the document. -/
theorem mem_flatten_trans {layer deeper : Layer α} : ∀ {top : Layer α}, layer ∈ top.flatten →
    deeper ∈ layer.flatten → deeper ∈ top.flatten
  | ⟨info, children⟩, inside, below => by
      rw [flatten, List.mem_cons] at inside
      rcases inside with same | inside
      · rw [same] at below
        exact below
      · rw [flatten]
        exact List.mem_cons_of_mem _ (mem_flattenAll_trans inside below)

theorem mem_flattenAll_trans {layer deeper : Layer α} : ∀ {layers : List (Layer α)},
    layer ∈ flattenAll layers → deeper ∈ layer.flatten → deeper ∈ flattenAll layers
  | [], inside, _ => absurd inside List.not_mem_nil
  | top :: rest, inside, below => by
      rw [flattenAll, List.mem_append] at inside ⊢
      rcases inside with first | later
      · exact Or.inl (mem_flatten_trans first below)
      · exact Or.inr (mem_flattenAll_trans later below)

end

mutual

theorem map_layer_placed (owner : Option (Layer α)) : ∀ layer : Layer α,
    (placed owner layer).map (·.layer) = layer.flatten
  | ⟨info, children⟩ => by
      rw [placed, flatten, List.map_cons, map_layer_placedAll]

theorem map_layer_placedAll (owner : Option (Layer α)) : ∀ layers : List (Layer α),
    (placedAll owner layers).map (·.layer) = flattenAll layers
  | [] => rfl
  | layer :: rest => by
      rw [placedAll, flattenAll, List.map_append, map_layer_placed, map_layer_placedAll]

end

theorem mem_placedAll_self {child : Layer α} (owner : Option (Layer α)) :
    ∀ {layers : List (Layer α)}, child ∈ layers → ⟨child, owner⟩ ∈ placedAll owner layers
  | layer :: rest, member => by
      rw [placedAll, List.mem_append]
      rcases List.mem_cons.mp member with same | later
      · subst same
        obtain ⟨info, children⟩ := child
        rw [placed]
        exact Or.inl List.mem_cons_self
      · exact Or.inr (mem_placedAll_self owner later)

mutual

/-- A layer stands in the index with each layer that it owns. -/
theorem mem_placed_of_mem_children {above child : Layer α} (below : child ∈ above.children)
    (owner : Option (Layer α)) : ∀ {top : Layer α}, above ∈ top.flatten →
      ⟨child, some above⟩ ∈ placed owner top
  | ⟨info, children⟩, inside => by
      rw [flatten, List.mem_cons] at inside
      rw [placed]
      apply List.mem_cons_of_mem
      rcases inside with same | inside
      · subst same
        exact mem_placedAll_self _ below
      · exact mem_placedAll_of_mem_children below _ inside

theorem mem_placedAll_of_mem_children {above child : Layer α} (below : child ∈ above.children)
    (owner : Option (Layer α)) : ∀ {layers : List (Layer α)}, above ∈ flattenAll layers →
      ⟨child, some above⟩ ∈ placedAll owner layers
  | top :: rest, inside => by
      rw [flattenAll, List.mem_append] at inside
      rw [placedAll, List.mem_append]
      rcases inside with first | later
      · exact Or.inl (mem_placed_of_mem_children below owner first)
      · exact Or.inr (mem_placedAll_of_mem_children below owner later)

end

mutual

/-- The owner of a layer that stands in the index is a layer above it. -/
theorem parent_mem_flatten {entry : Placed α} {above : Layer α} (owned : entry.parent = some above)
    {owner : Option (Layer α)} : ∀ {top : Layer α}, entry ∈ placed owner top →
      owner = some above ∨ above ∈ top.flatten
  | ⟨info, children⟩, member => by
      rw [placed, List.mem_cons] at member
      rw [flatten, List.mem_cons]
      rcases member with same | below
      · rw [same] at owned
        exact Or.inl owned
      · apply Or.inr
        rcases parent_mem_flattenAll owned below with self | deeper
        · exact Or.inl (Option.some.inj self).symm
        · exact Or.inr deeper

theorem parent_mem_flattenAll {entry : Placed α} {above : Layer α}
    (owned : entry.parent = some above) {owner : Option (Layer α)} : ∀ {layers : List (Layer α)},
      entry ∈ placedAll owner layers → owner = some above ∨ above ∈ flattenAll layers
  | [], member => by
      rw [placedAll] at member
      exact absurd member List.not_mem_nil
  | top :: rest, member => by
      rw [placedAll, List.mem_append] at member
      rw [flattenAll, List.mem_append]
      rcases member with first | later
      · exact (parent_mem_flatten owned first).imp_right Or.inl
      · exact (parent_mem_flattenAll owned later).imp_right Or.inr

end

end Layer

namespace Index

variable {document : Document α}

theorem map_layer_placed : (ofDocument document).placed.map (·.layer) =
    Layer.flattenAll document.children :=
  Layer.map_layer_placedAll none document.children

theorem mem_of_parentOf?_eq_some {guid : String} {above : Layer α}
    (found : (ofDocument document).parentOf? guid = some above) :
    above ∈ Layer.flattenAll document.children := by
  obtain ⟨entry, member, held⟩ := List.exists_of_findSome?_eq_some found
  split at held
  case isFalse => cases held
  case isTrue =>
    rcases Layer.parent_mem_flattenAll held (List.mem_reverse.mp member) with self | inside
    · cases self
    · exact inside

theorem ancestorsWithin_subset (steps : Nat) (guid : String) :
    (ofDocument document).ancestorsWithin steps guid ⊆ Layer.flattenAll document.children := by
  induction steps generalizing guid with
  | zero => exact List.nil_subset _
  | succ steps ih =>
      rw [ancestorsWithin]
      cases found : (ofDocument document).parentOf? guid with
      | none => exact List.nil_subset _
      | some above => exact List.cons_subset.mpr ⟨mem_of_parentOf?_eq_some found, ih above.guid⟩

/-- The widget that a layer of a document is in is a layer of the document. -/
theorem mem_of_widgetRootOf?_eq_some {layer widget : Layer α}
    (inside : layer ∈ Layer.flattenAll document.children)
    (found : (ofDocument document).widgetRootOf? layer = some widget) :
    widget ∈ Layer.flattenAll document.children := by
  rcases List.mem_cons.mp (List.mem_of_find?_eq_some found) with self | above
  · rw [self]
    exact inside
  · exact ancestorsWithin_subset _ _ above

/-- Entries of an index without repeated guids are told apart by their guids. -/
theorem eq_of_guid_eq (distinct : document.HasDistinctGuids) {first second : Placed α}
    (one : first ∈ (ofDocument document).placed) (other : second ∈ (ofDocument document).placed)
    (same : first.layer.guid = second.layer.guid) : first = second := by
  have guids : ((ofDocument document).placed.map (fun placed => placed.layer.guid)).Nodup := by
    have alone : ((Layer.flattenAll document.children).map (·.guid)).Nodup := distinct
    rw [← map_layer_placed, List.map_map] at alone
    exact alone
  exact List.inj_on_of_nodup_map guids one other same

theorem parentOf?_eq_some (distinct : document.HasDistinctGuids)
    {owner child : Layer α} (inside : owner ∈ Layer.flattenAll document.children)
    (below : child ∈ owner.children) :
    (ofDocument document).parentOf? child.guid = some owner := by
  have placed : ⟨child, some owner⟩ ∈ (ofDocument document).placed :=
    Layer.mem_placedAll_of_mem_children below none inside
  have found : ((ofDocument document).parentOf? child.guid).isSome := by
    refine List.findSome?_isSome_iff.mpr ⟨_, List.mem_reverse.mpr placed, ?_⟩
    rw [if_pos rfl]
    rfl
  obtain ⟨other, parent⟩ := Option.isSome_iff_exists.mp found
  obtain ⟨entry, member, held⟩ := List.exists_of_findSome?_eq_some parent
  split at held
  case isFalse => cases held
  case isTrue sameGuid =>
    rw [eq_of_guid_eq distinct (List.mem_reverse.mp member) placed sameGuid] at held
    rw [parent, ← held]

end Index

end DesignExport
