import DesignExport.Number.Exact
import DesignExport.Proofs.Document.Owners
set_option autoImplicit false

/-! Layers and the layers above them. The tree of a document says which layers own a layer,
one inside the other; an index only knows the owner of each guid. In a document without
repeated guids walking from owner to owner goes through exactly the layers above, and what
the index says of roots and opacity is said of them. -/

namespace DesignExport

variable {α : Type}

/-- A layer of a document with all layers above it, nearest first. -/
inductive Document.Lineage (document : Document α) : Layer α → List (Layer α) → Prop where
  | top {layer : Layer α} (member : layer ∈ document.children) : Lineage document layer []
  | owned {owner child : Layer α} {above : List (Layer α)} (known : Lineage document owner above)
      (member : child ∈ owner.children) : Lineage document child (owner :: above)

/-- A walk from owner to owner, without a bound on its steps. -/
inductive Index.Walk (index : Index α) : String → List (Layer α) → Prop where
  | stop {guid : String} (topmost : index.parentOf? guid = none) : Walk index guid []
  | step {guid : String} {owner : Layer α} {above : List (Layer α)}
      (owned : index.parentOf? guid = some owner) (rest : Walk index owner.guid above) :
      Walk index guid (owner :: above)

namespace Layer

theorem mem_flattenAll_self {layer : Layer α} :
    ∀ {layers : List (Layer α)}, layer ∈ layers → layer ∈ flattenAll layers
  | first :: rest, member => by
      rw [flattenAll, List.mem_append]
      rcases List.mem_cons.mp member with same | later
      · left
        obtain ⟨info, children⟩ := first
        rw [same, flatten]
        exact List.mem_cons_self
      · right
        exact mem_flattenAll_self later

theorem mem_flatten_of_mem_children {child owner : Layer α} (member : child ∈ owner.children) :
    child ∈ owner.flatten := by
  obtain ⟨info, children⟩ := owner
  rw [flatten]
  exact List.mem_cons_of_mem _ (mem_flattenAll_self member)

theorem length_flatten_le {layer : Layer α} :
    ∀ {layers : List (Layer α)}, layer ∈ layers →
      layer.flatten.length ≤ (flattenAll layers).length
  | first :: rest, member => by
      rw [flattenAll, List.length_append]
      rcases List.mem_cons.mp member with same | later
      · rw [same]
        omega
      · have bound := length_flatten_le later
        omega

mutual

/-- A search for a guid meets the layers in document order. -/
theorem find?_eq_find?_flatten (guid : String) : ∀ layer : Layer α,
    find? guid layer = layer.flatten.find? (fun other => other.guid = guid)
  | ⟨info, children⟩ => by
      by_cases same : info.guid = guid
      · simp only [find?, flatten, same, if_true, List.find?_cons, decide_true]
      · simp only [find?, flatten, same, if_false, List.find?_cons, decide_false,
          findAmong?_eq_find?_flattenAll]

theorem findAmong?_eq_find?_flattenAll (guid : String) : ∀ layers : List (Layer α),
    findAmong? guid layers = (flattenAll layers).find? (fun other => other.guid = guid)
  | [] => by
      simp only [findAmong?, flattenAll, List.find?_nil]
  | layer :: rest => by
      rw [findAmong?, flattenAll, List.find?_append, find?_eq_find?_flatten,
        findAmong?_eq_find?_flattenAll]
      cases layer.flatten.find? (fun other => other.guid = guid) with
      | none => rfl
      | some found => rfl

end

theorem find?_eq_some_of_nodup {layers : List (Layer α)} (distinct : (layers.map (·.guid)).Nodup)
    {layer : Layer α} (member : layer ∈ layers) :
    layers.find? (fun other => other.guid = layer.guid) = some layer := by
  induction layers with
  | nil => exact absurd member List.not_mem_nil
  | cons first rest ih =>
      rw [List.map_cons, List.nodup_cons] at distinct
      rcases List.mem_cons.mp member with same | later
      · rw [same, List.find?_cons, decide_eq_true rfl]
      · have different : first.guid ≠ layer.guid := by
          intro same
          exact distinct.1 (same ▸ List.mem_map_of_mem later)
        rw [List.find?_cons, decide_eq_false different]
        exact ih distinct.2 later

end Layer

namespace Document

variable {document : Document α}

theorem Lineage.mem_flattenAll {layer : Layer α} {above : List (Layer α)}
    (lineage : document.Lineage layer above) : layer ∈ Layer.flattenAll document.children := by
  induction lineage with
  | top member => exact Layer.mem_flattenAll_self member
  | owned _ member ih =>
      exact Layer.mem_flattenAll_trans ih (Layer.mem_flatten_of_mem_children member)

/-- The layers above a layer and those below it are different places in the document. -/
theorem Lineage.length_le {layer : Layer α} {above : List (Layer α)}
    (lineage : document.Lineage layer above) :
    above.length + layer.flatten.length ≤ (Layer.flattenAll document.children).length := by
  induction lineage with
  | top member =>
      have bound := Layer.length_flatten_le member
      simp only [List.length_nil]
      omega
  | @owned owner child above _ member ih =>
      have bound := Layer.length_flatten_le member
      have owned : owner.flatten.length = (Layer.flattenAll owner.children).length + 1 := by
        cases owner
        rw [Layer.flatten, List.length_cons]
      simp only [List.length_cons]
      omega

mutual

theorem Lineage.exists_of_mem_flatten {layer : Layer α} :
    ∀ {owner : Layer α} {above : List (Layer α)}, document.Lineage owner above →
      layer ∈ owner.flatten → ∃ path, document.Lineage layer path
  | ⟨info, children⟩, above, lineage, member => by
      rw [Layer.flatten, List.mem_cons] at member
      rcases member with same | inside
      · exact ⟨above, same ▸ lineage⟩
      · exact exists_of_mem_flattenAll (fun child belongs => ⟨_, .owned lineage belongs⟩) inside

theorem Lineage.exists_of_mem_flattenAll {layer : Layer α} : ∀ {layers : List (Layer α)},
    (∀ owner ∈ layers, ∃ above, document.Lineage owner above) →
      layer ∈ Layer.flattenAll layers → ∃ path, document.Lineage layer path
  | [], _, member => absurd member List.not_mem_nil
  | first :: rest, known, member => by
      rw [Layer.flattenAll, List.mem_append] at member
      obtain ⟨⟨above, lineage⟩, others⟩ := List.forall_mem_cons.mp known
      rcases member with here | later
      · exact exists_of_mem_flatten lineage here
      · exact exists_of_mem_flattenAll others later

end

theorem exists_lineage {layer : Layer α} (inside : layer ∈ Layer.flattenAll document.children) :
    ∃ above, document.Lineage layer above :=
  Lineage.exists_of_mem_flattenAll (fun _ member => ⟨[], .top member⟩) inside

end Document

namespace Index

variable {index : Index α} {guid : String}

theorem Walk.unique {above other : List (Layer α)} (walk : index.Walk guid above)
    (second : index.Walk guid other) : above = other := by
  induction walk generalizing other with
  | stop topmost =>
      cases second with
      | stop => rfl
      | step owned => exact absurd (topmost.symm.trans owned) (by simp)
  | step owned _ ih =>
      cases second with
      | stop topmost => exact absurd (topmost.symm.trans owned) (by simp)
      | step otherOwned rest =>
          have same := Option.some.inj (owned.symm.trans otherOwned)
          subst same
          rw [ih rest]

/-- A bound that is not too small does not cut a walk short. -/
theorem Walk.ancestorsWithin_eq {above : List (Layer α)} (walk : index.Walk guid above) :
    ∀ {steps : Nat}, above.length ≤ steps → index.ancestorsWithin steps guid = above := by
  induction walk with
  | stop topmost =>
      intro steps _
      cases steps with
      | zero => rfl
      | succ steps => simp only [ancestorsWithin, topmost]
  | step owned _ ih =>
      intro steps enough
      rw [List.length_cons] at enough
      cases steps with
      | zero => omega
      | succ steps =>
          simp only [ancestorsWithin, owned]
          rw [ih (by omega)]

end Index

namespace Index

variable {document : Document α}

theorem widgets_ofDocument : (ofDocument document).widgets =
    (Layer.flattenAll document.children).filter (fun layer => layer.isWidgetRoot) := by
  rw [widgets, map_layer_placed]

theorem length_placed : (ofDocument document).placed.length =
    (Layer.flattenAll document.children).length := by
  rw [← map_layer_placed, List.length_map]

variable (distinct : document.HasDistinctGuids)

include distinct

theorem layer?_eq_some {layer : Layer α} (inside : layer ∈ Layer.flattenAll document.children) :
    (ofDocument document).layer? layer.guid = some layer := by
  have member := inside
  rw [← map_layer_placed] at member
  obtain ⟨entry, belongs, own⟩ := List.mem_map.mp member
  have found : ((ofDocument document).placed.reverse.find?
      (fun placed => placed.layer.guid = layer.guid)).isSome := by
    rw [List.find?_isSome]
    exact ⟨entry, List.mem_reverse.mpr belongs, by simp only [own, decide_true]⟩
  obtain ⟨other, hit⟩ := Option.isSome_iff_exists.mp found
  have sameGuid : other.layer.guid = entry.layer.guid := by
    rw [own]
    have hits := List.find?_some hit
    exact of_decide_eq_true hits
  have same := eq_of_guid_eq distinct (List.mem_reverse.mp (List.mem_of_find?_eq_some hit)) belongs
    sameGuid
  rw [layer?, hit, Option.map_some, same, own]

theorem parentOf?_eq_none {layer : Layer α} (member : layer ∈ document.children) :
    (ofDocument document).parentOf? layer.guid = none := by
  have placed : ⟨layer, none⟩ ∈ (ofDocument document).placed :=
    Layer.mem_placedAll_self none member
  cases parent : (ofDocument document).parentOf? layer.guid with
  | none => rfl
  | some owner =>
      obtain ⟨entry, belongs, held⟩ := List.exists_of_findSome?_eq_some parent
      split at held
      case isTrue sameGuid =>
        rw [eq_of_guid_eq distinct (List.mem_reverse.mp belongs) placed sameGuid] at held
        cases held
      case isFalse => cases held

/-- Walking from a layer goes through the layers above it and ends. -/
theorem walk_of_lineage {layer : Layer α} {above : List (Layer α)}
    (lineage : document.Lineage layer above) : (ofDocument document).Walk layer.guid above := by
  induction lineage with
  | top member => exact .stop (parentOf?_eq_none distinct member)
  | owned known member ih =>
      exact .step (parentOf?_eq_some distinct known.mem_flattenAll member) ih

theorem ancestors_eq {layer : Layer α} {above : List (Layer α)}
    (lineage : document.Lineage layer above) : (ofDocument document).ancestors layer.guid = above := by
  apply (walk_of_lineage distinct lineage).ancestorsWithin_eq
  have bound := lineage.length_le
  rw [length_placed]
  omega

theorem parentOf?_eq_some_iff {layer owner : Layer α}
    (inside : layer ∈ Layer.flattenAll document.children) :
    (ofDocument document).parentOf? layer.guid = some owner ↔
      owner ∈ Layer.flattenAll document.children ∧ layer ∈ owner.children := by
  constructor
  · intro found
    obtain ⟨above, lineage⟩ := Document.exists_lineage inside
    cases lineage with
    | top member =>
        rw [parentOf?_eq_none distinct member] at found
        cases found
    | owned known member =>
        rw [parentOf?_eq_some distinct known.mem_flattenAll member] at found
        cases found
        exact ⟨known.mem_flattenAll, member⟩
  · intro owned
    exact parentOf?_eq_some distinct owned.1 owned.2

theorem parentOf?_eq_none_iff {layer : Layer α}
    (inside : layer ∈ Layer.flattenAll document.children) :
    (ofDocument document).parentOf? layer.guid = none ↔ layer ∈ document.children := by
  constructor
  · intro unowned
    obtain ⟨above, lineage⟩ := Document.exists_lineage inside
    cases lineage with
    | top member => exact member
    | owned known member =>
        rw [parentOf?_eq_some distinct known.mem_flattenAll member] at unowned
        cases unowned
  · exact parentOf?_eq_none distinct

end Index

/-- What an index and a search say of a layer with its lineage, and that it has no other. -/
structure Index.TellsOf [Scalar α] (index : Index α) (document : Document α) (layer : Layer α)
    (above : List (Layer α)) : Prop where
  lineage : document.Lineage layer above
  unique : ∀ other, document.Lineage layer other → other = above
  known : index.layer? layer.guid = some layer
  found : document.find? layer.guid = some layer
  owned : ∀ owner, index.parentOf? layer.guid = some owner ↔
    owner ∈ Layer.flattenAll document.children ∧ layer ∈ owner.children
  topmost : index.parentOf? layer.guid = none ↔ layer ∈ document.children
  walk : index.Walk layer.guid above
  ancestors : index.ancestors layer.guid = above
  widgetRoot : index.widgetRootOf? layer =
    (layer :: above).find? (fun candidate => candidate.isWidgetRoot)
  opacity : index.inheritedOpacity layer.toLayerInfo =
    ((above.takeWhile (fun ancestor => !ancestor.isWidgetRoot)).map (·.opacity)).foldl (· * ·)
      layer.opacity

variable [Scalar α]

/-- In a document without repeated guids the index and the search agree with the tree. -/
theorem Index.ofDocument_tells {document : Document α} (distinct : document.HasDistinctGuids) :
    (ofDocument document).widgets =
        (Layer.flattenAll document.children).filter (fun layer => layer.isWidgetRoot) ∧
      ∀ layer ∈ Layer.flattenAll document.children,
        ∃ above, (ofDocument document).TellsOf document layer above := by
  refine ⟨widgets_ofDocument, fun layer inside => ?_⟩
  obtain ⟨above, lineage⟩ := Document.exists_lineage inside
  have walk := walk_of_lineage distinct lineage
  have ancestors := ancestors_eq distinct lineage
  refine ⟨above, ?_⟩
  exact {
    lineage := lineage
    unique := fun other another => (walk_of_lineage distinct another).unique walk
    known := layer?_eq_some distinct inside
    found := by
      rw [Document.find?, Layer.findAmong?_eq_find?_flattenAll]
      exact Layer.find?_eq_some_of_nodup distinct inside
    owned := fun owner => parentOf?_eq_some_iff distinct inside
    topmost := parentOf?_eq_none_iff distinct inside
    walk := walk
    ancestors := ancestors
    widgetRoot := by rw [widgetRootOf?, ancestors]
    opacity := by rw [inheritedOpacity, ancestors, List.foldl_map] }

/-- A group on a page that holds a dot and a master component with a dot of its own. -/
def nestedButton : Document Rat :=
  let part (guid : String) (kind : LayerKind Rat) : LayerInfo Rat :=
    { LayerInfo.usual guid guid kind with opacity := 1 / 2 }
  let button : Layer Rat := ⟨part "button" (.component true "button"), [⟨part "label" .ellipse, []⟩]⟩
  ⟨[], [⟨part "page" .artboard, [⟨part "group" .group, [⟨part "dot" .ellipse, []⟩, button]⟩]⟩],
    ⟨[], []⟩⟩

theorem Index.ofDocument_tells_nestedButton : nestedButton.HasDistinctGuids ∧
    ∀ layer ∈ Layer.flattenAll nestedButton.children,
      ∃ above, (ofDocument nestedButton).TellsOf nestedButton layer above :=
  have distinct : nestedButton.HasDistinctGuids := by decide +kernel
  ⟨distinct, (ofDocument_tells distinct).2⟩

example : (Layer.flattenAll nestedButton.children).map (fun layer =>
      ((Index.ofDocument nestedButton).inheritedOpacity layer.toLayerInfo,
        ((Index.ofDocument nestedButton).widgetRootOf? layer).map (·.guid))) =
    [(1 / 2, some "page"), (1 / 2, some "page"), (1 / 4, some "page"), (1 / 4, some "button"),
      (1 / 2, some "button")] := by
  decide +kernel

end DesignExport
