import DesignExport.Document.Index
import DesignExport.Proofs.Number.Rational
import DesignExport.Proofs.Shape.Markup
set_option autoImplicit false

/-! The colours in the markup of a shape unit, each with the opacity that it is drawn with. Fills
and strokes of one colour fade with the layers around their primitive. The stops of a gradient
keep the opacity of their own colours. -/

namespace DesignExport.Markup

open DesignExport.Text (Every)

/-! ### Colours of elements -/

/-- A colour in markup. Nothing is said of an opacity of one. -/
structure Tint where
  key : String
  color : String
  opacity : Option String
deriving DecidableEq

/-- The colour that attributes give for a key, if it is not `none` or the gradient. -/
def tint? (attributes : List (String × String)) (key opacityKey : String) : Option Tint :=
  ((attributes.lookup key).filter fun value => value.toList.head? == some '#').map fun color =>
    ⟨key, color, attributes.lookup opacityKey⟩

/-- The colours of one tag. -/
def attributeTints (attributes : List (String × String)) : List Tint :=
  (tint? attributes "fill" "fill-opacity").toList ++ (tint? attributes "stroke" "stroke-opacity").toList ++
    (tint? attributes "stop-color" "stop-opacity").toList

mutual

/-- The colours of an element and of what is in it, in order. -/
def Element.tints : Element → List Tint
  | .mk tag children => attributeTints tag.attributes ++ tintsAmong children

def tintsAmong : List Element → List Tint
  | [] => []
  | element :: rest => element.tints ++ tintsAmong rest

end

theorem tintsAmong_append (first second : List Element) :
    tintsAmong (first ++ second) = tintsAmong first ++ tintsAmong second := by
  induction first with
  | nil => rfl
  | cons element rest ih => rw [List.cons_append, tintsAmong, tintsAmong, ih, List.append_assoc]

theorem tintsAmong_singleton (element : Element) : tintsAmong [element] = element.tints :=
  List.append_nil _

section Attributes

variable {key opacityKey : String} {front back : List (String × String)}

theorem tint?_eq_none (absent : key ∉ keys front) : tint? front key opacityKey = none := by
  rw [tint?, lookup_eq_none absent]
  rfl

theorem tint?_append_of_front (absent : key ∉ keys front) (bare : opacityKey ∉ keys front) :
    tint? (front ++ back) key opacityKey = tint? back key opacityKey := by
  unfold tint?
  rw [List.lookup_append, List.lookup_append, lookup_eq_none absent, lookup_eq_none bare]
  rfl

theorem tint?_append_of_back (absent : key ∉ keys back) (bare : opacityKey ∉ keys back) :
    tint? (front ++ back) key opacityKey = tint? front key opacityKey := by
  unfold tint?
  rw [List.lookup_append, List.lookup_append, lookup_eq_none absent, lookup_eq_none bare, Option.or_none,
    Option.or_none]

theorem tint?_paintAttributes (color : Color) (shown : Option String) (different : key ≠ opacityKey) :
    tint? (paintAttributes key opacityKey color shown) key opacityKey = some ⟨key, color.toHex, shown⟩ := by
  have sign : color.toHex.toList.head? = some '#' := by
    rw [Color.toHex, String.toList_append]
    rfl
  have later : (opacityKey == key) = false := beq_false_of_ne different.symm
  have opacity : (paintAttributes key opacityKey color shown).lookup opacityKey = shown := by
    rw [paintAttributes, List.lookup_cons, later]
    cases shown with
    | none => rfl
    | some text => exact List.lookup_cons_self
  rw [tint?, opacity, paintAttributes, List.lookup_cons_self]
  simp [sign]

theorem attributeTints_eq_nil (fill : "fill" ∉ keys front) (stroke : "stroke" ∉ keys front)
    (stop : "stop-color" ∉ keys front) : attributeTints front = [] := by
  rw [attributeTints, tint?_eq_none fill, tint?_eq_none stroke, tint?_eq_none stop]
  rfl

end Attributes

variable {α : Type} [Scalar α]

/-! ### Colours of layers -/

/-- A colour with its own opacity and a further one. -/
def fadedTint (key : String) (color : Color) (opacity : α) : Tint :=
  ⟨key, color.toHex, shownOpacity (color.opacity * opacity)⟩

/-- The colour of a stop with its own opacity alone. -/
def stopTint (stop : ColorStop α) : Tint :=
  ⟨"stop-color", stop.color.toHex, stopOpacity stop⟩

def solidFill? (layer : LayerInfo α) : Option Color :=
  match layer.activeFill? with
  | some (.color own) => some own
  | _ => none

/-- The colours that a layer is drawn with, for those of its stops: these come first, then the
fill of one colour and the stroke, which fade with the layer. -/
def layerTints (ofStop : ColorStop α → Tint) (layer : LayerInfo α) (opacity : α) : List Tint :=
  (gradientStops layer).map ofStop ++
    ((solidFill? layer).toList.map (fadedTint "fill" · opacity) ++
      layer.activeStroke?.toList.map (fadedTint "stroke" ·.color opacity))

/-- The colours of a layer that fades as a whole. -/
def fadedTints (layer : LayerInfo α) (opacity : α) : List Tint :=
  layerTints (fadedTint "stop-color" ·.color opacity) layer opacity

/-- The colours of a layer whose gradient does not fade. -/
def drawnTints (layer : LayerInfo α) (opacity : α) : List Tint :=
  layerTints stopTint layer opacity

theorem length_drawnTints (layer : LayerInfo α) (opacity : α) :
    (drawnTints layer opacity).length = (fadedTints layer opacity).length := by
  simp [drawnTints, fadedTints, layerTints]

theorem drawnTints_eq_iff (layer : LayerInfo α) (opacity : α) :
    drawnTints layer opacity = fadedTints layer opacity ↔
      ∀ stop ∈ gradientStops layer, stopOpacity stop = shownOpacity (stop.color.opacity * opacity) := by
  unfold drawnTints fadedTints layerTints
  rw [List.append_cancel_right_eq, List.map_inj_left]
  simp [stopTint, fadedTint]

/-- Lists in parts of the same lengths are the same if their parts are. -/
theorem flatMap_eq_iff {β γ : Type} {first second : β → List γ} :
    ∀ {list : List β}, (∀ entry ∈ list, (first entry).length = (second entry).length) →
      (list.flatMap first = list.flatMap second ↔ ∀ entry ∈ list, first entry = second entry)
  | [], _ => by simp
  | entry :: rest, lengths => by
      obtain ⟨own, others⟩ := List.forall_mem_cons.mp lengths
      rw [List.flatMap_cons, List.flatMap_cons, List.forall_mem_cons, ← flatMap_eq_iff others]
      exact ⟨fun same => List.append_inj same own, fun same => by rw [same.1, same.2]⟩

theorem tint?_fillAttributes (layer : LayerInfo α) (opacity : α) :
    tint? (fillAttributes layer opacity) "fill" "fill-opacity" =
      (solidFill? layer).map (fadedTint "fill" · opacity) := by
  unfold fillAttributes solidFill?
  cases layer.activeFill? with
  | none => rfl
  | some own =>
      cases own with
      | color color => exact tint?_paintAttributes color _ (by decide)
      | linear _ => rfl
      | radial _ => rfl
      | angular _ => rfl
      | image _ => rfl

theorem tint?_strokeAttributes (layer : LayerInfo α) (opacity : α) :
    tint? (strokeAttributes layer opacity) "stroke" "stroke-opacity" =
      layer.activeStroke?.map (fadedTint "stroke" ·.color opacity) := by
  unfold strokeAttributes
  cases layer.activeStroke? with
  | none => rfl
  | some own => exact tint?_paintAttributes own.color _ (by decide)

/-- A path has the colours of its fill and its stroke. -/
theorem attributeTints_pathAttributes (layer : LayerInfo α) (opacity : α) (outline : String)
    {moved line : List (String × String)} (first : (keys moved).Sublist ["transform"])
    (last : (keys line).Sublist lineKeys) :
    attributeTints (pathAttributes layer opacity moved outline line) =
      (solidFill? layer).toList.map (fadedTint "fill" · opacity) ++
        layer.activeStroke?.toList.map (fadedTint "stroke" ·.color opacity) := by
  have whole := keys_pathAttributes layer opacity outline first last
  have stop : tint? (pathAttributes layer opacity moved outline line) "stop-color" "stop-opacity" = none :=
    tint?_eq_none (not_mem_keys whole (by decide))
  have place : (keys [("d", outline)]).Sublist ["d"] := List.Sublist.refl _
  have filled := keys_fillAttributes layer opacity
  have stroked := keys_strokeAttributes layer opacity
  have behind : (keys (strokeAttributes layer opacity ++ line)).Sublist (["stroke", "stroke-opacity"] ++ lineKeys) := by
    rw [keys_append]
    exact stroked.append last
  have fill : tint? (pathAttributes layer opacity moved outline line) "fill" "fill-opacity" =
      (solidFill? layer).map (fadedTint "fill" · opacity) := by
    rw [pathAttributes, tint?_append_of_front (not_mem_keys first (by decide)) (not_mem_keys first (by decide)),
      tint?_append_of_front (not_mem_keys place (by decide)) (not_mem_keys place (by decide)),
      tint?_append_of_back (not_mem_keys behind (by decide)) (not_mem_keys behind (by decide)), tint?_fillAttributes]
  have stroke : tint? (pathAttributes layer opacity moved outline line) "stroke" "stroke-opacity" =
      layer.activeStroke?.map (fadedTint "stroke" ·.color opacity) := by
    rw [pathAttributes, tint?_append_of_front (not_mem_keys first (by decide)) (not_mem_keys first (by decide)),
      tint?_append_of_front (not_mem_keys place (by decide)) (not_mem_keys place (by decide)),
      tint?_append_of_front (not_mem_keys filled (by decide)) (not_mem_keys filled (by decide)),
      tint?_append_of_back (not_mem_keys last (by decide)) (not_mem_keys last (by decide)), tint?_strokeAttributes]
  rw [attributeTints, fill, stroke, stop, Option.toList_none, List.append_nil, Option.toList_map, Option.toList_map]

/-! ### Colours in a text -/

/-- A text of whole elements with these colours. -/
def Tinted (text : String) (tints : List Tint) : Prop :=
  ∃ elements, IsContent text elements ∧ tintsAmong elements = tints

namespace Tinted

variable {text front back : String} {tints others : List Tint}

theorem empty : Tinted "" [] :=
  ⟨[], IsContent.empty, rfl⟩

theorem append (first : Tinted front tints) (second : Tinted back others) :
    Tinted (front ++ back) (tints ++ others) := by
  obtain ⟨elements, content, found⟩ := first
  obtain ⟨more, rest, also⟩ := second
  refine ⟨elements ++ more, content.append rest, ?_⟩
  rw [tintsAmong_append, found, also]

theorem inside {tag : Tag} (name : String) (tinted : Tinted text tints) (opens : IsOpening front tag)
    (named : tag.name = name) (letters : Every isNameChar name) (bare : attributeTints tag.attributes = [])
    (closes : back = "</" ++ name ++ ">") : Tinted (front ++ text ++ back) tints := by
  obtain ⟨elements, content, found⟩ := tinted
  subst named
  rw [closes]
  refine ⟨[.mk tag elements], opens.isContent content letters, ?_⟩
  rw [tintsAmong_singleton, Element.tints, bare, found]
  rfl

end Tinted

section Elements

variable [WritesValues α]

theorem tinted_stop (stop : ColorStop α) : Tinted (Markup.stop stop) [stopTint stop] := by
  refine ⟨_, isContent_stop stop, ?_⟩
  have place : (keys [("offset", Scalar.fixed stop.position 6)]).Sublist ["offset"] := List.Sublist.refl _
  have listed : (keys (stopAttributes stop)).Sublist ["offset", "stop-color", "stop-opacity"] :=
    (keys_paintAttributes _ _ _ _).cons_cons _
  have split : stopAttributes stop = [("offset", Scalar.fixed stop.position 6)] ++
      paintAttributes "stop-color" "stop-opacity" stop.color (stopOpacity stop) := rfl
  rw [tintsAmong_singleton, Element.tints, attributeTints, tint?_eq_none (not_mem_keys listed (by decide)),
    tint?_eq_none (not_mem_keys listed (by decide)), split,
    tint?_append_of_front (not_mem_keys place (by decide)) (not_mem_keys place (by decide)),
    tint?_paintAttributes _ _ (by decide)]
  rfl

theorem tinted_stops (list : List (ColorStop α)) : Tinted (stops list) (list.map stopTint) := by
  induction list with
  | nil => exact Tinted.empty
  | cons stop rest ih =>
      unfold stops
      rw [List.map_cons, String.join_cons]
      exact (tinted_stop stop).append ih

theorem tinted_definitions (layer : LayerInfo α) (opacity : α) :
    Tinted (definitions layer opacity) ((gradientStops layer).map stopTint) := by
  have opens : IsOpening "<defs>" ⟨"defs", []⟩ := fun _ _ => rfl
  have closes : "</defs>" = "</" ++ "defs" ++ ">" := rfl
  have own : Tinted (fill layer opacity).2.1 ((gradientStops layer).map stopTint) := by
    rcases definitions_of_fill layer opacity with ⟨blank, none⟩ | ⟨opening, tag, gradient⟩
    · rw [blank, none]
      exact Tinted.empty
    · have listed := gradient.listed
      have bare : attributeTints tag.attributes = [] := attributeTints_eq_nil
        (not_mem_keys listed (by decide)) (not_mem_keys listed (by decide)) (not_mem_keys listed (by decide))
      rw [gradient.text_eq]
      exact (tinted_stops _).inside tag.name gradient.opens rfl gradient.letters bare rfl
  unfold definitions
  split
  · next blank =>
      rwa [String.isEmpty_iff.mp blank] at own
  · exact own.inside "defs" opens rfl (by decide) rfl closes

end Elements

/-! ### Markup around outlines -/

/-- A part of markup: a text, or the outline of a layer. -/
inductive Piece (α : Type) where
  | text (text : String)
  | outline (layer : LayerInfo α)

/-- The markup of some parts, for the outlines that layers are drawn with. -/
def weave (draw : LayerInfo α → String) : List (Piece α) → String
  | [] => ""
  | .text text :: rest => text ++ weave draw rest
  | .outline layer :: rest => draw layer ++ weave draw rest

/-- The layers whose outlines are among some parts. -/
def outlined : List (Piece α) → List (LayerInfo α)
  | [] => []
  | .text _ :: rest => outlined rest
  | .outline layer :: rest => layer :: outlined rest

omit [Scalar α] in
theorem weave_append (draw : LayerInfo α → String) : ∀ first second : List (Piece α),
    weave draw (first ++ second) = weave draw first ++ weave draw second
  | [], _ => String.empty_append.symm
  | .text text :: rest, second => by
      rw [List.cons_append, weave, weave, weave_append draw rest second, String.append_assoc]
  | .outline layer :: rest, second => by
      rw [List.cons_append, weave, weave, weave_append draw rest second, String.append_assoc]

omit [Scalar α] in
theorem outlined_append : ∀ first second : List (Piece α),
    outlined (first ++ second) = outlined first ++ outlined second
  | [], _ => rfl
  | .text _ :: rest, second => by rw [List.cons_append, outlined, outlined, outlined_append rest second]
  | .outline layer :: rest, second => by
      rw [List.cons_append, outlined, outlined, outlined_append rest second, List.cons_append]

/-- A text with the outlines of some layers in it. Whatever these are, it has these colours. -/
def Weaves (text : String) (layers : List (LayerInfo α)) (tints : List Tint) : Prop :=
  ∃ pieces, text = weave outline pieces ∧ outlined pieces = layers ∧
    ∀ draw : LayerInfo α → String, (∀ layer ∈ layers, Every isValueChar (draw layer)) →
      Tinted (weave draw pieces) tints

namespace Weaves

variable {text front back : String} {layers more : List (LayerInfo α)} {tints others : List Tint}

theorem empty : Weaves "" ([] : List (LayerInfo α)) [] :=
  ⟨[], rfl, rfl, fun _ _ => Tinted.empty⟩

theorem append (first : Weaves front layers tints) (second : Weaves back more others) :
    Weaves (front ++ back) (layers ++ more) (tints ++ others) := by
  obtain ⟨pieces, rfl, rfl, reads⟩ := first
  obtain ⟨rest, rfl, rfl, also⟩ := second
  refine ⟨pieces ++ rest, (weave_append _ _ _).symm, outlined_append _ _, fun draw plain => ?_⟩
  rw [weave_append]
  exact (reads draw fun layer drawn => plain layer (List.mem_append_left _ drawn)).append
    (also draw fun layer drawn => plain layer (List.mem_append_right _ drawn))

theorem inside {tag : Tag} (name : String) (weaves : Weaves text layers tints) (opens : IsOpening front tag)
    (named : tag.name = name) (letters : Every isNameChar name) (bare : attributeTints tag.attributes = [])
    (closes : back = "</" ++ name ++ ">") : Weaves (front ++ text ++ back) layers tints := by
  obtain ⟨pieces, rfl, rfl, reads⟩ := weaves
  have wrapped (draw : LayerInfo α → String) :
      weave draw (.text front :: (pieces ++ [.text back])) = front ++ weave draw pieces ++ back := by
    rw [weave, weave_append, ← String.append_assoc]
    exact congrArg _ String.append_empty
  refine ⟨.text front :: (pieces ++ [.text back]), (wrapped _).symm, ?_, fun draw plain => ?_⟩
  · rw [outlined, outlined_append]
    exact List.append_nil _
  · rw [wrapped]
    exact (reads draw plain).inside name opens named letters bare closes

end Weaves

theorem path_weaves [WritesValues α] (opacityOf : OpacityOf α) (layer : LayerInfo α) :
    Weaves (path opacityOf layer).1 [layer] (drawnTints layer (opacityOf layer)) := by
  obtain ⟨front, back, moved, line, text, first, last, read⟩ := isContent_path opacityOf layer
  have cut (draw : LayerInfo α → String) :
      weave draw [.text (definitions layer (opacityOf layer)), .text front, .outline layer, .text back] =
        definitions layer (opacityOf layer) ++ (front ++ draw layer ++ back) := by
    simp only [weave, String.append_empty, String.append_assoc]
  refine ⟨_, text.trans (cut outline).symm, rfl, fun draw plain => ?_⟩
  rw [cut]
  -- The stops stand in front, where no outline is.
  refine (tinted_definitions layer (opacityOf layer)).append ⟨_, read (draw layer) ?_, ?_⟩
  · exact plain layer (List.mem_singleton_self layer)
  · rw [tintsAmong_singleton, Element.tints, attributeTints_pathAttributes layer _ _ first last]
    exact List.append_nil _

mutual

theorem member_weaves [WritesValues α] (opacityOf : OpacityOf α) : ∀ member : ShapeMember α,
    Weaves (Markup.member opacityOf member).1 member.primitives
      (member.primitives.flatMap fun layer => drawnTints layer (opacityOf layer))
  | .primitive layer => by
      rw [ShapeMember.primitives, List.flatMap_singleton]
      exact path_weaves opacityOf layer
  | .nested frame inner => by
      have closes : "</g>" = "</" ++ "g" ++ ">" := rfl
      have bare : attributeTints (frameTag frame).attributes = [] := by
        unfold frameTag
        cases transform? frame.transform <;> rfl
      rw [ShapeMember.primitives]
      exact (members_weave opacityOf inner).inside "g" (isOpening_frameOpening frame) rfl (by decide) bare closes

theorem members_weave [WritesValues α] (opacityOf : OpacityOf α) : ∀ list : List (ShapeMember α),
    Weaves (members opacityOf list).1 (memberPrimitives list)
      ((memberPrimitives list).flatMap fun layer => drawnTints layer (opacityOf layer))
  | [] => Weaves.empty
  | first :: rest => by
      rw [members, memberPrimitives, List.flatMap_append]
      exact (member_weaves opacityOf first).append (members_weave opacityOf rest)

end

/-- The markup of a unit has the colours of its primitives in drawing order, whatever their outlines
are. -/
theorem render_weaves [WritesValues α] (opacityOf : OpacityOf α) (unit : ShapeUnit α) :
    ∃ pieces, (render opacityOf unit).1 = weave outline pieces ∧ outlined pieces = unit.primitives ∧
      ∀ draw : LayerInfo α → String, (∀ layer ∈ unit.primitives, Every isValueChar (draw layer)) →
        ∃ element, read? (weave draw pieces) = some element ∧
          element.tints = unit.primitives.flatMap fun layer => drawnTints layer (opacityOf layer) := by
  have grouped : Weaves (if isTransformed unit then "<g>" ++ (members opacityOf unit.members).1 ++ "</g>"
      else (members opacityOf unit.members).1) unit.primitives
      (unit.primitives.flatMap fun layer => drawnTints layer (opacityOf layer)) := by
    have own := members_weave opacityOf unit.members
    have closes : "</g>" = "</" ++ "g" ++ ">" := rfl
    have opens : IsOpening "<g>" ⟨"g", []⟩ := fun _ _ => rfl
    split
    · exact own.inside "g" opens rfl (by decide) rfl closes
    · exact own
  obtain ⟨pieces, text, layers, reads⟩ := grouped
  let box := unit.viewBox
  have opens := isOpening_svg (every_numbers 1 [box.x, box.y, box.width, box.height])
  have letters : Every isNameChar "svg" := by decide
  let front := "<svg viewBox=\"" ++ numbers 1 [box.x, box.y, box.width, box.height] ++ "\" >"
  have wrapped (draw : LayerInfo α → String) :
      weave draw (.text front :: (pieces ++ [.text "</svg>"])) = front ++ weave draw pieces ++ "</svg>" := by
    rw [weave, weave_append, ← String.append_assoc]
    exact congrArg _ String.append_empty
  refine ⟨.text front :: (pieces ++ [.text "</svg>"]), ?_, ?_, fun draw plain => ?_⟩
  · rw [wrapped, ← text]
    rfl
  · rw [outlined, outlined_append, layers]
    exact List.append_nil _
  · obtain ⟨children, content, found⟩ := reads draw plain
    refine ⟨.mk ⟨"svg", [("viewBox", numbers 1 [box.x, box.y, box.width, box.height])]⟩ children, ?_, found⟩
    rw [wrapped]
    exact read?_of_isContent (opens.isContent content letters)

/-- A fill or a stroke of one colour is drawn with its own opacity times that of the primitive,
and a stop of a gradient with its own opacity alone. So the markup is that of primitives that
fade as a whole exactly if no stop would be shown in another way. -/
theorem render_tints [WritesValues α] (opacityOf : OpacityOf α) (unit : ShapeUnit α) :
    ∃ pieces, (render opacityOf unit).1 = weave outline pieces ∧ outlined pieces = unit.primitives ∧
      ∀ draw : LayerInfo α → String, (∀ layer ∈ unit.primitives, Every isValueChar (draw layer)) →
        ∃ element, read? (weave draw pieces) = some element ∧
          element.tints = unit.primitives.flatMap (fun layer => drawnTints layer (opacityOf layer)) ∧
          (element.tints = unit.primitives.flatMap (fun layer => fadedTints layer (opacityOf layer)) ↔
            ∀ layer ∈ unit.primitives, ∀ stop ∈ gradientStops layer,
              stopOpacity stop = shownOpacity (stop.color.opacity * opacityOf layer)) := by
  obtain ⟨pieces, text, layers, reads⟩ := render_weaves opacityOf unit
  refine ⟨pieces, text, layers, fun draw plain => ?_⟩
  obtain ⟨element, read, drawn⟩ := reads draw plain
  refine ⟨element, read, drawn, ?_⟩
  rw [drawn, flatMap_eq_iff fun layer _ => length_drawnTints layer (opacityOf layer)]
  exact forall₂_congr fun layer _ => drawnTints_eq_iff layer (opacityOf layer)

/-! ### Layers that fade -/

theorem opacity_eq_one_iff (color : Color) : (color.opacity : Rat) = 1 ↔ color.alpha = 255 := by
  have most : (255.0 : Rat) = 255 := by decide +kernel
  have counted : (color.opacity : Rat) = (color.alpha.toNat : Rat) / 255 := by
    rw [Color.opacity, most]
    rfl
  have bytes : (255 : UInt8).toNat = 255 := rfl
  rw [counted, div_eq_one_iff_eq (by norm_num), ← UInt8.toNat_inj, bytes]
  exact_mod_cast Iff.rfl

/-- A stop of full opacity is right only where nothing fades. -/
theorem full_stop_iff {stop : ColorStop Rat} (full : stop.color.alpha = 255) (opacity : Rat) :
    stopOpacity stop = shownOpacity (stop.color.opacity * opacity) ↔ opacity = 1 := by
  have one : (1.0 : Rat) = 1 := by decide +kernel
  rw [stopOpacity, if_pos full, (opacity_eq_one_iff _).mpr full, one_mul, shownOpacity, one]
  by_cases plain : opacity = 1
  · simp [plain]
  · simp [plain]

/-- Every stop is right where nothing fades. -/
theorem unfaded_stop (stop : ColorStop Rat) :
    stopOpacity stop = shownOpacity ((stop.color.opacity : Rat) * 1) := by
  by_cases full : stop.color.alpha = 255
  · exact (full_stop_iff full 1).mpr rfl
  · have one : (1.0 : Rat) = 1 := by decide +kernel
    have clear : (stop.color.opacity : Rat) ≠ 1 := fun same => full ((opacity_eq_one_iff _).mp same)
    rw [stopOpacity, if_neg full, mul_one, shownOpacity, one]
    simp [clear]

def fadingLine : LayerInfo Rat :=
  { LayerInfo.usual "line" "Line" (.path "M0 0L5 5") with
    localBounds := ⟨0, 0, 5, 5⟩
    opacity := 1 / 2
    fill := some (.linear ⟨0, 0, 1, 1, [⟨0, ⟨255, 0, 0, 255⟩⟩, ⟨1, ⟨0, 0, 255, 51⟩⟩]⟩) }

def fadingBox : LayerInfo Rat :=
  { LayerInfo.usual "box" "Box" (.rectangle ⟨0, 0, 0, 0⟩) with
    localBounds := ⟨0, 0, 10, 10⟩
    opacity := 1 / 2
    fill := some (.color ⟨0, 255, 0, 255⟩) }

/-- A line with a gradient and a box of one colour in a group that fades. -/
def fadingDocument : Document Rat :=
  let group : Layer Rat :=
    { LayerInfo.usual "group" "Group" .group with
      opacity := 1 / 2
      children := [{ fadingLine with children := [] }, { fadingBox with children := [] }] }
  ⟨[], [group], ⟨[], []⟩⟩

def fadingOpacity : OpacityOf Rat :=
  (Index.ofDocument fadingDocument).inheritedOpacity

def fadingUnit : ShapeUnit Rat :=
  (ShapeUnit.ofPrimitive fadingLine).push fadingBox

theorem every_outline_fadingUnit : ∀ layer ∈ fadingUnit.primitives, Every isValueChar (outline layer) := by
  intro layer drawn
  rcases List.mem_pair.mp drawn with same | same
  · rw [same]
    decide +kernel
  · rw [same]
    decide +kernel

theorem render_tints_fadingUnit : ∃ element, read? (render fadingOpacity fadingUnit).1 = some element ∧
    element.tints = [⟨"stop-color", "#ff0000", none⟩, ⟨"stop-color", "#0000ff", some "0.2"⟩,
      ⟨"fill", "#00ff00", some "0.25"⟩] := by
  obtain ⟨pieces, text, -, reads⟩ := render_tints fadingOpacity fadingUnit
  obtain ⟨element, read, drawn, -⟩ := reads outline every_outline_fadingUnit
  refine ⟨element, text ▸ read, drawn.trans ?_⟩
  decide +kernel

/-- The box is drawn with a quarter of its opacity, and the gradient as if nothing faded. -/
theorem unfaded_gradient : ∃ element, read? (render fadingOpacity fadingUnit).1 = some element ∧
    element.tints ≠ fadingUnit.primitives.flatMap fun layer => fadedTints layer (fadingOpacity layer) := by
  obtain ⟨pieces, text, -, reads⟩ := render_weaves fadingOpacity fadingUnit
  obtain ⟨element, read, drawn⟩ := reads outline every_outline_fadingUnit
  refine ⟨element, text ▸ read, ?_⟩
  rw [drawn]
  decide +kernel

end DesignExport.Markup
