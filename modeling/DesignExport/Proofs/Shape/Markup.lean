import DesignExport.Number.Exact
import DesignExport.Proofs.Number.Texts
import DesignExport.Proofs.Shape.Placement
import DesignExport.Proofs.Shape.Reader
set_option autoImplicit false

/-! What the markup of a shape unit reads as: one element with a path for each primitive, in
drawing order and inside one group for each nested unit around the primitive. -/

namespace DesignExport

open DesignExport.Text (Every)

/-- Scalars whose texts can be values of attributes. -/
class WritesValues (α : Type) [Scalar α] : Prop where
  every_text : ∀ value : α, Every Markup.isValueChar (Scalar.text value)

namespace Markup

theorem isValueChar_of_isPlainChar {char : Char} (plain : Text.isPlainChar char = true) :
    isValueChar char = true := by
  simp only [isValueChar, Bool.not_eq_true', Bool.or_eq_false_iff, decide_eq_false_iff_not]
  refine ⟨⟨?_, ?_⟩, ?_⟩ <;>
  · rintro rfl
    cases plain

theorem isValueChar_of_isNumeralChar {char : Char} (numeral : Number.isNumeralChar char = true) :
    isValueChar char = true := by
  apply isValueChar_of_isPlainChar
  simp only [Number.isNumeralChar, Bool.or_eq_true, decide_eq_true_eq] at numeral
  simp only [Text.isPlainChar, Bool.or_eq_true, decide_eq_true_eq]
  tauto

theorem every_writeRational (value : Rat) : Every isValueChar (Number.writeRational value) := by
  have whole (count : Int) : Every isValueChar (toString count) :=
    (Number.every_toString count).mono fun _ => isValueChar_of_isNumeralChar
  have slash : Every isValueChar "/" := by decide
  have sign : Every isValueChar (if value.num < 0 then "-" else "") := by
    split <;> decide
  unfold Number.writeRational
  split
  · exact ((whole value.num).append slash).append (whole (Int.ofNat value.den))
  · dsimp only
    split
    · decide
    · exact sign.append ((Number.isNumeral_writeDecimal _ _).1.mono fun _ => isValueChar_of_isNumeralChar)

end Markup

instance : WritesValues Float where
  every_text value := (WritesNumerals.isNumeral_text value).1.mono fun _ => Markup.isValueChar_of_isNumeralChar

instance : WritesValues Rat where
  every_text := Markup.every_writeRational

namespace Markup

variable {α : Type} [Scalar α]

/-! ### Values -/

theorem every_toHex (color : Color) : Every isValueChar color.toHex := by
  have sign : Every isValueChar "#" := by decide
  refine sign.append (Every.ofList fun char member => isValueChar_of_isPlainChar ?_)
  simp only [List.mem_append] at member
  rcases member with (red | green) | blue
  · exact Dart.isPlainChar_of_mem_hexByte red
  · exact Dart.isPlainChar_of_mem_hexByte green
  · exact Dart.isPlainChar_of_mem_hexByte blue

theorem every_intercalate {allowed : Char → Bool} {separator : String} (between : Every allowed separator) :
    ∀ {pieces : List String}, (∀ piece ∈ pieces, Every allowed piece) →
      Every allowed (String.intercalate separator pieces)
  | [], _ => fun _ absent => absurd absent List.not_mem_nil
  | [piece], each => by
      rw [String.intercalate_singleton]
      exact each piece List.mem_cons_self
  | first :: second :: rest, each => by
      obtain ⟨own, others⟩ := List.forall_mem_cons.mp each
      rw [String.intercalate_cons_cons]
      exact (own.append between).append (every_intercalate between others)

section Numbers

variable [WritesValues α]

theorem every_fixed (value : α) (places : Nat) : Every isValueChar (Scalar.fixed value places) := by
  unfold Scalar.fixed
  split
  · exact WritesValues.every_text _
  · decide

theorem every_numbers (places : Nat) (values : List α) : Every isValueChar (numbers places values) := by
  refine every_intercalate (by decide) fun piece listed => ?_
  obtain ⟨value, _, same⟩ := List.mem_map.mp listed
  exact same ▸ every_fixed value places

theorem every_transform {map : Affine α} {written : String} (found : transform? map = some written) :
    Every isValueChar written := by
  have opening : Every isValueChar "matrix(" := by decide
  have translate : Every isValueChar "translate(" := by decide
  have comma : Every isValueChar ", " := by decide
  have closing : Every isValueChar ")" := by decide
  unfold transform? at found
  split at found
  · rw [← Option.some.inj found]
    refine (opening.append (every_intercalate comma fun piece listed => ?_)).append closing
    simp only [List.mem_cons, List.not_mem_nil, or_false] at listed
    rcases listed with same | same | same | same | same | same <;> exact same ▸ every_fixed _ _
  · split at found
    · rw [← Option.some.inj found]
      exact (((translate.append (every_fixed _ _)).append comma).append (every_fixed _ _)).append closing
    · cases found

end Numbers

theorem transform?_eq_none_iff (map : Affine α) : transform? map = none ↔ map.isIdentity = true := by
  unfold transform? Affine.isIdentity
  cases map.isShift <;> cases (map.e == 0.0) <;> cases (map.f == 0.0) <;> simp

/-! ### Attributes of paints -/

/-- A text of attributes that have some of these keys, in this order. -/
def HasAttributes (place : Tag → Place) (text : String) (possible : List String) : Prop :=
  ∃ attributes, (keys attributes).Sublist possible ∧ IsAttributes place text attributes

namespace HasAttributes

variable {place : Tag → Place} {text front back : String} {first second : List String}

theorem attr {value : String} (key : String) (name : isName key.toList = true)
    (plain : Every isValueChar value) : HasAttributes .between (attr key value) [key] :=
  ⟨[(key, value)], List.Sublist.refl _, IsAttributes.attr name plain⟩

theorem more (has : HasAttributes .between text first) : HasAttributes .valued (" " ++ text) first := by
  obtain ⟨attributes, listed, reads⟩ := has
  exact ⟨attributes, listed, reads.more⟩

theorem append (has : HasAttributes place front first) (also : HasAttributes .valued back second) :
    HasAttributes place (front ++ back) (first ++ second) := by
  obtain ⟨attributes, listed, reads⟩ := has
  obtain ⟨others, within, rest⟩ := also
  refine ⟨attributes ++ others, ?_, reads.append rest⟩
  rw [keys_append]
  exact listed.append within

theorem empty (possible : List String) : HasAttributes .valued "" possible :=
  ⟨[], List.nil_sublist _, IsAttributes.empty⟩

end HasAttributes

theorem not_mem_keys {key : String} {attributes : List (String × String)} {possible : List String}
    (within : (keys attributes).Sublist possible) (other : key ∉ possible) : key ∉ keys attributes :=
  fun member => other (within.subset member)

theorem lookup_eq_none {key : String} {attributes : List (String × String)} (absent : key ∉ keys attributes) :
    attributes.lookup key = none := by
  rw [List.lookup_eq_none_iff]
  intro pair member
  apply bne_iff_ne.mpr
  rintro rfl
  exact absent (List.mem_map_of_mem member)

/-- How an opacity is said; one is not said at all. -/
def shownOpacity (opacity : α) : Option String :=
  if opacity == 1.0 then none else some (Scalar.fixed opacity 2)

/-- The attributes of a colour, with an opacity that is said or not. -/
def paintAttributes (key opacityKey : String) (color : Color) (shown : Option String) :
    List (String × String) :=
  (key, color.toHex) :: shown.toList.map fun opacity => (opacityKey, opacity)

theorem keys_paintAttributes (key opacityKey : String) (color : Color) (shown : Option String) :
    (keys (paintAttributes key opacityKey color shown)).Sublist [key, opacityKey] := by
  cases shown with
  | none => exact (List.nil_sublist _).cons_cons key
  | some opacity => exact List.Sublist.refl _

/-- The attributes of a fill. A gradient is referred to. -/
def fillAttributes (layer : LayerInfo α) (opacity : α) : List (String × String) :=
  match layer.activeFill? with
  | some (.color own) =>
      paintAttributes "fill" "fill-opacity" own (shownOpacity (own.opacity * opacity))
  | some (.linear _) => [("fill", "url(#gradient)")]
  | some (.radial _) => [("fill", "url(#gradient)")]
  | _ => [("fill", "none")]

theorem keys_fillAttributes (layer : LayerInfo α) (opacity : α) :
    (keys (fillAttributes layer opacity)).Sublist ["fill", "fill-opacity"] := by
  have alone : (["fill"] : List String).Sublist ["fill", "fill-opacity"] := by decide
  unfold fillAttributes
  split
  · exact keys_paintAttributes _ _ _ _
  · exact alone
  · exact alone
  · exact alone

/-- The attributes of the colour of a stroke. -/
def strokeAttributes (layer : LayerInfo α) (opacity : α) : List (String × String) :=
  match layer.activeStroke? with
  | none => [("stroke", "none")]
  | some own =>
      paintAttributes "stroke" "stroke-opacity" own.color (shownOpacity (own.color.opacity * opacity))

theorem keys_strokeAttributes (layer : LayerInfo α) (opacity : α) :
    (keys (strokeAttributes layer opacity)).Sublist ["stroke", "stroke-opacity"] := by
  unfold strokeAttributes
  split
  · have alone : (["stroke"] : List String).Sublist ["stroke", "stroke-opacity"] := by decide
    exact alone
  · exact keys_paintAttributes _ _ _ _

section Paints

variable [WritesValues α]

theorem isAttributes_paint (name : String) (isKey : isName name.toList = true)
    (isLong : isName (name ++ "-opacity").toList = true) (color : Color) (opacity : α) :
    IsAttributes .between (paint name color opacity)
      (paintAttributes name (name ++ "-opacity") color (shownOpacity (color.opacity * opacity))) := by
  generalize alpha : (color.opacity : α) * opacity = shown
  have said : IsAttributes .valued
      (if shown == 1.0 then "" else " " ++ attr (name ++ "-opacity") (Scalar.fixed shown 2))
      ((shownOpacity shown).toList.map fun text => (name ++ "-opacity", text)) := by
    unfold shownOpacity
    split
    · exact IsAttributes.empty
    · exact (IsAttributes.attr isLong (every_fixed _ _)).more
  unfold paint
  rw [alpha]
  exact (IsAttributes.attr isKey (every_toHex color)).append said

theorem isAttributes_fill (layer : LayerInfo α) (opacity : α) :
    IsAttributes .between (fill layer opacity).1 (fillAttributes layer opacity) := by
  have alone (value : String) (plain : Every isValueChar value) :
      IsAttributes .between (attr "fill" value) [("fill", value)] :=
    IsAttributes.attr (by decide) plain
  have none := alone "none" (by decide)
  have gradient := alone "url(#gradient)" (by decide)
  unfold fill fillAttributes
  cases layer.activeFill? with
  | none => exact none
  | some own =>
      cases own with
      | color color => exact isAttributes_paint "fill" (by decide) (by decide) color opacity
      | linear _ => exact gradient
      | radial _ => exact gradient
      | angular _ => exact none
      | image _ => exact none

theorem hasAttributes_dashes (stroke : Stroke α) :
    HasAttributes .valued (dashes stroke) ["stroke-dasharray", "stroke-dashoffset"] := by
  unfold dashes
  split
  · exact HasAttributes.empty _
  · split
    · refine (HasAttributes.attr "stroke-dasharray" (by decide) (every_numbers _ _)).more.append ?_
      split
      · exact HasAttributes.empty _
      · exact (HasAttributes.attr _ (by decide) (every_fixed _ _)).more
    · exact HasAttributes.empty _

/-- The keys of what is said about the line of a stroke. -/
def lineKeys : List String :=
  ["stroke-width", "stroke-dasharray", "stroke-dashoffset", "stroke-miterlimit", "stroke-linecap",
    "stroke-linejoin"]

/-- What is behind the colour of a stroke. -/
theorem hasAttributes_line (own : Stroke α) :
    HasAttributes .valued
      (" " ++ attr "stroke-width" (Scalar.fixed own.width 2) ++ dashes own ++
        (if own.join = .miter && !(own.miterLimit == Stroke.usualMiterLimit) then
          " " ++ attr "stroke-miterlimit" (Scalar.fixed own.miterLimit 2) else "") ++
        (if own.cap = .butt then "" else " " ++ attr "stroke-linecap" own.cap.name) ++
        (if own.join = .miter then "" else " " ++ attr "stroke-linejoin" own.join.name)) lineKeys := by
  have width := (HasAttributes.attr "stroke-width" (by decide) (every_fixed own.width 2)).more
  have miter : HasAttributes .valued (if own.join = .miter && !(own.miterLimit == Stroke.usualMiterLimit) then
      " " ++ attr "stroke-miterlimit" (Scalar.fixed own.miterLimit 2) else "") ["stroke-miterlimit"] := by
    split
    · exact (HasAttributes.attr _ (by decide) (every_fixed _ _)).more
    · exact HasAttributes.empty _
  have cap : HasAttributes .valued (if own.cap = .butt then "" else " " ++ attr "stroke-linecap" own.cap.name)
      ["stroke-linecap"] := by
    split
    · exact HasAttributes.empty _
    · exact (HasAttributes.attr _ (by decide) (by cases own.cap <;> decide)).more
  have join : HasAttributes .valued (if own.join = .miter then "" else " " ++ attr "stroke-linejoin" own.join.name)
      ["stroke-linejoin"] := by
    split
    · exact HasAttributes.empty _
    · exact (HasAttributes.attr _ (by decide) (by cases own.join <;> decide)).more
  exact (((width.append (hasAttributes_dashes own)).append miter).append cap).append join

theorem isAttributes_stroke (layer : LayerInfo α) (opacity : α) :
    ∃ line, (keys line).Sublist lineKeys ∧
      IsAttributes .between (stroke layer opacity).1 (strokeAttributes layer opacity ++ line) := by
  unfold stroke strokeAttributes
  cases layer.activeStroke? with
  | none =>
      have plain : Every isValueChar "none" := by decide
      exact ⟨[], List.nil_sublist _, IsAttributes.attr (by decide) plain⟩
  | some own =>
      obtain ⟨line, listed, reads⟩ := hasAttributes_line own
      have painted := isAttributes_paint "stroke" (by decide) (by decide) own.color opacity
      have whole := painted.append reads
      simp only [String.append_assoc] at whole ⊢
      exact ⟨line, listed, whole⟩

end Paints

/-! ### Paths in a text -/

/-- The outlines of the paths among some elements, in order, each behind the tags that are
around it from the outside in. -/
def drawnPaths (around : List Tag) (elements : List Element) : List (List Tag × Option String) :=
  (namedAmong "path" around elements).map fun found => (found.1, found.2.value? "d")

/-- A text of whole elements with some paths among them. -/
def Shows (text : String) (paths : List Tag → List (List Tag × Option String)) : Prop :=
  ∃ elements, IsContent text elements ∧ ∀ around, drawnPaths around elements = paths around

theorem drawnPaths_append (around : List Tag) (first second : List Element) :
    drawnPaths around (first ++ second) = drawnPaths around first ++ drawnPaths around second := by
  rw [drawnPaths, namedAmong_append, List.map_append]
  rfl

theorem drawnPaths_inside {tag : Tag} (other : tag.name ≠ "path") (around : List Tag)
    (children : List Element) :
    drawnPaths around [.mk tag children] = drawnPaths (around ++ [tag]) children := by
  rw [drawnPaths, namedAmong_singleton, Element.named, if_neg other, List.nil_append]
  rfl

theorem drawnPaths_path {tag : Tag} (path : tag.name = "path") (around : List Tag) :
    drawnPaths around [.mk tag []] = [(around, tag.value? "d")] := by
  rw [drawnPaths, namedAmong_singleton, Element.named, if_pos path]
  rfl

namespace Shows

variable {text front back : String} {paths others : List Tag → List (List Tag × Option String)}

theorem empty : Shows "" fun _ => [] :=
  ⟨[], IsContent.empty, fun _ => rfl⟩

theorem append (first : Shows front paths) (second : Shows back others) :
    Shows (front ++ back) fun around => paths around ++ others around := by
  obtain ⟨elements, content, found⟩ := first
  obtain ⟨more, rest, also⟩ := second
  refine ⟨elements ++ more, content.append rest, fun around => ?_⟩
  rw [drawnPaths_append, found, also]

theorem congr (shown : Shows text paths) (same : ∀ around, paths around = others around) :
    Shows text others := by
  obtain ⟨elements, content, found⟩ := shown
  exact ⟨elements, content, fun around => (found around).trans (same around)⟩

theorem inside {tag : Tag} (name : String) (shown : Shows text paths) (opens : IsOpening front tag)
    (named : tag.name = name) (letters : Every isNameChar name) (other : name ≠ "path")
    (closes : back = "</" ++ name ++ ">") :
    Shows (front ++ text ++ back) fun around => paths (around ++ [tag]) := by
  obtain ⟨elements, content, found⟩ := shown
  subst named
  rw [closes]
  refine ⟨[.mk tag elements], opens.isContent content letters, fun around => ?_⟩
  rw [drawnPaths_inside other, found]

end Shows

/-! ### Tags that are no paths -/

theorem HasAttributes.isOpening {begun text : String} {possible : List String} {tag : Tag}
    (has : HasAttributes .between text possible) (begins : Begins begun tag)
    (distinct : (keys tag.attributes ++ possible).Nodup) :
    ∃ attributes, (keys attributes).Sublist possible ∧
      IsOpening (begun ++ text ++ ">") (tag.adding attributes) := by
  obtain ⟨attributes, listed, reads⟩ := has
  refine ⟨attributes, listed, begins.isOpening reads (distinct.sublist ?_)⟩
  rw [keys_append]
  exact (List.append_sublist_append_left _).mpr listed

/-- A tag can begin with some attributes. -/
theorem HasAttributes.begins {begun text : String} {possible : List String} {tag : Tag}
    (has : HasAttributes .valued text possible) (begins : ∀ siblings around,
      Reads begun ⟨.content, siblings, around⟩ ⟨.valued tag, siblings, around⟩)
    (distinct : (keys tag.attributes ++ possible).Nodup) :
    ∃ attributes, (keys attributes).Sublist possible ∧
      Begins (begun ++ text ++ " ") (tag.adding attributes) := by
  obtain ⟨attributes, listed, reads⟩ := has
  refine ⟨attributes, listed, fun siblings around => ?_⟩
  have read := reads tag siblings around (distinct.sublist (by
    rw [keys_append]
    exact (List.append_sublist_append_left _).mpr listed))
  have blank : Reads " " ⟨.valued (tag.adding attributes), siblings, around⟩
      ⟨.between (tag.adding attributes), siblings, around⟩ := rfl
  exact ((begins siblings around).append read).append blank

/-! ### Groups -/

/-- The group around a nested unit. It says how the unit is moved, if it is. -/
def frameTag (frame : LayerInfo α) : Tag :=
  ⟨"g", (transform? frame.transform).toList.map fun written => ("transform", written)⟩

/-- The groups that a placement is drawn in, behind those around its unit, and its outline. -/
def groupedPath (around : List Tag) (placement : Placement α) : List Tag × Option String :=
  (around ++ placement.frames.reverse.map frameTag, some (outline placement.leaf))

theorem groupedPath_within (around : List Tag) (frame : LayerInfo α) (placement : Placement α) :
    groupedPath around (placement.within frame) = groupedPath (around ++ [frameTag frame]) placement := by
  simp [groupedPath, Placement.within]

theorem isTransformed_iff (unit : ShapeUnit α) : isTransformed unit = true ↔
    ∃ layer, .primitive layer ∈ unit.members ∧ layer.transform.isIdentity = false := by
  unfold isTransformed
  rw [List.any_eq_true]
  constructor
  · rintro ⟨member, listed, moved⟩
    cases member with
    | primitive layer => exact ⟨layer, listed, by simpa using moved⟩
    | nested frame inner => cases moved
  · rintro ⟨layer, listed, moved⟩
    exact ⟨.primitive layer, listed, by simp [moved]⟩

/-- The group around all members, if there is one. -/
def outerGroup (unit : ShapeUnit α) : List Tag :=
  if isTransformed unit then [⟨"g", []⟩] else []

/-! ### Gradients -/

/-- The opacity of a stop is that of its own colour. -/
def stopOpacity (stop : ColorStop α) : Option String :=
  if stop.color.alpha = 255 then none else some (Scalar.fixed (stop.color.opacity : α) 2)

def stopAttributes (stop : ColorStop α) : List (String × String) :=
  ("offset", Scalar.fixed stop.position 6) ::
    paintAttributes "stop-color" "stop-opacity" stop.color (stopOpacity stop)

theorem nodup_keys_stopAttributes (stop : ColorStop α) : (keys (stopAttributes stop)).Nodup := by
  have all : ["offset", "stop-color", "stop-opacity"].Nodup := by decide
  exact all.sublist ((keys_paintAttributes _ _ _ _).cons_cons _)

/-- The stops of the gradient that a layer is filled with. -/
def gradientStops (layer : LayerInfo α) : List (ColorStop α) :=
  match layer.activeFill? with
  | some (.linear gradient) => gradient.stops
  | some (.radial gradient) => gradient.stops
  | _ => []

/-- The keys that a linear or a radial gradient can have. -/
def gradientKeys : List String :=
  ["id", "gradientTransform", "x1", "y1", "x2", "y2", "fx", "fy", "fr", "cx", "cy", "r"]

/-- Stops in an element of their own, which is no path and has no colour itself. -/
structure IsGradient (text : String) (list : List (ColorStop α)) (opening : String) (tag : Tag) : Prop where
  other : tag.name ≠ "path"
  letters : Every isNameChar tag.name
  listed : (keys tag.attributes).Sublist gradientKeys
  opens : IsOpening opening tag
  text_eq : text = opening ++ stops list ++ ("</" ++ tag.name ++ ">")

/-! ### Parts of paths -/

/-- The keys that a path can have, in order. -/
def pathKeys : List String :=
  ["transform"] ++ (["d"] ++ (["fill", "fill-opacity"] ++ (["stroke", "stroke-opacity"] ++ lineKeys)))

theorem nodup_pathKeys : pathKeys.Nodup := by
  decide

/-- The attributes of a path with any outline, between those that say how it is moved and those
of its line. -/
def pathAttributes (layer : LayerInfo α) (opacity : α) (moved : List (String × String)) (outline : String)
    (line : List (String × String)) : List (String × String) :=
  moved ++ ([("d", outline)] ++ (fillAttributes layer opacity ++ (strokeAttributes layer opacity ++ line)))

theorem keys_pathAttributes (layer : LayerInfo α) (opacity : α) (outline : String)
    {moved line : List (String × String)} (first : (keys moved).Sublist ["transform"])
    (last : (keys line).Sublist lineKeys) :
    (keys (pathAttributes layer opacity moved outline line)).Sublist pathKeys := by
  simp only [pathAttributes, keys_append]
  exact first.append ((List.Sublist.refl ["d"]).append
    ((keys_fillAttributes layer opacity).append ((keys_strokeAttributes layer opacity).append last)))

/-- What a fill refers to stands before the path. -/
def definitions (layer : LayerInfo α) (opacity : α) : String :=
  if (fill layer opacity).2.1.isEmpty then "" else "<defs>" ++ (fill layer opacity).2.1 ++ "</defs>"

section Elements

variable [WritesValues α]

theorem isContent_stop (stop : ColorStop α) :
    IsContent (Markup.stop stop) [.mk ⟨"stop", stopAttributes stop⟩ []] := by
  have position : IsAttributes .between (attr "offset" (Scalar.fixed stop.position 6))
      [("offset", Scalar.fixed stop.position 6)] := IsAttributes.attr (by decide) (every_fixed _ _)
  have color : IsAttributes .between (attr "stop-color" stop.color.toHex)
      [("stop-color", stop.color.toHex)] := IsAttributes.attr (by decide) (every_toHex _)
  have opacity : IsAttributes .valued (if stop.color.alpha = 255 then ""
      else " " ++ attr "stop-opacity" (Scalar.fixed (stop.color.opacity : α) 2))
      ((stopOpacity stop).toList.map fun text => ("stop-opacity", text)) := by
    unfold stopOpacity
    split
    · exact IsAttributes.empty
    · exact (IsAttributes.attr (by decide) (every_fixed _ _)).more
  have begins : Begins "<stop " ⟨"stop", []⟩ := fun _ _ => rfl
  have read := begins.isContent ((position.append color.more).append opacity)
    (nodup_keys_stopAttributes stop)
  unfold Markup.stop
  simp only [String.append_assoc] at read ⊢
  exact read

theorem stop_shows (stop : ColorStop α) : Shows (Markup.stop stop) fun _ => [] := by
  have other : "stop" ≠ "path" := by decide
  exact ⟨_, isContent_stop stop, fun around => drawnPaths_inside other around []⟩

theorem stops_shows (list : List (ColorStop α)) : Shows (stops list) fun _ => [] := by
  induction list with
  | nil => exact Shows.empty
  | cons stop rest ih =>
      unfold stops
      rw [List.map_cons, String.join_cons]
      exact (stop_shows stop).append ih

theorem isGradient_linear (gradient : LinearGradient α) :
    ∃ opening tag, IsGradient (linearGradient gradient) gradient.stops opening tag := by
  have side (key : String) (name : isName key.toList = true) (value : α) :=
    HasAttributes.attr key name (every_fixed value 6)
  have attributes := (((side "x1" (by decide) gradient.startX).append
    (side "y1" (by decide) gradient.startY).more).append
      (side "x2" (by decide) gradient.endX).more).append (side "y2" (by decide) gradient.endY).more
  have begins : Begins "<linearGradient id=\"gradient\" " ⟨"linearGradient", [("id", "gradient")]⟩ :=
    fun _ _ => rfl
  obtain ⟨more, listed, opens⟩ := attributes.isOpening begins (by decide)
  have within : (["id", "x1", "y1", "x2", "y2"] : List String).Sublist gradientKeys := by decide
  have other : "linearGradient" ≠ "path" := by decide
  have letters : Every isNameChar "linearGradient" := by decide
  refine ⟨_, ⟨"linearGradient", ("id", "gradient") :: more⟩, other, letters, ?_, opens, ?_⟩
  · exact (listed.cons_cons "id").trans within
  · change _ = _ ++ ("</" ++ "linearGradient" ++ ">")
    unfold linearGradient
    simp only [String.append_assoc]
    rfl

theorem isGradient_radial (gradient : RadialGradient α) :
    ∃ opening tag, IsGradient (radialGradient gradient) gradient.stops opening tag := by
  have side (key : String) (name : isName key.toList = true) (value : α) :=
    HasAttributes.attr key name (every_fixed value 6)
  have matrix (values : List α) : Every isValueChar ("matrix(" ++ numbers 6 values ++ ")") := by
    have opening : Every isValueChar "matrix(" := by decide
    have closing : Every isValueChar ")" := by decide
    exact (opening.append (every_numbers 6 values)).append closing
  unfold radialGradient
  dsimp only
  generalize gradient.transform.inverse.apply ⟨gradient.startX, gradient.startY⟩ = focus
  generalize gradient.transform.inverse.apply ⟨gradient.endX, gradient.endY⟩ = center
  have points := (((side "fx" (by decide) focus.x).append (side "fy" (by decide) focus.y).more).append
    (side "fr" (by decide) gradient.startRadius).more).append (side "cx" (by decide) center.x).more
  have attributes := (points.append (side "cy" (by decide) center.y).more).append
    (side "r" (by decide) gradient.endRadius).more
  have transform : HasAttributes .valued (if gradient.transform.isIdentity then ""
      else " " ++ attr "gradientTransform" ("matrix(" ++ numbers 6 gradient.transform.toList ++ ")"))
      ["gradientTransform"] := by
    split
    · exact HasAttributes.empty _
    · exact (HasAttributes.attr _ (by decide) (matrix _)).more
  let tag : Tag := ⟨"radialGradient", [("id", "gradient")]⟩
  have named (siblings : List Element) (around : List (Tag × List Element)) :
      Reads "<radialGradient id=\"gradient\"" ⟨.content, siblings, around⟩ ⟨.valued tag, siblings, around⟩ := rfl
  obtain ⟨moved, within, begins⟩ := transform.begins named (by decide)
  have first : (keys (tag.adding moved).attributes).Sublist ["id", "gradientTransform"] := by
    rw [Tag.adding, keys_append]
    exact (List.append_sublist_append_left _).mpr within
  have all : (["id", "gradientTransform"] ++ ["fx", "fy", "fr", "cx", "cy", "r"]).Nodup := by decide
  have distinct := all.sublist ((List.append_sublist_append_right _).mpr first)
  obtain ⟨more, listed, opens⟩ := attributes.isOpening begins distinct
  have known : (["id", "gradientTransform"] ++ ["fx", "fy", "fr", "cx", "cy", "r"]).Sublist gradientKeys := by
    decide
  have other : tag.name ≠ "path" := by decide
  have letters : Every isNameChar tag.name := by decide
  refine ⟨_, (tag.adding moved).adding more, other, letters, ?_, opens, ?_⟩
  · rw [Tag.adding, keys_append]
    exact (first.append listed).trans known
  · change _ = _ ++ ("</" ++ "radialGradient" ++ ">")
    simp only [String.append_assoc]
    rfl

/-- What a fill refers to is a gradient, or nothing. -/
theorem definitions_of_fill (layer : LayerInfo α) (opacity : α) :
    ((fill layer opacity).2.1 = "" ∧ gradientStops layer = []) ∨
      ∃ opening tag, IsGradient (fill layer opacity).2.1 (gradientStops layer) opening tag := by
  unfold fill gradientStops
  cases layer.activeFill? with
  | none => exact .inl ⟨rfl, rfl⟩
  | some own =>
      cases own with
      | color color => exact .inl ⟨rfl, rfl⟩
      | linear gradient => exact .inr (isGradient_linear gradient)
      | radial gradient => exact .inr (isGradient_radial gradient)
      | angular stops => exact .inl ⟨rfl, rfl⟩
      | image image => exact .inl ⟨rfl, rfl⟩

theorem definitions_show (layer : LayerInfo α) (opacity : α) :
    Shows (fill layer opacity).2.1 fun _ => [] := by
  rcases definitions_of_fill layer opacity with ⟨blank, -⟩ | ⟨opening, tag, gradient⟩
  · rw [blank]
    exact Shows.empty
  · rw [gradient.text_eq]
    exact (stops_shows _).inside tag.name gradient.opens rfl gradient.letters gradient.other rfl

theorem defs_show {definitions : String} (shown : Shows definitions fun _ => []) :
    Shows (if definitions.isEmpty then "" else "<defs>" ++ definitions ++ "</defs>") fun _ => [] := by
  have opens : IsOpening "<defs>" ⟨"defs", []⟩ := fun _ _ => rfl
  have closes : "</defs>" = "</" ++ "defs" ++ ">" := rfl
  split
  · exact Shows.empty
  · exact shown.inside "defs" opens rfl (by decide) (by decide) closes

/-! ### Outlines -/

theorem every_append_iff {allowed : Char → Bool} {front back : String} :
    Every allowed (front ++ back) ↔ Every allowed front ∧ Every allowed back := by
  simp [Every, or_imp, forall_and]

theorem every_arc (radius x y : α) : Every isValueChar (arc radius x y) := by
  simp only [arc, every_append_iff, every_numbers, and_true]
  decide

theorem every_boxOutline (width height : α) (radii : CornerRadii α) :
    Every isValueChar (boxOutline width height radii) := by
  unfold boxOutline
  dsimp only
  split <;>
  · simp only [every_append_iff, every_fixed, every_arc, and_true]
    decide

theorem every_ellipseOutline (width height : α) : Every isValueChar (ellipseOutline width height) := by
  unfold ellipseOutline
  dsimp only
  simp only [every_append_iff, every_fixed, and_true]
  decide

/-- An outline that the document has can be quoted as it is. -/
def HasPlainOutline (layer : LayerInfo α) : Prop :=
  ∀ outline ∈ layer.kind.outline?, Every isValueChar outline

theorem every_outline {layer : LayerInfo α} (plain : HasPlainOutline layer) :
    Every isValueChar (outline layer) := by
  unfold outline
  split
  · exact every_boxOutline _ _ _
  · exact every_ellipseOutline _ _
  · cases found : layer.kind.outline? with
    | none => decide
    | some text => exact plain text found

/-! ### Paths -/

/-- The outline of a path can be exchanged, and nothing else in its element depends on it. -/
theorem isContent_path (opacityOf : OpacityOf α) (layer : LayerInfo α) :
    ∃ front back moved line,
      (path opacityOf layer).1 = definitions layer (opacityOf layer) ++ (front ++ outline layer ++ back) ∧
        (keys moved).Sublist ["transform"] ∧ (keys line).Sublist lineKeys ∧
          ∀ text, Every isValueChar text → IsContent (front ++ text ++ back)
            [.mk ⟨"path", pathAttributes layer (opacityOf layer) moved text line⟩ []] := by
  obtain ⟨line, listed, stroked⟩ := isAttributes_stroke layer (opacityOf layer)
  have painted := (isAttributes_fill layer (opacityOf layer)).more.append stroked.more
  have begins : Begins "<path " ⟨"path", []⟩ := fun _ _ => rfl
  let ending := "\" " ++ (fill layer (opacityOf layer)).1 ++ (" " ++ (stroke layer (opacityOf layer)).1) ++ " />"
  have drawn {text : String} (plain : Every isValueChar text) :
      IsAttributes .between (attr "d" text) [("d", text)] := IsAttributes.attr (by decide) plain
  have distinct (text : String) {moved : List (String × String)} (first : (keys moved).Sublist ["transform"]) :
      (keys (pathAttributes layer (opacityOf layer) moved text line)).Nodup :=
    nodup_pathKeys.sublist (keys_pathAttributes layer (opacityOf layer) text first listed)
  unfold path
  dsimp only
  cases found : transform? (layer.transform.after (Affine.shift layer.localBounds.x layer.localBounds.y)) with
  | none =>
      refine ⟨"<path " ++ "d=\"", ending, [], line, ?_, List.nil_sublist _, listed, fun text plain => ?_⟩
      · simp only [definitions, attr, ending, String.append_assoc, String.empty_append]
        rfl
      · have read := begins.isContent ((drawn plain).append painted) (distinct text (List.nil_sublist _))
        simp only [attr, ending, String.append_assoc] at read ⊢
        exact read
  | some written =>
      have shift : IsAttributes .between (attr "transform" written) [("transform", written)] :=
        IsAttributes.attr (by decide) (every_transform found)
      refine ⟨"<path " ++ attr "transform" written ++ " " ++ "d=\"", ending, [("transform", written)], line, ?_,
        List.Sublist.refl _, listed, fun text plain => ?_⟩
      · simp only [definitions, attr, ending, String.append_assoc]
        rfl
      · have read := begins.isContent (shift.append ((drawn plain).append painted).more)
          (distinct text (List.Sublist.refl _))
        simp only [attr, ending, String.append_assoc] at read ⊢
        exact read

theorem path_shows (opacityOf : OpacityOf α) {layer : LayerInfo α} (plain : HasPlainOutline layer) :
    Shows (path opacityOf layer).1 fun around => [(around, some (outline layer))] := by
  obtain ⟨front, back, moved, line, text, first, -, read⟩ := isContent_path opacityOf layer
  have content := read (outline layer) (every_outline plain)
  have unmoved : moved.lookup "d" = none := lookup_eq_none (not_mem_keys first (by decide))
  have shown : Shows (front ++ outline layer ++ back) fun around => [(around, some (outline layer))] := by
    refine ⟨_, content, fun around => ?_⟩
    rw [drawnPaths_path rfl, Tag.value?, pathAttributes, List.lookup_append, unmoved]
    rfl
  rw [text]
  exact (defs_show (definitions_show layer (opacityOf layer))).append shown

/-! ### Units -/

theorem isOpening_frameOpening (frame : LayerInfo α) : IsOpening (frameOpening frame) (frameTag frame) := by
  unfold frameOpening frameTag
  cases found : transform? frame.transform with
  | none => exact fun _ _ => rfl
  | some written =>
      have begins : Begins "<g " ⟨"g", []⟩ := fun _ _ => rfl
      have moved : IsAttributes .between (attr "transform" written) [("transform", written)] :=
        IsAttributes.attr (by decide) (every_transform found)
      exact begins.isOpening moved (by simp [keys])

end Elements

mutual

theorem member_shows [WritesValues α] (opacityOf : OpacityOf α) : ∀ (member : ShapeMember α),
    (∀ layer ∈ member.primitives, HasPlainOutline layer) →
      Shows (Markup.member opacityOf member).1 fun around => member.placements.map (groupedPath around)
  | .primitive layer, plain => by
      rw [ShapeMember.primitives] at plain
      refine (path_shows opacityOf (plain layer (List.mem_singleton_self layer))).congr fun around => ?_
      rw [ShapeMember.placements]
      simp [groupedPath, Placement.alone]
  | .nested frame inner, plain => by
      rw [ShapeMember.primitives] at plain
      have shown := members_show opacityOf inner plain
      have closes : "</g>" = "</" ++ "g" ++ ">" := rfl
      have opens := isOpening_frameOpening frame
      -- The frame is the last one from the inside out, and the first one behind what is around.
      refine (shown.inside "g" opens rfl (by decide) (by decide) closes).congr fun around => ?_
      rw [ShapeMember.placements, withinAll, List.map_map]
      exact List.map_congr_left fun placement _ => (groupedPath_within around frame placement).symm

/-- The paths of some members are their primitives in drawing order, each in the groups of
the nested units around it. -/
theorem members_show [WritesValues α] (opacityOf : OpacityOf α) : ∀ (list : List (ShapeMember α)),
    (∀ layer ∈ memberPrimitives list, HasPlainOutline layer) →
      Shows (members opacityOf list).1 fun around => (memberPlacements list).map (groupedPath around)
  | [], _ => by
      rw [members, memberPlacements]
      exact Shows.empty
  | first :: rest, plain => by
      rw [memberPrimitives] at plain
      have own := member_shows opacityOf first fun layer drawn => plain layer (List.mem_append_left _ drawn)
      have others := members_show opacityOf rest fun layer drawn => plain layer (List.mem_append_right _ drawn)
      rw [members, memberPlacements]
      exact (own.append others).congr fun around => List.map_append.symm

end

theorem isOpening_svg {values : String} (plain : Every isValueChar values) :
    IsOpening ("<svg viewBox=\"" ++ values ++ "\" >") ⟨"svg", [("viewBox", values)]⟩ := by
  intro siblings around
  have begun : Reads "<svg viewBox=\"" ⟨.content, siblings, around⟩
      ⟨.quoted ⟨"svg", []⟩ "viewBox" [], siblings, around⟩ := rfl
  have valued : Reads (values ++ "\"") ⟨.quoted ⟨"svg", []⟩ "viewBox" [], siblings, around⟩
      ⟨.valued ⟨"svg", [("viewBox", values)]⟩, siblings, around⟩ :=
    reads_value List.not_mem_nil plain
  have entered : Reads " >" ⟨.valued ⟨"svg", [("viewBox", values)]⟩, siblings, around⟩
      ⟨.content, [], (⟨"svg", [("viewBox", values)]⟩, siblings) :: around⟩ := rfl
  have whole := (begun.append valued).append entered
  simp only [String.append_assoc] at whole ⊢
  exact whole

/-- The markup of a unit is one element. Its paths are the primitives of the unit in drawing
order, and around each of them are, from the outside in, a bare group if some primitive of
the unit itself is moved or distorted, and one group for each nested unit around it, which
says how the frame of that unit is moved. -/
theorem render_reads [WritesValues α] (opacityOf : OpacityOf α) {unit : ShapeUnit α}
    (plain : ∀ layer ∈ unit.primitives, HasPlainOutline layer) :
    ∃ (svg : Tag) (children : List Element),
      read? (render opacityOf unit).1 = some (.mk svg children) ∧ svg.name = "svg" ∧
        drawnPaths [svg] children =
          (memberPlacements unit.members).map (groupedPath (svg :: outerGroup unit)) ∧
        (outerGroup unit = [⟨"g", []⟩] ↔
          ∃ layer, .primitive layer ∈ unit.members ∧ layer.transform.isIdentity = false) ∧
        ∀ frame : LayerInfo α, (frameTag frame).name = "g" ∧
          ((frameTag frame).attributes = [] ↔ frame.transform.isIdentity = true) := by
  have grouped : Shows (if isTransformed unit then "<g>" ++ (members opacityOf unit.members).1 ++ "</g>"
      else (members opacityOf unit.members).1)
      fun around => (memberPlacements unit.members).map (groupedPath (around ++ outerGroup unit)) := by
    have shown := members_show opacityOf unit.members plain
    have closes : "</g>" = "</" ++ "g" ++ ">" := rfl
    have opens : IsOpening "<g>" ⟨"g", []⟩ := fun _ _ => rfl
    unfold outerGroup
    split
    · exact shown.inside "g" opens rfl (by decide) (by decide) closes
    · exact shown.congr fun around => by rw [List.append_nil]
  obtain ⟨children, content, found⟩ := grouped
  let box := unit.viewBox
  have opens := isOpening_svg (every_numbers 1 [box.x, box.y, box.width, box.height])
  have letters : Every isNameChar "svg" := by decide
  refine ⟨_, children, read?_of_isContent (opens.isContent content letters), rfl, found _, ?_, ?_⟩
  · rw [← isTransformed_iff, outerGroup]
    cases isTransformed unit <;> simp
  · intro frame
    refine ⟨rfl, ?_⟩
    rw [← transform?_eq_none_iff]
    simp [frameTag]

def cornerLayer : LayerInfo Rat :=
  { LayerInfo.usual "corner" "Corner" (.rectangle ⟨0, 0, 0, 0⟩) with
    localBounds := ⟨0, 0, 10, 10⟩
    transform := Affine.shift 2 3 }

def slashLayer : LayerInfo Rat :=
  { LayerInfo.usual "slash" "Slash" (.path "M0 0L5 5") with localBounds := ⟨0, 0, 5, 5⟩ }

def movedFrame : LayerInfo Rat :=
  { LayerInfo.usual "moved" "Moved" .group with transform := Affine.shift 4 5 }

def cornerUnit : ShapeUnit Rat :=
  (ShapeUnit.ofPrimitive cornerLayer).absorb (ShapeUnit.framed movedFrame (ShapeUnit.ofPrimitive slashLayer))

/-- A moved rectangle, and a line in a moved group. -/
theorem render_reads_cornerUnit : ∃ (svg : Tag) (children : List Element),
    read? (render (fun layer => layer.opacity) cornerUnit).1 = some (.mk svg children) ∧
      drawnPaths [svg] children =
        [([svg, ⟨"g", []⟩], some "M0 0H10V10H0Z"),
          ([svg, ⟨"g", []⟩, ⟨"g", [("transform", "translate(4, 5)")]⟩], some "M0 0L5 5")] := by
  have plain : ∀ layer ∈ cornerUnit.primitives, HasPlainOutline layer := by
    intro layer drawn
    rcases List.mem_cons.mp drawn with same | later
    · subst same
      intro outline absent
      cases absent
    · rw [List.mem_singleton.mp later]
      intro outline found
      rw [← Option.some.inj found]
      decide
  obtain ⟨svg, children, read, -, paths, -⟩ := render_reads (fun layer => layer.opacity) plain
  have outer : outerGroup cornerUnit = [⟨"g", []⟩] := if_pos (by decide +kernel)
  have moved : frameTag movedFrame = ⟨"g", [("transform", "translate(4, 5)")]⟩ := by
    have written : transform? movedFrame.transform = some "translate(4, 5)" := by decide +kernel
    rw [frameTag, written]
    rfl
  have corner : outline cornerLayer = "M0 0H10V10H0Z" := by decide +kernel
  have drawn : memberPlacements cornerUnit.members = [⟨cornerLayer, []⟩, ⟨slashLayer, [movedFrame]⟩] := rfl
  refine ⟨svg, children, read, ?_⟩
  rw [paths, outer, drawn]
  simp only [List.map_cons, List.map_nil, groupedPath, corner, List.reverse_nil, List.reverse_singleton,
    moved]
  rfl

end Markup

end DesignExport
