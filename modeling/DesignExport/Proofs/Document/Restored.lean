import DesignExport.Proofs.Document.Storable
set_option autoImplicit false

/-! Decoding a document undoes encoding it. Each type of the format restores what can be stored,
from the fields up to the tree of layers, and decoding yields nothing else. -/

namespace DesignExport.Decoding

open DesignExport.Json
open DesignExport.Json.Decoder

/-- The numbers that absent fields stand for. -/
theorem isFinite_defaults : ∀ number ∈ ([0.0, 1.0, 4.0, 14.0, 0.3] : List Float),
    number.isFinite = true := by
  decide +kernel

theorem isFinite_zero : (0.0 : Float).isFinite = true :=
  isFinite_defaults _ (.head _)

theorem isFinite_one : (1.0 : Float).isFinite = true :=
  isFinite_defaults _ (.tail _ (.head _))

theorem isFinite_usualMiterLimit : (Stroke.usualMiterLimit : Float).isFinite = true :=
  isFinite_defaults _ (.tail _ (.tail _ (.head _)))

theorem isFinite_usualSize : (TextRun.usual : TextRun Float).size.isFinite = true :=
  isFinite_defaults _ (.tail _ (.tail _ (.tail _ (.head _))))

theorem isFinite_usualDuration : (Transition.usual : Transition Float).duration.isFinite = true :=
  isFinite_defaults _ (.tail _ (.tail _ (.tail _ (.tail _ (.head _)))))

/-! ### Geometry and paint -/

theorem color_undoes (own : Color) (origin : Origin) :
    color origin (.ofJson (Encoding.color own)) = .ok own :=
  record_undoes
    [ .stored restores_byte trivial, .stored restores_byte trivial,
      .stored restores_byte trivial, .stored restores_byte trivial ] (by simp) origin

theorem restores_color : Restores color Encoding.color (fun _ => True) :=
  .ofUndoes color_undoes

theorem restores_rect : Restores rect Encoding.rect Rect.IsStorable where
  undoes storable origin :=
    record_undoes
      [ .stored restores_float storable.x, .stored restores_float storable.y,
        .stored restores_float storable.width, .stored restores_float storable.height ]
      (by simp) origin
  yields finite decoded :=
    record_yields finite decoded ⟨isFinite_zero, isFinite_zero, isFinite_zero, isFinite_zero⟩
      ⟨Field.keeps restores_float fun kept x => { kept with x },
        Field.keeps restores_float fun kept y => { kept with y },
        Field.keeps restores_float fun kept width => { kept with width },
        Field.keeps restores_float fun kept height => { kept with height }⟩

theorem restores_affine : Restores affine Encoding.affine Affine.IsStorable where
  undoes {map} storable origin := by
    have read : exactly float 6 origin (.ofJson (Encoding.list Encoding.float map.toList)) =
        .ok map.toList :=
      exactly_undoes fun entry member => Restores.undoes restores_float (storable entry member) origin
    rw [affine, Encoding.affine, read]
    rfl
  yields {origin reading map} finite decoded := by
    rw [affine] at decoded
    split at decoded
    case h_1 => cases decoded
    case h_2 numbers read =>
      have each := exactly_yields (Restores.yields restores_float) finite read
      split at decoded
      case h_1 own listed =>
        cases decoded
        unfold Affine.ofList? at listed
        split at listed
        case h_1 =>
          cases listed
          exact each
        case h_2 => cases listed
      case h_2 => cases decoded

theorem restores_colorStop : Restores colorStop Encoding.colorStop ColorStop.IsStorable where
  undoes {stop} storable origin :=
    record_undoes
      [ .stored restores_float storable, .stored restores_color trivial ] (by simp) origin
  yields finite decoded :=
    record_yields finite decoded isFinite_zero
      ⟨Field.keeps restores_float fun _ position => position,
        Field.keeps restores_color fun kept _ => kept⟩

theorem restores_stops : Restores (Decoder.list colorStop) Encoding.stops
    (fun stops => ∀ stop ∈ stops, stop.IsStorable) :=
  .list restores_colorStop

theorem isStorable_identity : (Affine.identity : Affine Float).IsStorable :=
  List.forall_iff_forall_mem.mp
    ⟨isFinite_one, isFinite_zero, isFinite_zero, isFinite_one, isFinite_zero, isFinite_zero⟩

theorem restores_imageScale : Restores (Decoder.choice imageScales) (Encoding.choice imageScales)
    (fun _ => True) :=
  restores_choice fun scale => by cases scale <;> exact ⟨_, rfl, rfl⟩

theorem rejects_text (origin : Origin) (value : String) :
    Decoder.text origin .null ≠ .ok value := nofun

theorem restores_optionalText : Restores (Decoder.optional Decoder.text) (Encoding.optional .text)
    (fun value => ∀ own ∈ value, True) :=
  .optional restores_text rejects_text

section Gradients

variable {origin : Origin} {reading : Reading}

theorem linearGradient_yields {gradient : LinearGradient Float} (finite : reading.IsFinite)
    (decoded : linearGradient origin reading = .ok gradient) : gradient.IsStorable :=
  record_yields finite decoded
    ⟨isFinite_zero, isFinite_zero, isFinite_zero, isFinite_zero, List.forall_mem_nil _⟩
    ⟨Field.keeps restores_float fun kept startX => { kept with startX },
      Field.keeps restores_float fun kept startY => { kept with startY },
      Field.keeps restores_float fun kept endX => { kept with endX },
      Field.keeps restores_float fun kept endY => { kept with endY },
      Field.keeps restores_stops fun kept stops => { kept with stops }⟩

theorem radialGradient_yields {gradient : RadialGradient Float} (finite : reading.IsFinite)
    (decoded : radialGradient origin reading = .ok gradient) : gradient.IsStorable :=
  record_yields finite decoded
    ⟨isFinite_zero, isFinite_zero, isFinite_zero, isFinite_zero, isFinite_zero, isFinite_zero,
      isStorable_identity, List.forall_mem_nil _⟩
    ⟨Field.keeps restores_float fun kept startX => { kept with startX },
      Field.keeps restores_float fun kept startY => { kept with startY },
      Field.keeps restores_float fun kept startRadius => { kept with startRadius },
      Field.keeps restores_float fun kept endX => { kept with endX },
      Field.keeps restores_float fun kept endY => { kept with endY },
      Field.keeps restores_float fun kept endRadius => { kept with endRadius },
      Field.keeps restores_affine fun kept transform => { kept with transform },
      Field.keeps restores_stops fun kept stops => { kept with stops }⟩

theorem angularStops_yields {stops : List (ColorStop Float)} (finite : reading.IsFinite)
    (decoded : angularStops origin reading = .ok stops) : ∀ stop ∈ stops, stop.IsStorable :=
  @record_yields _ (fun stops : List (ColorStop Float) => ∀ stop ∈ stops, stop.IsStorable) _ _ _ _ _
    finite decoded (List.forall_mem_nil _) (Field.keeps restores_stops fun _ stops => stops)

theorem imageFill_yields {image : ImageFill Float} (finite : reading.IsFinite)
    (decoded : imageFill origin reading = .ok image) : image.IsStorable :=
  record_yields finite decoded ⟨isFinite_zero, isFinite_zero⟩
    ⟨Field.keeps restores_optionalText fun kept _ => { kept with },
      Field.keeps restores_imageScale fun kept _ => { kept with },
      Field.keeps restores_float fun kept naturalWidth => { kept with naturalWidth },
      Field.keeps restores_float fun kept naturalHeight => { kept with naturalHeight }⟩

end Gradients

theorem fillContent_yields (tag : FillTag) {origin : Origin} {reading : Reading} {own : Fill Float}
    (finite : reading.IsFinite) (decoded : fillContent tag origin reading = .ok own) :
    own.IsStorable := by
  cases tag with
  | color =>
      obtain ⟨_, _, rfl⟩ := exists_of_map_eq_ok decoded
      trivial
  | linear =>
      obtain ⟨gradient, read, rfl⟩ := exists_of_map_eq_ok decoded
      exact linearGradient_yields finite read
  | radial =>
      obtain ⟨gradient, read, rfl⟩ := exists_of_map_eq_ok decoded
      exact radialGradient_yields finite read
  | angular =>
      obtain ⟨stops, read, rfl⟩ := exists_of_map_eq_ok decoded
      exact angularStops_yields finite read
  | image =>
      obtain ⟨image, read, rfl⟩ := exists_of_map_eq_ok decoded
      exact imageFill_yields finite read

theorem map_ok_of_eq {β γ : Type} {computed : Except Fault β} {value : β} (read : computed = .ok value)
    (wrap : β → γ) : computed.map wrap = .ok (wrap value) := by
  rw [read]
  rfl

theorem restores_fill : Restores fill Encoding.fill Fill.IsStorable where
  undoes {own} storable origin := by
    cases own with
    | color own =>
        have known : lookUp fillTags "color" = .ok .color := rfl
        refine tagged_undoes known origin (by simp) ?_
        intro others same
        refine map_ok_of_eq ?_ Fill.color
        exact record_entries
          [ .stored restores_byte trivial, .stored restores_byte trivial,
            .stored restores_byte trivial, .stored restores_byte trivial ] same (by simp) _
    | linear gradient =>
        have known : lookUp fillTags "linearGradient" = .ok .linear := rfl
        refine tagged_undoes known origin (by simp) ?_
        intro others same
        refine map_ok_of_eq ?_ Fill.linear
        exact record_entries
          [ .stored restores_float storable.startX, .stored restores_float storable.startY,
            .stored restores_float storable.endX, .stored restores_float storable.endY,
            .stored restores_stops storable.stops ] same (by simp) _
    | radial gradient =>
        have known : lookUp fillTags "radialGradient" = .ok .radial := rfl
        refine tagged_undoes known origin (by simp) ?_
        intro others same
        refine map_ok_of_eq ?_ Fill.radial
        exact record_entries
          [ .stored restores_float storable.startX, .stored restores_float storable.startY,
            .stored restores_float storable.startRadius,
            .stored restores_float storable.endX, .stored restores_float storable.endY,
            .stored restores_float storable.endRadius,
            .stored restores_affine storable.transform,
            .stored restores_stops storable.stops ] same (by simp) _
    | angular stops =>
        have known : lookUp fillTags "angularGradient" = .ok .angular := rfl
        refine tagged_undoes known origin (by simp) ?_
        intro others same
        refine map_ok_of_eq ?_ Fill.angular
        exact record_entries [ .stored restores_stops storable ] same (by simp) _
    | image image =>
        have known : lookUp fillTags "imageFill" = .ok .image := rfl
        refine tagged_undoes known origin (by simp) ?_
        intro others same
        refine map_ok_of_eq ?_ Fill.image
        exact record_entries
          [ .stored restores_optionalText (fun _ _ => trivial),
            .stored restores_imageScale trivial,
            .stored restores_float storable.naturalWidth,
            .stored restores_float storable.naturalHeight ] same (by simp) _
  yields finite decoded := tagged_yields fillContent_yields finite decoded

theorem restores_strokePosition : Restores (Decoder.choice strokePositions)
    (Encoding.choice strokePositions) (fun _ => True) :=
  restores_choice fun position => by cases position <;> exact ⟨_, rfl, rfl⟩

theorem restores_strokeJoin : Restores (Decoder.choice strokeJoins) (Encoding.choice strokeJoins)
    (fun _ => True) :=
  restores_choice fun join => by cases join <;> exact ⟨_, rfl, rfl⟩

theorem restores_strokeCap : Restores (Decoder.choice strokeCaps) (Encoding.choice strokeCaps)
    (fun _ => True) :=
  restores_choice fun cap => by cases cap <;> exact ⟨_, rfl, rfl⟩

theorem restores_stroke : Restores stroke Encoding.stroke Stroke.IsStorable where
  undoes storable origin :=
    record_undoes
      [ .stored restores_color trivial, .stored restores_float storable.width,
        .stored restores_flag trivial, .stored restores_strokePosition trivial,
        .stored restores_strokeJoin trivial, .stored restores_strokeCap trivial,
        .stored (.list restores_float) storable.dashes,
        .stored restores_float storable.dashOffset,
        .stored restores_float storable.miterLimit ]
      (by simp) origin
  yields finite decoded :=
    record_yields finite decoded
      ⟨isFinite_one, List.forall_mem_nil _, isFinite_zero, isFinite_usualMiterLimit⟩
      ⟨Field.keeps restores_color fun kept _ => { kept with },
        Field.keeps restores_float fun kept width => { kept with width },
        Field.keeps restores_flag fun kept _ => { kept with },
        Field.keeps restores_strokePosition fun kept _ => { kept with },
        Field.keeps restores_strokeJoin fun kept _ => { kept with },
        Field.keeps restores_strokeCap fun kept _ => { kept with },
        Field.keeps (.list restores_float) fun kept dashes => { kept with dashes },
        Field.keeps restores_float fun kept dashOffset => { kept with dashOffset },
        Field.keeps restores_float fun kept miterLimit => { kept with miterLimit }⟩

theorem restores_shadow : Restores shadow Encoding.shadow Shadow.IsStorable where
  undoes storable origin :=
    record_undoes
      [ .stored restores_float storable.x, .stored restores_float storable.y,
        .stored restores_float storable.blur, .stored restores_color trivial,
        .stored restores_flag trivial ]
      (by simp) origin
  yields finite decoded :=
    record_yields finite decoded ⟨isFinite_zero, isFinite_zero, isFinite_zero⟩
      ⟨Field.keeps restores_float fun kept x => { kept with x },
        Field.keeps restores_float fun kept y => { kept with y },
        Field.keeps restores_float fun kept blur => { kept with blur },
        Field.keeps restores_color fun kept _ => { kept with },
        Field.keeps restores_flag fun kept _ => { kept with }⟩

theorem restores_blur : Restores blur Encoding.blur Blur.IsStorable where
  undoes storable origin :=
    record_undoes
      [ .stored restores_float storable.amount, .stored restores_float storable.brightness,
        .stored restores_float storable.fillOpacity, .stored restores_flag trivial,
        .stored restores_flag trivial ]
      (by simp) origin
  yields finite decoded :=
    record_yields finite decoded ⟨isFinite_zero, isFinite_zero, isFinite_one⟩
      ⟨Field.keeps restores_float fun kept amount => { kept with amount },
        Field.keeps restores_float fun kept brightness => { kept with brightness },
        Field.keeps restores_float fun kept fillOpacity => { kept with fillOpacity },
        Field.keeps restores_flag fun kept _ => { kept with },
        Field.keeps restores_flag fun kept _ => { kept with }⟩

/-! ### Arrangement -/

theorem restores_constraints : Restores constraints Encoding.constraints (fun _ => True) :=
  .ofUndoes fun _ origin =>
    record_undoes
      [ .stored restores_flag trivial, .stored restores_flag trivial,
        .stored restores_flag trivial, .stored restores_flag trivial,
        .stored restores_flag trivial, .stored restores_flag trivial ]
      (by simp) origin

theorem restores_spacings : Restores spacings Encoding.spacings Spacings.IsStorable where
  undoes {own} storable origin := by
    cases own with
    | uniform gap =>
        apply either_first
        rw [Encoding.spacings, Restores.undoes restores_float storable]
        rfl
    | perGap gaps =>
        apply either_second
        · exact nofun
        · rw [Encoding.spacings, Restores.undoes (.list restores_float) storable]
          rfl
  yields finite decoded := by
    refine either_yields ?_ ?_ finite decoded
    · intro origin reading value finite decoded
      obtain ⟨gap, read, rfl⟩ := exists_of_map_eq_ok decoded
      exact Restores.yields restores_float finite read
    · intro origin reading value finite decoded
      obtain ⟨gaps, read, rfl⟩ := exists_of_map_eq_ok decoded
      exact Restores.yields (.list restores_float) finite read

theorem restores_orientation : Restores (Decoder.choice orientations)
    (Encoding.choice orientations) (fun _ => True) :=
  restores_choice fun orientation => by cases orientation <;> exact ⟨_, rfl, rfl⟩

theorem restores_stack : Restores stack Encoding.stack Stack.IsStorable where
  undoes storable origin :=
    record_undoes
      [ .stored restores_orientation trivial, .stored restores_spacings storable ] (by simp) origin
  yields finite decoded :=
    record_yields finite decoded isFinite_zero
      ⟨Field.keeps restores_orientation fun kept _ => kept,
        Field.keeps restores_spacings fun _ spacings => spacings⟩

theorem edgeValues_yields {origin : Origin} {reading : Reading} {edges : EdgeValues Float}
    (finite : reading.IsFinite) (decoded : edgeValues origin reading = .ok edges) :
    edges.IsStorable :=
  record_yields finite decoded ⟨isFinite_zero, isFinite_zero, isFinite_zero, isFinite_zero⟩
    ⟨Field.keeps restores_float fun kept top => { kept with top },
      Field.keeps restores_float fun kept right => { kept with right },
      Field.keeps restores_float fun kept bottom => { kept with bottom },
      Field.keeps restores_float fun kept left => { kept with left }⟩

theorem restores_paddingValues :
    Restores paddingValues Encoding.paddingValues PaddingValues.IsStorable where
  undoes {own} storable origin := by
    cases own with
    | uniform value =>
        apply either_first
        rw [Encoding.paddingValues, Restores.undoes restores_float storable]
        rfl
    | edges values =>
        apply either_second
        · exact nofun
        · have read : edgeValues .memory (.ofJson (Encoding.paddingValues (.edges values))) =
              .ok values :=
            record_undoes
              [ .stored restores_float storable.top, .stored restores_float storable.right,
                .stored restores_float storable.bottom,
                .stored restores_float storable.left ]
              (by simp) _
          rw [read]
          rfl
  yields finite decoded := by
    refine either_yields ?_ ?_ finite decoded
    · intro origin reading value finite decoded
      obtain ⟨value, read, rfl⟩ := exists_of_map_eq_ok decoded
      exact Restores.yields restores_float finite read
    · intro origin reading value finite decoded
      obtain ⟨edges, read, rfl⟩ := exists_of_map_eq_ok decoded
      exact edgeValues_yields finite read

theorem rejects_paddingValues (origin : Origin) (value : PaddingValues Float) :
    paddingValues origin .null ≠ .ok value := nofun

theorem restores_paddingRecord :
    Restores paddingRecord Encoding.paddingRecord PaddingRecord.IsStorable where
  undoes storable origin :=
    record_undoes
      [ .stored (.optional restores_paddingValues rejects_paddingValues) storable,
        .stored restores_optionalText (fun _ _ => trivial) ]
      (by simp) origin
  yields finite decoded :=
    record_yields finite decoded (fun _ none => nomatch none)
      ⟨Field.keeps (.optional restores_paddingValues rejects_paddingValues)
          fun _ values => values,
        Field.keeps restores_optionalText fun kept _ => kept⟩

theorem rejects_constraints (origin : Origin) (value : ResizeConstraints) :
    constraints origin .null ≠ .ok value := nofun

theorem rejects_stack (origin : Origin) (value : Stack Float) :
    stack origin .null ≠ .ok value := nofun

theorem rejects_paddingRecord (origin : Origin) (value : PaddingRecord Float) :
    paddingRecord origin .null ≠ .ok value := nofun

theorem restores_groupArrangement : Restores (Decoder.choice groupArrangements)
    (Encoding.choice groupArrangements) (fun _ => True) :=
  restores_choice fun kind => by cases kind <;> exact ⟨_, rfl, rfl⟩

theorem isStorable_plain : (Arrangement.plain : Arrangement Float).IsStorable :=
  ⟨(fun _ none => nomatch none), (fun _ none => nomatch none)⟩

theorem restores_arrangement : Restores arrangement Encoding.arrangement Arrangement.IsStorable where
  undoes storable origin :=
    record_undoes
      [ .stored (.optional restores_constraints rejects_constraints) (fun _ _ => trivial),
        .stored restores_groupArrangement trivial,
        .stored (.optional restores_stack rejects_stack) storable.stack,
        .stored (.optional restores_paddingRecord rejects_paddingRecord) storable.padding ]
      (by simp) origin
  yields finite decoded :=
    record_yields finite decoded isStorable_plain
      ⟨Field.keeps (.optional restores_constraints rejects_constraints)
          fun kept _ => { kept with },
        Field.keeps restores_groupArrangement fun kept _ => { kept with },
        Field.keeps (.optional restores_stack rejects_stack)
          fun kept stack => { kept with stack },
        Field.keeps (.optional restores_paddingRecord rejects_paddingRecord)
          fun kept padding => { kept with padding }⟩

/-! ### Texts -/

theorem restores_textAlign : Restores (Decoder.choice textAligns) (Encoding.choice textAligns)
    (fun _ => True) :=
  restores_choice fun align => by cases align <;> exact ⟨_, rfl, rfl⟩

theorem restores_textBox : Restores (Decoder.choice textBoxes) (Encoding.choice textBoxes)
    (fun _ => True) :=
  restores_choice fun box => by cases box <;> exact ⟨_, rfl, rfl⟩

theorem restores_textScript : Restores (Decoder.choice textScripts) (Encoding.choice textScripts)
    (fun _ => True) :=
  restores_choice fun script => by cases script <;> exact ⟨_, rfl, rfl⟩

theorem restores_textTransform : Restores (Decoder.choice textTransforms)
    (Encoding.choice textTransforms) (fun _ => True) :=
  restores_choice fun transform => by cases transform <;> exact ⟨_, rfl, rfl⟩

theorem rejects_color (origin : Origin) (value : Color) : color origin .null ≠ .ok value := nofun

theorem restores_optionalColor : Restores (Decoder.optional color) (Encoding.optional Encoding.color)
    (fun value => ∀ own ∈ value, True) :=
  .optional restores_color rejects_color

theorem isStorable_usualRun : (TextRun.usual : TextRun Float).IsStorable :=
  ⟨by decide, isFinite_usualSize, isFinite_zero, isFinite_zero⟩

theorem restores_textRun : Restores textRun Encoding.textRun TextRun.IsStorable where
  undoes storable origin :=
    record_undoes
      [ .stored restores_count storable.length, .stored restores_text trivial,
        .stored restores_text trivial, .stored restores_float storable.size,
        .stored restores_optionalColor (fun _ _ => trivial),
        .stored restores_float storable.charSpacing, .stored restores_flag trivial,
        .stored restores_flag trivial, .stored restores_textScript trivial,
        .stored restores_textTransform trivial,
        .stored restores_float storable.paragraphSpacing ]
      (by simp) origin
  yields finite decoded :=
    record_yields finite decoded isStorable_usualRun
      ⟨Field.keeps restores_count fun kept length => { kept with length },
        Field.keeps restores_text fun kept _ => { kept with },
        Field.keeps restores_text fun kept _ => { kept with },
        Field.keeps restores_float fun kept size => { kept with size },
        Field.keeps restores_optionalColor fun kept _ => { kept with },
        Field.keeps restores_float fun kept charSpacing => { kept with charSpacing },
        Field.keeps restores_flag fun kept _ => { kept with },
        Field.keeps restores_flag fun kept _ => { kept with },
        Field.keeps restores_textScript fun kept _ => { kept with },
        Field.keeps restores_textTransform fun kept _ => { kept with },
        Field.keeps restores_float
          fun kept paragraphSpacing => { kept with paragraphSpacing }⟩

theorem textBlock_yields {origin : Origin} {reading : Reading} {block : TextBlock Float}
    (finite : reading.IsFinite) (decoded : textBlock origin reading = .ok block) :
    block.IsStorable :=
  record_yields finite decoded ⟨List.forall_mem_nil _, isFinite_zero⟩
    ⟨Field.keeps restores_text fun kept _ => { kept with },
      Field.keeps (.list restores_textRun) fun kept runs => { kept with runs },
      Field.keeps restores_textAlign fun kept _ => { kept with },
      Field.keeps restores_textBox fun kept _ => { kept with },
      Field.keeps restores_flag fun kept _ => { kept with },
      Field.keeps restores_float fun kept lineSpacing => { kept with lineSpacing }⟩

/-! ### Interactions -/

theorem restores_transition : Restores transition Encoding.transition Transition.IsStorable where
  undoes storable origin :=
    record_undoes
      [ .stored restores_text trivial, .stored restores_float storable,
        .stored restores_text trivial, .stored restores_optionalText (fun _ _ => trivial) ]
      (by simp) origin
  yields finite decoded :=
    record_yields finite decoded isFinite_usualDuration
      ⟨Field.keeps restores_text fun kept _ => kept,
        Field.keeps restores_float fun _ duration => duration,
        Field.keeps restores_text fun kept _ => kept,
        Field.keeps restores_optionalText fun kept _ => kept⟩

theorem goToArtboard_yields {origin : Origin} {reading : Reading}
    {own : String × Transition Float} (finite : reading.IsFinite)
    (decoded : goToArtboard origin reading = .ok own) : own.2.IsStorable :=
  @record_yields _ (fun own : String × Transition Float => own.2.IsStorable) _ _ _ _ _
    finite decoded isFinite_usualDuration
    ⟨Field.keeps restores_text fun kept _ => kept,
      Field.keeps restores_transition fun _ transition => transition⟩

theorem restores_action : Restores action Encoding.action InteractionAction.IsStorable where
  undoes {own} storable origin := by
    cases own with
    | goToArtboard destination transition =>
        have known : actionTag "goToArtboard" = .ok .goToArtboard := rfl
        refine tagged_undoes known origin (by simp) ?_
        intro others same
        have read : goToArtboard .memory (.record (.ofList others)) =
            .ok (destination, transition) :=
          record_entries
            [ .stored restores_text trivial, .stored restores_transition storable ] same (by simp) _
        exact map_ok_of_eq read _
    | goBack =>
        have known : actionTag "goBack" = .ok .goBack := rfl
        exact tagged_undoes known origin (by simp) fun _ => rfl
    | unsupported =>
        have known : actionTag "unsupported" = .ok .unsupported := rfl
        exact tagged_undoes known origin (by simp) fun _ => rfl
  yields finite decoded := by
    refine tagged_yields ?_ finite decoded
    intro tag origin reading own finite decoded
    cases tag with
    | goToArtboard =>
        obtain ⟨pair, read, rfl⟩ := exists_of_map_eq_ok decoded
        exact goToArtboard_yields finite read
    | goBack =>
        rw [eq_of_noContent origin decoded]
        trivial
    | unsupported =>
        rw [eq_of_noContent origin decoded]
        trivial

theorem restores_interaction : Restores interaction Encoding.interaction Interaction.IsStorable where
  undoes storable origin :=
    record_undoes
      [ .stored restores_text trivial, .stored restores_action storable ] (by simp) origin
  yields finite decoded :=
    record_yields finite decoded trivial
      ⟨Field.keeps restores_text fun kept _ => kept,
        Field.keeps restores_action fun _ action => action⟩

/-! ### Kinds of layers -/

theorem restores_scrollDirection : Restores (Decoder.choice scrollDirections)
    (Encoding.choice scrollDirections) (fun _ => True) :=
  restores_choice fun direction => by cases direction <;> exact ⟨_, rfl, rfl⟩

theorem isStorable_noRadii : (CornerRadii.none : CornerRadii Float).IsStorable :=
  ⟨isFinite_zero, isFinite_zero, isFinite_zero, isFinite_zero⟩

theorem restores_cornerRadii : Restores cornerRadii Encoding.cornerRadii CornerRadii.IsStorable where
  undoes storable origin :=
    record_undoes
      [ .stored restores_float storable.topLeft, .stored restores_float storable.topRight,
        .stored restores_float storable.bottomRight,
        .stored restores_float storable.bottomLeft ]
      (by simp) origin
  yields finite decoded :=
    record_yields finite decoded isStorable_noRadii
      ⟨Field.keeps restores_float fun kept topLeft => { kept with topLeft },
        Field.keeps restores_float fun kept topRight => { kept with topRight },
        Field.keeps restores_float fun kept bottomRight => { kept with bottomRight },
        Field.keeps restores_float fun kept bottomLeft => { kept with bottomLeft }⟩

theorem kindContent_yields (tag : KindTag) {origin : Origin} {reading : Reading}
    {own : LayerKind Float} (finite : reading.IsFinite)
    (decoded : kindContent tag origin reading = .ok own) : own.IsStorable := by
  cases tag with
  | rectangle =>
      obtain ⟨radii, read, rfl⟩ := exists_of_map_eq_ok decoded
      have kept : radii.IsStorable :=
        record_yields finite read isStorable_noRadii
          (Field.keeps restores_cornerRadii fun _ radii => radii)
      exact kept
  | text =>
      obtain ⟨block, read, rfl⟩ := exists_of_map_eq_ok decoded
      exact textBlock_yields finite read
  | scrollGroup | path | line | polygon | booleanGroup | component =>
      obtain ⟨_, _, rfl⟩ := exists_of_map_eq_ok decoded
      trivial
  | artboard | group | ellipse | unknown =>
      rw [eq_of_noContent origin decoded]
      trivial

theorem outline_entries (outline : String) {others : List (String × Json)}
    (same : List.Perm [("pathData", Json.text outline)] others) :
    Decoding.outline .memory (.record (.ofList others)) = .ok outline :=
  record_entries [ .stored restores_text trivial ] same (by simp) _

theorem restores_kind : Restores kind Encoding.kind LayerKind.IsStorable where
  undoes {own} storable origin := by
    cases own with
    | artboard =>
        have known : kindTag "artboard" = .ok .artboard := rfl
        exact tagged_undoes known origin (by simp) fun _ => rfl
    | group =>
        have known : kindTag "group" = .ok .group := rfl
        exact tagged_undoes known origin (by simp) fun _ => rfl
    | ellipse =>
        have known : kindTag "ellipse" = .ok .ellipse := rfl
        exact tagged_undoes known origin (by simp) fun _ => rfl
    | unknown =>
        have known : kindTag "unknown" = .ok .unknown := rfl
        exact tagged_undoes known origin (by simp) fun _ => rfl
    | scrollGroup direction =>
        have known : kindTag "scrollableGroup" = .ok .scrollGroup := rfl
        refine tagged_undoes known origin (by simp) ?_
        intro others same
        refine map_ok_of_eq ?_ LayerKind.scrollGroup
        exact record_entries [ .stored restores_scrollDirection trivial ] same (by simp) _
    | rectangle radii =>
        have known : kindTag "rectangle" = .ok .rectangle := rfl
        refine tagged_undoes known origin (by simp) ?_
        intro others same
        refine map_ok_of_eq ?_ LayerKind.rectangle
        exact record_entries [ .stored restores_cornerRadii storable ] same (by simp) _
    | path outline =>
        have known : kindTag "path" = .ok .path := rfl
        refine tagged_undoes known origin (by simp) ?_
        exact fun same => map_ok_of_eq (outline_entries outline same) LayerKind.path
    | line outline =>
        have known : kindTag "line" = .ok .line := rfl
        refine tagged_undoes known origin (by simp) ?_
        exact fun same => map_ok_of_eq (outline_entries outline same) LayerKind.line
    | polygon outline =>
        have known : kindTag "polygon" = .ok .polygon := rfl
        refine tagged_undoes known origin (by simp) ?_
        exact fun same => map_ok_of_eq (outline_entries outline same) LayerKind.polygon
    | booleanGroup outline =>
        have known : kindTag "booleanGroup" = .ok .booleanGroup := rfl
        refine tagged_undoes known origin (by simp) ?_
        exact fun same => map_ok_of_eq (outline_entries outline same) LayerKind.booleanGroup
    | text block =>
        have known : kindTag "text" = .ok .text := rfl
        refine tagged_undoes known origin (by simp) ?_
        intro others same
        refine map_ok_of_eq ?_ LayerKind.text
        exact record_entries
          [ .stored restores_text trivial, .stored (.list restores_textRun) storable.runs,
            .stored restores_textAlign trivial, .stored restores_textBox trivial,
            .stored restores_flag trivial, .stored restores_float storable.lineSpacing ]
          same (by simp) _
    | component isMaster symbol =>
        have known : kindTag "component" = .ok .component := rfl
        refine tagged_undoes known origin (by simp) ?_
        intro others same
        have read : component .memory (.record (.ofList others)) = .ok (isMaster, symbol) :=
          record_entries
            [ .stored restores_flag trivial, .stored restores_text trivial ] same (by simp) _
        exact map_ok_of_eq read _
  yields finite decoded := tagged_yields kindContent_yields finite decoded

end DesignExport.Decoding
