import DesignExport.Proofs.Expression.Pieces
set_option autoImplicit false

/-! The styles in the code of a text, and the fonts that they state. A rich text states the
font of its first run for all of its spans, and a span states a font of its own where that is
another one. Fonts are recorded for the runs with characters only. -/

namespace DesignExport

open Compile (Keeps Lasts Leads Shows Yields keeps_idle)

variable {α : Type} [Scalar α]

/-! ### Entries of styles -/

namespace TextStyle

def argument (entry : StyleKey × String) : String :=
  entry.1.name ++ ": " ++ entry.2 ++ ", "

def fontArgument (family : String) : String :=
  argument (.fontFamily, Dart.stringLiteral family)

theorem write_shows {style : TextStyle} {entry : StyleKey × String} (member : entry ∈ style) :
    ShowsPiece (argument entry) style.write := by
  have survives := survivesEdits_showsPiece (argument entry)
  have text : argument entry ≠ "" := append_ne_empty_of_right _ (by decide)
  refine survives.between ?_ _ _
  exact showsPiece_join (showsPiece_self text) (List.mem_map.mpr ⟨entry, member, rfl⟩)

/-- No key has two values. -/
def IsUnique (style : TextStyle) : Prop :=
  ∀ ⦃key value other⦄, (key, value) ∈ style → (key, other) ∈ style → value = other

theorem mem_of_find? {style : TextStyle} {key : StyleKey} {value : String}
    (found : style.find? key = some value) : (key, value) ∈ style := by
  obtain ⟨⟨own, text⟩, first, same⟩ := Option.map_eq_some_iff.mp found
  have named := List.find?_some first
  have member := List.mem_of_find?_eq_some first
  simp only [decide_eq_true_eq] at named
  cases named
  cases same
  exact member

theorem find?_eq_some_iff {style : TextStyle} (unique : style.IsUnique) {key : StyleKey}
    {value : String} : style.find? key = some value ↔ (key, value) ∈ style := by
  constructor
  · exact mem_of_find?
  · intro member
    cases found : style.find? key with
    | none =>
        have absent := List.find?_eq_none.mp (Option.map_eq_none_iff.mp found) _ member
        exact absurd (decide_eq_true rfl) absent
    | some other => rw [unique member (mem_of_find? found)]

section

variable (run : TextRun α) (context : TextContext α) (settings : Settings) (scope : StyleScope)

theorem mem_ofRun {key : StyleKey} {value : String} :
    (key, value) ∈ ofRun run context settings scope ↔
      scope.includes key = true ∧ value? run context settings key = some value := by
  have listed : key ∈ StyleKey.all := by cases key <;> decide
  rw [ofRun, List.mem_filterMap]
  constructor
  · rintro ⟨own, among, entry⟩
    obtain ⟨found, known, same⟩ := Option.map_eq_some_iff.mp entry
    cases same
    exact ⟨(List.mem_filter.mp among).2, known⟩
  · rintro ⟨included, known⟩
    exact ⟨key, List.mem_filter.mpr ⟨listed, included⟩, by rw [known]; rfl⟩

theorem isUnique_ofRun : (ofRun run context settings scope).IsUnique := by
  intro key value other first second
  rw [mem_ofRun] at first second
  exact Option.some.inj (first.2.symm.trans second.2)

theorem find?_ofRun (key : StyleKey) : (ofRun run context settings scope).find? key =
    if scope.includes key then value? run context settings key else none := by
  apply Option.ext
  intro value
  rw [find?_eq_some_iff (isUnique_ofRun run context settings scope), mem_ofRun]
  by_cases included : scope.includes key = true
  · simp only [included, if_true, true_and]
  · simp [included]

/-- Every style of a run states the font of the run, and no other one. -/
theorem font_mem_ofRun_iff {value : String} :
    (.fontFamily, value) ∈ ofRun run context settings scope ↔
      value = Dart.stringLiteral (settings.font run.family) := by
  have included : scope.includes .fontFamily = true := by cases scope <;> rfl
  rw [mem_ofRun]
  constructor
  · exact fun known => (Option.some.inj known.2).symm
  · exact fun same => ⟨included, congrArg some same.symm⟩

theorem find?_font_ofRun : (ofRun run context settings scope).find? .fontFamily =
    some (Dart.stringLiteral (settings.font run.family)) := by
  rw [find?_eq_some_iff (isUnique_ofRun run context settings scope), font_mem_ofRun_iff]

end

/-- What a style has in common with a baseline is left out of the difference. -/
theorem mem_delta {style baseline : TextStyle} {entry : StyleKey × String} :
    entry ∈ style.delta baseline ↔ entry ∈ style ∧ baseline.find? entry.1 ≠ some entry.2 := by
  rw [delta, List.mem_filter, decide_eq_true_iff]

end TextStyle

/-! ### Texts -/

namespace Label

theorem styleArgument_shows {style : TextStyle} {entry : StyleKey × String}
    (member : entry ∈ style) : ShowsPiece (TextStyle.argument entry) (styleArgument style) := by
  have survives := survivesEdits_showsPiece (TextStyle.argument entry)
  rw [styleArgument, List.isEmpty_eq_false_iff.mpr (List.ne_nil_of_mem member)]
  exact survives.between (TextStyle.write_shows member) _ _

section

variable (node : NodeInfo α) (block : TextBlock α)

def styles (context : TextContext α) (settings : Settings) : List TextStyle :=
  let first := block.runs.headD TextRun.usual
  if isFlat node block then [TextStyle.ofRun first context settings .full]
  else
    let baseline := TextStyle.ofRun first context settings .baseline
    baseline :: (slices block.runs block.text.toList).map fun slice =>
      (TextStyle.ofRun slice.1 context settings .run).delta baseline

/-- The runs whose fonts a text states: the first one, and those with characters. -/
def stated : List (TextRun α) :=
  block.runs.headD TextRun.usual :: recorded node block

theorem eq_of_font_mem_styles {context : TextContext α} {settings : Settings} {style : TextStyle}
    {value : String} (among : style ∈ styles node block context settings)
    (states : (.fontFamily, value) ∈ style) :
    ∃ run ∈ stated node block, value = Dart.stringLiteral (settings.font run.family) := by
  rw [stated, recorded]
  rw [styles] at among
  split at among
  case isTrue flat =>
    rw [List.mem_singleton.mp among, TextStyle.font_mem_ofRun_iff] at states
    exact ⟨_, List.mem_cons_self, states⟩
  case isFalse rich =>
    rw [if_neg rich]
    rcases List.mem_cons.mp among with same | below
    · rw [same, TextStyle.font_mem_ofRun_iff] at states
      exact ⟨_, List.mem_cons_self, states⟩
    · obtain ⟨slice, member, same⟩ := List.mem_map.mp below
      rw [← same, TextStyle.mem_delta, TextStyle.font_mem_ofRun_iff] at states
      exact ⟨slice.1, List.mem_cons_of_mem _ (List.mem_map_of_mem member), states.1⟩

/-- A span that states no font has the font of the baseline. -/
theorem exists_font_mem_styles {run : TextRun α} (among : run ∈ stated node block)
    (context : TextContext α) (settings : Settings) :
    ∃ style ∈ styles node block context settings,
      (.fontFamily, Dart.stringLiteral (settings.font run.family)) ∈ style := by
  rw [stated, recorded] at among
  rw [styles]
  split
  case isTrue flat =>
    rw [if_pos flat, List.mem_cons, List.mem_singleton, or_self] at among
    refine ⟨_, List.mem_singleton_self _, ?_⟩
    rw [among, TextStyle.font_mem_ofRun_iff]
  case isFalse rich =>
    let baseline := TextStyle.ofRun (block.runs.headD TextRun.usual) context settings .baseline
    rw [if_neg rich] at among
    rcases List.mem_cons.mp among with same | below
    · refine ⟨baseline, List.mem_cons_self, ?_⟩
      rw [same, TextStyle.font_mem_ofRun_iff]
    · obtain ⟨slice, member, same⟩ := List.mem_map.mp below
      by_cases shared : Dart.stringLiteral (settings.font run.family) =
          Dart.stringLiteral (settings.font (block.runs.headD TextRun.usual).family)
      · refine ⟨baseline, List.mem_cons_self, ?_⟩
        rw [TextStyle.font_mem_ofRun_iff]
        exact shared
      · refine ⟨_, List.mem_cons_of_mem _ (List.mem_map_of_mem member), ?_⟩
        rw [same, TextStyle.mem_delta, TextStyle.font_mem_ofRun_iff, TextStyle.find?_font_ofRun]
        exact ⟨rfl, fun known => shared (Option.some.inj known).symm⟩

end

/-! ### The code of a text -/

theorem place_shows {shows : String → Prop} (survives : SurvivesEdits shows) (layout : Layout α)
    (block : TextBlock α) {code : String} (shown : shows code) :
    shows (place layout block code).1 := by
  have widened : shows (widened layout block code).1 := by
    unfold widened
    split
    · exact shown
    · split
      · exact shown
      · split
        · exact shown
        · exact survives.between shown _ _
  unfold place
  split
  · exact shown
  · split
    · exact widened
    · exact shown

section

variable {node : NodeInfo α} {block : TextBlock α} {start : Context α}
  {entry : StyleKey × String}

theorem flat_shows {context : TextContext α} (member : entry ∈
      TextStyle.ofRun (block.runs.headD TextRun.usual) context start.settings .full) :
    Keeps (fun context => context.idle = start.idle) (flat node block context)
      (ShowsPiece (TextStyle.argument entry)) := by
  have survives := survivesEdits_showsPiece (TextStyle.argument entry)
  refine (keeps_idle (Compile.composed_of_writing (.useFont trivial)) start).bind fun _ _ => ?_
  refine (Compile.settings_keeps_idle start).bind fun settings same => Keeps.pure ?_
  rw [same]
  exact survives.behind _ (survives.behind _ (survives.before _ (styleArgument_shows member)))

theorem spans_shows {baseline : TextStyle} {context : TextContext α} {slice : TextRun α × List Char}
    (states : entry ∈ (TextStyle.ofRun slice.1 context start.settings .run).delta baseline) :
    ∀ {slices : List (TextRun α × List Char)}, slice ∈ slices →
      Keeps (fun context => context.idle = start.idle) (spans baseline context slices)
        (ShowsPiece (TextStyle.argument entry))
  | (run, text) :: rest, member => by
      have survives := survivesEdits_showsPiece (TextStyle.argument entry)
      rw [spans]
      refine (keeps_idle (Compile.composed_of_writing (.useFont trivial)) start).bind fun _ _ => ?_
      refine (Compile.settings_keeps_idle start).bind fun settings same => ?_
      rw [same]
      rcases List.mem_cons.mp member with here | later
      · refine (keeps_idle (spans_composed baseline context rest) start).bind fun _ _ => Keeps.pure ?_
        rw [here] at states
        exact survives.behind _ (survives.between (styleArgument_shows states) _ _)
      · exact (spans_shows states later).bind fun _ shown => Keeps.pure (survives.before _ shown)

theorem rich_shows {context : TextContext α} (isRich : isFlat node block = false)
    (among : ∃ style ∈ styles node block context start.settings, entry ∈ style) :
    Keeps (fun context => context.idle = start.idle) (rich block context)
      (ShowsPiece (TextStyle.argument entry)) := by
  have survives := survivesEdits_showsPiece (TextStyle.argument entry)
  obtain ⟨style, listed, member⟩ := among
  rw [styles, isRich] at listed
  refine (Compile.settings_keeps_idle start).bind fun settings same => ?_
  rw [same]
  -- The baseline stands in front of the spans, every other style in the span of its slice.
  rcases List.mem_cons.mp listed with baseline | below
  · rw [baseline] at member
    refine (keeps_idle (spans_composed _ context _) start).bind fun spans _ => Keeps.pure ?_
    have opening := survives.before "Text.rich(TextSpan(" (styleArgument_shows member)
    exact survives.behind _ (survives.behind _ (survives.behind _ (survives.behind _
      (survives.behind _ opening))))
  · obtain ⟨slice, inside, same⟩ := List.mem_map.mp below
    rw [← same] at member
    refine (spans_shows member inside).bind fun _ shown => Keeps.pure ?_
    exact survives.behind _ (survives.behind _ (survives.between shown _ _))

/-- Whatever the styles of a text state stands in its code. -/
theorem write_shows (label : node.layer.kind = .text block)
    (among : ∀ context, ∃ style ∈ styles node block context start.settings, entry ∈ style) :
    Shows start (ShowsPiece (TextStyle.argument entry)) (write node) := by
  have survives := survivesEdits_showsPiece (TextStyle.argument entry)
  unfold write
  rw [label]
  refine (keeps_idle (Compile.composed_of_writing (warnOf_writing _ block)) start).bind fun _ _ => ?_
  refine (keeps_idle (Compile.composed_of_writing (context_writing _ block)) start).bind
    fun context _ => ?_
  have placed (code : String) (shown : ShowsPiece (TextStyle.argument entry) code) :
      ShowsPiece (TextStyle.argument entry)
        (place node.layout block (if block.isClipped then Scroll.vertical code else code)).1 := by
    refine place_shows survives _ _ ?_
    split
    · exact survives.between shown _ _
    · exact shown
  dsimp only
  refine Keeps.ite_bind (fun isFlat => ?_) (fun isRich => ?_) fun code shown =>
    Keeps.pure (placed code shown)
  · obtain ⟨style, listed, member⟩ := among context
    rw [styles, if_pos isFlat] at listed
    rw [List.mem_singleton.mp listed] at member
    exact flat_shows member
  · exact rich_shows (Bool.eq_false_iff.mpr isRich) (among context)

end

end Label

end DesignExport
