import DesignExport.Export.Run
import DesignExport.Number.Exact
import DesignExport.Proofs.Dart.Literals
import DesignExport.Proofs.Expression.Styles
import DesignExport.Proofs.Text.Search
set_option autoImplicit false

/-! The spans of a rich text. The code of the text is that of a span for the style of the
first run, around a span for each run with characters. The runs in front of the last one
take characters from the start of the text as long as there are some. The last run takes
the rest, unless it is said to have no characters. -/

namespace DesignExport.Label

open Compile (Keeps keeps_idle)

variable {α : Type}

/-! ### The characters of runs -/

def total : List (TextRun α) → Nat
  | [] => 0
  | run :: rest => run.length + total rest

/-- The characters of runs behind which another run stands. -/
def pieces : List (TextRun α) → List Char → List (TextRun α × List Char)
  | [], _ => []
  | run :: rest, chars =>
      if run.length = 0 then pieces rest chars
      else (run, chars.take run.length) :: pieces rest (chars.drop run.length)

theorem flatMap_pieces (runs : List (TextRun α)) (chars : List Char) :
    (pieces runs chars).flatMap Prod.snd = chars.take (total runs) := by
  induction runs generalizing chars with
  | nil => rfl
  | cons run rest ih =>
      by_cases bare : run.length = 0
      · rw [pieces, if_pos bare, ih]
        simp [total, bare]
      · rw [pieces, if_neg bare, List.flatMap_cons, ih]
        simp [total, List.take_add]

theorem slices_concat (earlier : List (TextRun α)) (last : TextRun α) (chars : List Char) :
    slices (earlier ++ [last]) chars =
      pieces earlier chars ++
        if last.length = 0 then [] else [(last, chars.drop (total earlier))] := by
  induction earlier generalizing chars with
  | nil => rfl
  | cons run rest ih =>
      rw [List.cons_append, slices, pieces]
      by_cases bare : run.length = 0
      · rw [if_pos bare, if_pos bare, ih]
        simp [total, bare]
      · have more : (rest ++ [last]).isEmpty = false := by simp
        rw [if_neg bare, if_neg bare, more, ih]
        simp [total]

/-- Characters that no span has. -/
def unspanned (earlier : List (TextRun α)) (last : TextRun α) (chars : List Char) : List Char :=
  if last.length = 0 then chars.drop (total earlier) else []

/-- The slices and what is left out behind them make up the text. -/
theorem flatMap_slices (earlier : List (TextRun α)) (last : TextRun α) (chars : List Char) :
    (slices (earlier ++ [last]) chars).flatMap Prod.snd ++ unspanned earlier last chars = chars := by
  rw [slices_concat, List.flatMap_append, flatMap_pieces, unspanned]
  by_cases bare : last.length = 0
  · simp [bare]
  · simp [bare]

/-! ### The code of a rich text -/

theorem isFlat_eq_false {node : NodeInfo α} {block : TextBlock α} (several : 2 ≤ block.runs.length)
    (noText : node.params.text = none) (noFill : node.params.fill = none) :
    isFlat node block = false := by
  have more : ¬ block.runs.length ≤ 1 := by omega
  simp [isFlat, noText, noFill, more]

variable [Scalar α]

structure Span where
  text : List Char
  style : TextStyle

def Span.write (inner : Span) : String :=
  span inner.text inner.style

def baselineOf (block : TextBlock α) (context : TextContext α) (settings : Settings) : TextStyle :=
  TextStyle.ofRun (block.runs.headD TextRun.usual) context settings .baseline

def spanOf (baseline : TextStyle) (context : TextContext α) (settings : Settings)
    (slice : TextRun α × List Char) : Span :=
  ⟨slice.2, (TextStyle.ofRun slice.1 context settings .run).delta baseline⟩

/-- The spans inside of the span for the first run. -/
def innerSpans (block : TextBlock α) (context : TextContext α) (settings : Settings) : List Span :=
  (slices block.runs block.text.toList).map
    (spanOf (baselineOf block context settings) context settings)

def richCode (block : TextBlock α) (context : TextContext α) (settings : Settings) : String :=
  "Text.rich(TextSpan(" ++ styleArgument (baselineOf block context settings) ++ "children: [" ++
    String.join ((innerSpans block context settings).map Span.write) ++ "], ), " ++
    lastArguments block ++ ")"

section

variable {start : Context α}

theorem spans_keeps_idle (baseline : TextStyle) (context : TextContext α)
    (slices : List (TextRun α × List Char)) :
    Keeps (fun context => context.idle = start.idle) (spans baseline context slices)
      (· = String.join ((slices.map (spanOf baseline context start.settings)).map Span.write)) := by
  induction slices with
  | nil => exact Keeps.pure rfl
  | cons slice rest ih =>
      obtain ⟨run, text⟩ := slice
      rw [spans]
      refine (keeps_idle (Compile.composed_of_writing (.useFont trivial)) start).bind fun _ _ => ?_
      apply (Compile.settings_keeps_idle start).bind
      intro settings same
      apply ih.bind
      intro others written
      apply Keeps.pure
      rw [same, written, List.map_cons, List.map_cons, String.join_cons]
      rfl

theorem rich_keeps_idle (block : TextBlock α) (context : TextContext α) :
    Keeps (fun context => context.idle = start.idle) (rich block context)
      (· = richCode block context start.settings) := by
  apply (Compile.settings_keeps_idle start).bind
  intro settings same
  apply (spans_keeps_idle _ context _).bind
  intro spans written
  apply Keeps.pure
  rw [same] at written ⊢
  rw [written]
  rfl

/-- What a text reads of the context that it is written in. -/
theorem context_keeps_idle (node : NodeInfo α) (block : TextBlock α) :
    Keeps (fun context => context.idle = start.idle) (context node block)
      (· = ((context node block).run start).1) := by
  apply (Compile.inheritedOpacity_keeps_idle node.layer start).bind
  intro opacity same
  apply Keeps.pure
  rw [same]
  rfl

theorem write_keeps_rich {node : NodeInfo α} {block : TextBlock α}
    (label : node.layer.kind = .text block) (isRich : isFlat node block = false) :
    let code := richCode block ((context node block).run start).1 start.settings
    Keeps (fun context => context.idle = start.idle) (write node)
      (·.1 = (place node.layout block (if block.isClipped then Scroll.vertical code else code)).1) := by
  intro code
  unfold write
  rw [label]
  refine (keeps_idle (Compile.composed_of_writing (warnOf_writing _ block)) start).bind fun _ _ => ?_
  apply (context_keeps_idle node block).bind
  intro context same
  rw [isRich]
  apply (rich_keeps_idle block context).bind
  intro written known
  apply Keeps.pure
  rw [known, same]

end

theorem exists_place (layout : Layout α) (block : TextBlock α) (code : String) :
    ∃ before after, (place layout block code).1 = before ++ code ++ after := by
  have same : ∃ before after, code = before ++ code ++ after := ⟨"", "", by simp⟩
  have widened : ∃ before after, (widened layout block code).1 = before ++ code ++ after := by
    unfold widened
    split
    · exact same
    · split
      · exact same
      · split
        · exact same
        next width _ _ =>
          exact ⟨"SizedBox(width: " ++ Scalar.fixed width 0 ++ ", child: ", ", )", rfl⟩
  unfold place
  split
  · exact same
  · split
    · exact widened
    · exact same

/-! ### Reading the spans back -/

/-- The text of a span, read from its code. -/
def spelled? (code : String) : Option (List Char) :=
  (Text.afterStart? "TextSpan(text: ".toList code.toList).bind
    fun rest => (Dart.readLiteral? rest).map Prod.fst

theorem spelled?_write (inner : Span) : spelled? inner.write = some (Dart.kept inner.text) := by
  let literal := Dart.stringLiteral (String.ofList inner.text)
  have code : inner.write =
      "TextSpan(text: " ++ literal ++ ", " ++ styleArgument inner.style ++ "), " := rfl
  obtain ⟨rest, opened⟩ : ∃ rest, inner.write.toList =
      "TextSpan(text: ".toList ++ (literal.toList ++ rest) := by
    rw [code]
    simp only [String.toList_append, List.append_assoc]
    exact ⟨_, rfl⟩
  have read := Dart.readLiteral?_stringLiteral (String.ofList inner.text) rest
  rw [spelled?, opened, Text.afterStart?_append, Option.bind_some, read, Option.map_some,
    String.toList_ofList]

/-- The texts of spans one after the other. -/
def spelling? (spans : List Span) : Option (List Char) :=
  (spans.mapM fun inner => spelled? inner.write).map List.flatten

theorem spelling?_eq (spans : List Span) :
    spelling? spans = some (Dart.kept (spans.flatMap Span.text)) := by
  induction spans with
  | nil => rfl
  | cons inner rest ih =>
      rw [spelling?, Option.map_eq_some_iff] at ih ⊢
      obtain ⟨texts, read, joined⟩ := ih
      refine ⟨Dart.kept inner.text :: texts, ?_, ?_⟩
      · rw [List.mapM_cons, read, spelled?_write]
        rfl
      · rw [List.flatten_cons, joined, List.flatMap_cons, Dart.kept_append]

/-! ### The text of the spans -/

theorem exists_written_rich {node : NodeInfo α} {block : TextBlock α} (start : Context α)
    (label : node.layer.kind = .text block) (isRich : isFlat node block = false) :
    ∃ before after, ((write node).run start).1.1 =
      before ++ richCode block ((context node block).run start).1 start.settings ++ after := by
  let code := richCode block ((context node block).run start).1 start.settings
  have written := (write_keeps_rich label isRich start rfl).1
  obtain ⟨before, after, placed⟩ :=
    exists_place node.layout block (if block.isClipped then Scroll.vertical code else code)
  rw [written, placed]
  by_cases clipped : block.isClipped = true
  · have vertical : Scroll.vertical code =
        "SingleChildScrollView(primary: false, child: " ++ code ++ ", )" := rfl
    rw [if_pos clipped, vertical]
    refine ⟨before ++ "SingleChildScrollView(primary: false, child: ", ", )" ++ after, ?_⟩
    simp only [String.append_assoc, code]
  · rw [if_neg clipped]
    exact ⟨before, after, rfl⟩

theorem spelling?_innerSpans {block : TextBlock α} {earlier : List (TextRun α)}
    {last : TextRun α} (cut : block.runs = earlier ++ [last]) (context : TextContext α)
    (settings : Settings) :
    ∃ text, spelling? (innerSpans block context settings) = some text ∧
      text ++ Dart.kept (unspanned earlier last block.text.toList) =
        Dart.kept block.text.toList := by
  have joined : (innerSpans block context settings).flatMap Span.text =
      (slices (earlier ++ [last]) block.text.toList).flatMap Prod.snd := by
    rw [innerSpans, cut, List.flatMap_map]
    rfl
  rw [spelling?_eq, joined]
  refine ⟨_, rfl, ?_⟩
  rw [← Dart.kept_append, flatMap_slices]

theorem innerSpans_concat {block : TextBlock α} {earlier : List (TextRun α)} {last : TextRun α}
    (cut : block.runs = earlier ++ [last]) (context : TextContext α) (settings : Settings)
    (covers : last.length ≠ 0) :
    let write := spanOf (baselineOf block context settings) context settings
    innerSpans block context settings =
      (pieces earlier block.text.toList).map write ++
        [write (last, block.text.toList.drop (total earlier))] := by
  intro write
  rw [innerSpans, cut, slices_concat, if_neg covers, List.map_append]
  rfl

/-- The spans of a rich text have its text without the carriage returns if the last run has
characters. A last run that is said to have none gets no span, and the text that the runs
in front of it leave is lost. -/
theorem rich_keeps_text {node : NodeInfo α} {block : TextBlock α} {earlier : List (TextRun α)}
    {last : TextRun α} (start : Context α) (label : node.layer.kind = .text block)
    (cut : block.runs = earlier ++ [last]) (several : earlier ≠ [])
    (noText : node.params.text = none) (noFill : node.params.fill = none) :
    let context := ((context node block).run start).1
    let write := spanOf (baselineOf block context start.settings) context start.settings
    let rest := block.text.toList.drop (total earlier)
    (∃ before after, ((Label.write node).run start).1.1 =
        before ++ richCode block context start.settings ++ after) ∧
      (∃ text, spelling? (innerSpans block context start.settings) = some text ∧
        (text = Dart.kept block.text.toList ↔ last.length ≠ 0 ∨ ∀ char ∈ rest, char = '\r') ∧
        text ++ Dart.kept (unspanned earlier last block.text.toList) =
          Dart.kept block.text.toList) ∧
      (last.length ≠ 0 → innerSpans block context start.settings =
        (pieces earlier block.text.toList).map write ++ [write (last, rest)]) := by
  intro context write rest
  have two : 2 ≤ block.runs.length := by
    have more := List.length_pos_iff.mpr several
    rw [cut, List.length_append, List.length_singleton]
    omega
  refine ⟨exists_written_rich start label (isFlat_eq_false two noText noFill), ?_,
    innerSpans_concat cut context start.settings⟩
  obtain ⟨text, spelled, whole⟩ := spelling?_innerSpans cut context start.settings
  refine ⟨text, spelled, ?_, whole⟩
  rw [← whole, List.self_eq_append_right, unspanned]
  by_cases bare : last.length = 0
  · rw [if_pos bare, Dart.kept_eq_nil_iff]
    simp [bare, rest]
  · rw [if_neg bare]
    simp [bare, Dart.kept]

/-- Two letters in runs of different sizes, the first one of one character. -/
def lettersBlock (last : Nat) : TextBlock Rat :=
  let runs : List (TextRun Rat) :=
    [{ TextRun.usual with length := 1 }, { TextRun.usual with length := last, size := 20 }]
  { TextBlock.empty with text := "A\rB", runs := runs }

def lettersLayer (last : Nat) : LayerInfo Rat :=
  { LayerInfo.usual "letters" "Letters" (.text (lettersBlock last)) with hasDefaultName := true }

def lettersDocument (last : Nat) : Document Rat :=
  ⟨[], [⟨LayerInfo.usual "home" "Home" .artboard, [⟨lettersLayer last, []⟩]⟩], ⟨[], []⟩⟩

def lettersNode (last : Nat) : NodeInfo Rat :=
  ⟨lettersLayer last, .text, Layout.initial, [], .inline, {}⟩

def lettersStart (last : Nat) : Context Rat :=
  Context.start (Index.ofDocument (lettersDocument last)) {} .clipboard

def lettersSpans (last : Nat) : List Span :=
  innerSpans (lettersBlock last)
    ((context (lettersNode last) (lettersBlock last)).run (lettersStart last)).1 {}

/-- The last run may say that it has fewer characters than remain. -/
theorem rich_keeps_text_letters : spelling? (lettersSpans 1) = some ['A', 'B'] := by
  have label : (lettersNode 1).layer.kind = .text (lettersBlock 1) := rfl
  let first : TextRun Rat := { TextRun.usual with length := 1 }
  let second : TextRun Rat := { TextRun.usual with length := 1, size := 20 }
  have cut : (lettersBlock 1).runs = [first] ++ [second] := rfl
  obtain ⟨-, ⟨text, spelled, complete, -⟩, -⟩ :=
    rich_keeps_text (lettersStart 1) label cut (List.cons_ne_nil _ _) rfl rfl
  have whole := complete.mpr (Or.inl (by decide))
  rw [whole] at spelled
  exact spelled

/-- The second letter is not in the code. -/
theorem rich_drops_letter :
    spelling? (lettersSpans 0) = some ['A'] ∧
      Dart.kept (lettersBlock 0).text.toList = ['A', 'B'] ∧
      ((lettersDocument 0).copySelected {} "letters").toOption.map (·.code) =
        some ("Text.rich(TextSpan(style: TextStyle(fontFamily: 'Helvetica Neue', fontSize: 14, ), " ++
          "children: [TextSpan(text: 'A', ), ], ), softWrap: false, )") := by
  constructor
  · decide +kernel
  · constructor
    · decide +kernel
    · decide +kernel

end DesignExport.Label

/-! ### Inherited styles

The styles that the spans of a rich text end up with. A span inherits what it does not
state, and it can only add to what it inherits or replace it. The spans have the styles of
their runs, except where a run lacks a value that the first run has. -/

namespace DesignExport

variable {α : Type} [Scalar α]

namespace TextStyle

/-! ### Overlaying a style -/

/-- The value of a key for a span inside of another span. -/
def inherited (own outer : TextStyle) (key : StyleKey) : Option String :=
  (own.find? key).or (outer.find? key)

theorem isUnique_delta {style : TextStyle} (unique : style.IsUnique) (baseline : TextStyle) :
    (style.delta baseline).IsUnique := by
  intro key value other first second
  exact unique (mem_delta.mp first).1 (mem_delta.mp second).1

theorem find?_delta {style : TextStyle} (unique : style.IsUnique) (baseline : TextStyle)
    (key : StyleKey) :
    (style.delta baseline).find? key =
      (style.find? key).filter (fun value => baseline.find? key ≠ some value) := by
  apply Option.ext
  intro value
  rw [find?_eq_some_iff (isUnique_delta unique baseline), mem_delta,
    ← find?_eq_some_iff unique, Option.filter_eq_some_iff, decide_eq_true_iff]

/-- Over a baseline, the difference from it adds to the baseline and takes nothing away. -/
theorem inherited_delta {style : TextStyle} (unique : style.IsUnique) (baseline : TextStyle)
    (key : StyleKey) :
    inherited (style.delta baseline) baseline key = (style.find? key).or (baseline.find? key) := by
  rw [inherited, find?_delta unique]
  cases style.find? key with
  | none => rfl
  | some value =>
      by_cases shared : baseline.find? key = some value
      · simp [Option.filter_some, shared]
      · simp [Option.filter_some, shared]

theorem inherited_delta_eq_iff {style : TextStyle} (unique : style.IsUnique)
    (baseline : TextStyle) (key : StyleKey) :
    inherited (style.delta baseline) baseline key = style.find? key ↔
      ¬(style.find? key = none ∧ baseline.find? key ≠ none) := by
  rw [inherited_delta unique]
  cases style.find? key with
  | none => simp
  | some value => simp

/-! ### Styles of runs -/

/-- What a run cannot take back: the colour of the first run if it has none and the text has
none either, and the letter spacing of the first run if it has none. -/
def Clings (first run : TextRun α) (context : TextContext α) : StyleKey → Prop
  | .color => context.colorParam = none ∧ context.fill = none ∧ first.fill ≠ none ∧ run.fill = none
  | .letterSpacing => letterSpacing? first ≠ none ∧ letterSpacing? run = none
  | _ => False

theorem clings_iff (first run : TextRun α) (context : TextContext α) (settings : Settings)
    {key : StyleKey} (included : StyleScope.run.includes key = true) :
    Clings first run context key ↔
      (ofRun run context settings .run).find? key = none ∧
        (ofRun first context settings .baseline).find? key ≠ none := by
  rw [find?_ofRun, find?_ofRun, if_pos included]
  cases key with
  | fontFamily => simp [Clings, value?]
  | fontSize => simp [Clings, value?]
  | fontStyle => simp [Clings, StyleScope.includes]
  | fontWeight => simp [Clings, StyleScope.includes]
  | decoration => simp [Clings, StyleScope.includes]
  | height => cases included
  | shadows => cases included
  | letterSpacing => simp [Clings, StyleScope.includes, value?, and_comm]
  | color =>
      cases param : context.colorParam with
      | some name => simp [Clings, StyleScope.includes, value?, param]
      | none =>
          cases fill : context.fill with
          | some color => simp [Clings, StyleScope.includes, value?, param, fill]
          | none => simp [Clings, StyleScope.includes, value?, param, fill, and_comm]

end TextStyle

namespace Label

open TextStyle

/-- Every span of a rich text has the values of its run, and no others, but for those of the
first run that the run cannot take back. -/
theorem rich_inherits (block : TextBlock α) (context : TextContext α) (start : Context α) :
    let settings := start.settings
    let first := block.runs.headD TextRun.usual
    let baseline := baselineOf block context settings
    ((rich block context).run start).1 = richCode block context settings ∧
      ∀ slice ∈ slices block.runs block.text.toList, ∀ key,
        StyleScope.run.includes key = true →
          let delta := (spanOf baseline context settings slice).style
          let own := (ofRun slice.1 context settings .run).find? key
          (inherited delta baseline key = own ↔ ¬Clings first slice.1 context key) ∧
            (Clings first slice.1 context key →
              inherited delta baseline key = value? first context settings key ∧ own = none) := by
  intro settings first baseline
  have based : baseline = ofRun first context settings .baseline := rfl
  clear_value baseline
  constructor
  · exact (rich_keeps_idle block context start rfl).1
  · intro slice _ key included delta own
    have differs : delta = (ofRun slice.1 context settings .run).delta baseline := rfl
    have lacking := clings_iff first slice.1 context settings included
    rw [← based] at lacking
    have unique := isUnique_ofRun slice.1 context settings .run
    rw [differs, lacking]
    constructor
    · exact inherited_delta_eq_iff unique baseline key
    · intro ⟨lacks, has⟩
      refine ⟨?_, lacks⟩
      have known := find?_ofRun first context settings .baseline key
      rw [← based] at known
      have covered : StyleScope.baseline.includes key = true := by
        by_contra other
        exact has (known.trans (if_neg other))
      rw [inherited_delta unique, lacks, Option.none_or, known, if_pos covered]

/-- A larger second run without a style of its own otherwise. -/
theorem rich_inherits_letters :
    ∀ key, StyleScope.run.includes key = true →
      let context := ((context (lettersNode 1) (lettersBlock 1)).run (lettersStart 1)).1
      let baseline := baselineOf (lettersBlock 1) context {}
      let second : TextRun Rat := { TextRun.usual with length := 1, size := 20 }
      inherited (spanOf baseline context {} (second, ['\r', 'B'])).style baseline key =
        (ofRun second context {} .run).find? key := by
  intro key included context baseline second
  obtain ⟨-, spans⟩ := rich_inherits (lettersBlock 1) context (lettersStart 1)
  have letters : (lettersBlock 1).text.toList = ['A', '\r', 'B'] := by decide +kernel
  have listed : (second, ['\r', 'B']) ∈ slices (lettersBlock 1).runs (lettersBlock 1).text.toList := by
    rw [letters]
    exact List.mem_cons_of_mem _ List.mem_cons_self
  have holds (clings : ¬Clings _ second context key) := (spans _ listed key included).1.mpr clings
  apply holds
  cases key with
  | color =>
      intro clings
      exact clings.2.2.1 rfl
  | letterSpacing =>
      intro clings
      exact clings.1 (by decide +kernel)
  | _ =>
      intro clings
      exact clings

/-- Two letters, the first one in red and spaced. -/
def spacedBlock : TextBlock Rat :=
  let runs : List (TextRun Rat) :=
    [{ TextRun.usual with length := 1, fill := some ⟨255, 0, 0, 255⟩, charSpacing := 100 },
      { TextRun.usual with length := 1 }]
  { TextBlock.empty with text := "AB", runs := runs }

def spacedDocument : Document Rat :=
  ⟨[], [⟨LayerInfo.usual "home" "Home" .artboard,
    [⟨{ LayerInfo.usual "spaced" "Spaced" (.text spacedBlock) with hasDefaultName := true }, []⟩]⟩],
    ⟨[], []⟩⟩

/-- The second letter is in red and spaced too. -/
theorem rich_inherits_spacing :
    let context : TextContext Rat := ⟨none, 1, 0, none, none⟩
    let baseline := baselineOf spacedBlock context {}
    let second : TextRun Rat := { TextRun.usual with length := 1 }
    let delta := (spanOf baseline context {} (second, ['B'])).style
    let own := ofRun second context {} .run
    (second, ['B']) ∈ slices spacedBlock.runs spacedBlock.text.toList ∧
      inherited delta baseline .letterSpacing = some "1.4" ∧ own.find? .letterSpacing = none ∧
      inherited delta baseline .color = some "const Color(0xffff0000)" ∧ own.find? .color = none ∧
      (spacedDocument.copySelected {} "spaced").toOption.map (·.code) =
        some ("Text.rich(TextSpan(style: TextStyle(fontFamily: 'Helvetica Neue', fontSize: 14, " ++
          "color: const Color(0xffff0000), letterSpacing: 1.4, ), children: [" ++
          "TextSpan(text: 'A', ), TextSpan(text: 'B', ), ], ), softWrap: false, )") := by
  intro context baseline second delta own
  have letters : spacedBlock.text.toList = ['A', 'B'] := by decide +kernel
  have listed : (second, ['B']) ∈ slices spacedBlock.runs spacedBlock.text.toList := by
    rw [letters]
    exact List.mem_cons_of_mem _ List.mem_cons_self
  refine ⟨listed, ?_, ?_, ?_, ?_, ?_⟩
  all_goals decide +kernel

end Label

end DesignExport
