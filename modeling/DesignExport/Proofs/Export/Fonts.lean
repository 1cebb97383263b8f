import DesignExport.Number.Exact
import DesignExport.Proofs.Export.Bodies
import DesignExport.Proofs.Export.Isolation
import DesignExport.Proofs.Export.Snippets
import DesignExport.Proofs.Expression.Fonts
import DesignExport.Proofs.Text.Search
set_option autoImplicit false

/-! The fonts in a report. They are those of the texts with characters. Code also states the
font of a rich text whose first run has no characters, and those of shared text styles. -/

namespace DesignExport

open Compile (Shows)
open HostCall (writes)

variable {α σ : Type} [Scalar α]

/-! ### Shared text styles -/

namespace TextStyleClass

/-- The styles that members are declared for, given the names taken. -/
def declared (taken : List String) : List (TextStyleAsset α) → List (String × TextRun α)
  | [] => []
  | asset :: rest =>
      match AssetNaming.member? asset.name with
      | none => declared taken rest
      | some name =>
          if taken.contains name then declared taken rest
          else (name, asset.style) :: declared (name :: taken) rest

theorem members_eq (settings : Settings) (assets : List (TextStyleAsset α)) :
    ∀ taken : List String, (members settings taken assets).1 =
      (declared taken assets).map fun entry => member entry.1 entry.2 settings := by
  induction assets with
  | nil => exact fun _ => rfl
  | cons asset rest ih =>
      intro taken
      rw [members, declared]
      cases AssetNaming.member? asset.name with
      | none => exact ih taken
      | some name =>
          dsimp only
          split
          · exact ih taken
          · exact congrArg _ (ih _)

def shared (assets : Assets α) (settings : Settings) : List (TextRun α) :=
  if !settings.exportTextStyles || assets.textStyles.isEmpty then []
  else (declared [] assets.textStyles).map Prod.snd

theorem file?_shows {assets : Assets α} {settings : Settings} {run : TextRun α}
    (among : run ∈ shared assets settings) {entry : StyleKey × String}
    (states : entry ∈ TextStyle.ofRun run context settings .full) :
    ∃ file, (file? assets settings).1 = some file ∧
      ShowsPiece (TextStyle.argument entry) file.source := by
  have survives := survivesEdits_showsPiece (TextStyle.argument entry)
  unfold shared at among
  unfold file?
  split at among
  case isTrue none => exact absurd among List.not_mem_nil
  case isFalse exported =>
    obtain ⟨⟨name, style⟩, known, same⟩ := List.mem_map.mp among
    change style = run at same
    subst same
    rw [if_neg exported]
    refine ⟨_, rfl, ?_⟩
    have shown : ShowsPiece (TextStyle.argument entry) (member name style settings) :=
      survives.between (TextStyle.write_shows states) _ _
    have listed : member name style settings ∈ (members settings [] assets.textStyles).1 := by
      rw [members_eq]
      exact List.mem_map.mpr ⟨(name, style), known, rfl⟩
    obtain ⟨before, after, same⟩ := SourceFile.has_of_mem
      (AssetNaming.className settings.textStylesClassName usualName)
      (List.mem_append_left _ (List.mem_append_right _ listed))
    rw [same]
    exact survives.between shown _ _

end TextStyleClass

/-! ### What is written -/

/-- What an operation writes: the parts of trees that it writes, those whose code is in what
it hands over, and shared text styles. -/
structure Emission (α : Type) where
  written : Node α → Prop
  kept : Node α → Prop
  shared : List (TextRun α)
  written_of_kept : ∀ part, kept part → written part

namespace Emission

variable (emission : Emission α) (settings : Settings)

inductive Has : TextStyle → Prop where
  | text {part : Node α} {block : TextBlock α} {context : TextContext α} {style : TextStyle}
      (kept : emission.kept part) (isDrawn : part.isDrawn = true) (text : part.kind = .text)
      (label : part.layer.kind = .text block)
      (among : style ∈ Label.styles part.toNodeInfo block context settings) : Has style
  | shared {run : TextRun α} (among : run ∈ emission.shared) :
      Has (TextStyle.ofRun run TextStyleClass.context settings .full)

/-- A text is written that has characters in a font. -/
def Records (family : String) : Prop :=
  family ≠ "" ∧ ∃ part run, emission.written part ∧ part.isDrawn = true ∧
    part.UsesRun run ∧ settings.font run.family = family

def States (family : String) : Prop :=
  family ≠ "" ∧
    ((∃ part run, emission.kept part ∧ part.isDrawn = true ∧
        part.StatesRun run ∧ settings.font run.family = family) ∨
      ∃ run ∈ emission.shared, settings.font run.family = family)

/-- The code states a font for spans without characters or in a shared text style. -/
def Omits (family : String) : Prop :=
  family ≠ "" ∧
    ((∃ part run, emission.kept part ∧ part.isDrawn = true ∧
        part.SkipsRun run ∧ settings.font run.family = family) ∨
      ∃ run ∈ emission.shared, settings.font run.family = family)

variable {emission settings}

/-- A style in the code states no font but those that the code states. -/
theorem Has.font {style : TextStyle} (has : emission.Has settings style) {value : String}
    (entry : (.fontFamily, value) ∈ style) :
    ∃ family, value = Dart.stringLiteral family ∧
      (family = "" ∨ emission.States settings family) := by
  cases has with
  | @text part block _ _ kept isDrawn text label among =>
      obtain ⟨run, stated, same⟩ := Label.eq_of_font_mem_styles _ _ among entry
      refine ⟨_, same, (em _).imp_right fun present => ⟨present, Or.inl ?_⟩⟩
      exact ⟨part, run, kept, isDrawn, ⟨text, block, label, stated⟩, rfl⟩
  | @shared run among =>
      refine ⟨_, (TextStyle.font_mem_ofRun_iff ..).mp entry, ?_⟩
      exact (em _).imp_right fun present => ⟨present, Or.inr ⟨run, among, rfl⟩⟩

theorem states_of_omits {family : String} (omitted : emission.Omits settings family) :
    emission.States settings family :=
  ⟨omitted.1, omitted.2.imp_left fun ⟨part, run, kept, isDrawn, skips, same⟩ =>
    ⟨part, run, kept, isDrawn, NodeInfo.statesRun_iff.mpr (Or.inr skips), same⟩⟩

theorem records_or_omits_of_states {family : String} (states : emission.States settings family) :
    emission.Records settings family ∨ emission.Omits settings family := by
  obtain ⟨present, ⟨part, run, kept, isDrawn, stated, same⟩ | shared⟩ := states
  · rcases NodeInfo.statesRun_iff.mp stated with uses | skips
    · exact Or.inl ⟨present, part, run, emission.written_of_kept part kept, isDrawn, uses, same⟩
    · exact Or.inr ⟨present, Or.inl ⟨part, run, kept, isDrawn, skips, same⟩⟩
  · exact Or.inr ⟨present, Or.inr shared⟩

/-- How the fonts of a report relate to the code. They are the fonts of the texts with
characters. Every font that is stated stands in the code, the styles there state no others,
and all of them are listed exactly if those are that are stated for other reasons. -/
structure Accounts (emission : Emission α) (settings : Settings) (fonts : List String)
    (shows : String → Prop) : Prop where
  listed : ∀ family, family ∈ fonts ↔ emission.Records settings family
  stands : ∀ family, emission.States settings family → shows (TextStyle.fontArgument family)
  only : ∀ style, emission.Has settings style → ∀ value, (.fontFamily, value) ∈ style →
    ∃ family, value = Dart.stringLiteral family ∧ (family = "" ∨ emission.States settings family)
  complete_iff : (∀ family, emission.States settings family → family ∈ fonts) ↔
    ∀ family, emission.Omits settings family → emission.Records settings family

variable {fonts : List String} {shows : String → Prop}

theorem Accounts.of_listed
    (listed : ∀ family, family ∈ fonts ↔ emission.Records settings family)
    (stands : ∀ family, emission.States settings family → shows (TextStyle.fontArgument family)) :
    emission.Accounts settings fonts shows where
  listed := listed
  stands := stands
  only := fun _ has _ entry => has.font entry
  complete_iff := by
    constructor
    · exact fun complete family omitted =>
        (listed family).mp (complete family (states_of_omits omitted))
    · intro recorded family states
      rcases records_or_omits_of_states states with records | omitted
      · exact (listed family).mpr records
      · exact (listed family).mpr (recorded family omitted)

/-- Widgets are written as a whole, those in methods as well. -/
def ofWidgets (idle : Context α) (widgets : List (Layer α)) (shared : List (TextRun α)) :
    Emission α :=
  let within (part : Node α) : Prop :=
    ∃ widget ∈ widgets, ((widgetTree widget).run idle).1.Reaches part
  ⟨within, within, shared, fun _ => id⟩

/-- The methods of a piece of code are left behind. -/
def ofSnippet (tree : Node α) : Emission α where
  written := tree.Reaches
  kept part := tree.InPlace part ∧ part.mode ≠ .method
  shared := []
  written_of_kept _ kept := kept.1.reaches

theorem records_iff {tree : Node α} {settings : Settings} {family : String} :
    (ofSnippet tree).Records settings family ↔
      family ≠ "" ∧ ∃ run, tree.Records run ∧ settings.font run.family = family := by
  constructor
  · rintro ⟨present, part, run, reaches, isDrawn, uses, same⟩
    exact ⟨present, run, ⟨part, reaches, isDrawn, uses⟩, same⟩
  · rintro ⟨present, run, ⟨part, reaches, isDrawn, uses⟩, same⟩
    exact ⟨present, part, run, reaches, isDrawn, uses, same⟩

end Emission

/-! ### Pieces of code -/

theorem snippetTree_fonts {layer : Layer α} {start ready : Context α} {tree : Node α}
    (built : (snippetTree layer).run start = (some tree, ready)) : ready.fonts = start.fonts := by
  let begun := ((snippetWidget layer >>= Compile.beginWidget).run start).2
  have kept : ((snippetTree layer).run start).2.fonts = begun.fonts :=
    (Node.mergedCopy?_building layer).fonts_eq begun
  rw [built] at kept
  exact kept

theorem Node.InPlace.shows_font {tree part : Node α} {start ready : Context α} {run : TextRun α}
    (inPlace : tree.InPlace part) (notMethod : part.mode ≠ .method)
    (isDrawn : part.isDrawn = true) (states : part.StatesRun run)
    (same : ready.idle = start.idle) :
    ShowsPiece (TextStyle.fontArgument (start.settings.font run.family))
      (tree.write.run ready).1.1 := by
  have own (edit : Layout α → Layout α) :
      Shows start (ShowsPiece (TextStyle.fontArgument (start.settings.font run.family)))
        (part.writeWith edit) :=
    (writeWith_tells_font isDrawn states (Compile.Lasts.always False)
      (fun isMethod => absurd isMethod notMethod) edit).shown
  exact (inPlace.writeWith_shows (survivesEdits_showsPiece _) (fun _ shown => shown.1) own id
    ready same).1

theorem Document.copySelected_accounts {document : Document α} {settings : Settings}
    {guid : String} {snippet : Snippet}
    (copied : document.copySelected settings guid = .ok snippet) :
    let start := Context.start (Index.ofDocument document) settings .clipboard
    ∃ layer tree ready, document.find? guid = some layer ∧
      (snippetTree layer).run start = (some tree, ready) ∧
      (Emission.ofSnippet tree).Accounts settings snippet.report.fonts
        (ShowsPiece · snippet.code) := by
  intro start
  obtain ⟨layer, context, found, compiled, fonts⟩ := copySelected_eq_ok copied
  obtain ⟨tree, ready, built, code, after⟩ := compileSnippet_eq_ok compiled
  have isReady := snippetTree_isReady built
  have kept : ready.settings = start.settings := Context.settings_eq_of_idle_eq isReady.idle_eq
  have noFonts : ready.fonts = [] := snippetTree_fonts built
  refine ⟨layer, tree, ready, found, built, .of_listed (fun family => ?_) fun family states => ?_⟩
  · have written : snippet.report.fonts = (tree.write.run ready).2.fonts := by rw [fonts, after]
    rw [written, Node.mem_fonts_write noFonts, kept]
    exact Emission.records_iff.symm
  · obtain ⟨-, ⟨part, run, kept, isDrawn, stated, same⟩ | ⟨run, shared, -⟩⟩ := states
    · have family : start.settings.font run.family = family := same
      rw [← family, code]
      exact kept.1.shows_font kept.2 isDrawn stated isReady.idle_eq
    · exact absurd shared List.not_mem_nil

/-! ### Files -/

theorem widgetTree_fonts {layer : Layer α} {start ready : Context α} {tree : Node α}
    (built : (widgetTree layer).run start = (tree, ready)) : ready.fonts = start.fonts := by
  let begun := ((widgetClass layer.toLayerInfo >>= Compile.beginWidget).run start).2
  have building : Compile.Building (fun _ => True) True (Node.buildRoot layer) :=
    Node.buildRoot_building layer fun _ _ => trivial
  have kept : ((widgetTree layer).run start).2.fonts = begun.fonts := building.fonts_eq begun
  rw [built] at kept
  exact kept

theorem mem_fonts_compileWidget {widget : Layer α} {start : Context α} (none : start.fonts = [])
    {family : String} : family ∈ ((compileWidget widget).run start).2.fonts ↔
      family ≠ "" ∧ ∃ run, ((widgetTree widget).run start).1.Records run ∧
        start.settings.font run.family = family := by
  obtain ⟨tree, ready, built⟩ : ∃ tree ready, (widgetTree widget).run start = (tree, ready) :=
    ⟨_, _, rfl⟩
  have kept : ready.settings = start.settings :=
    Context.settings_eq_of_idle_eq (widgetTree_isReady built).idle_eq
  rw [(compileWidget_run_records built).2, built, ← kept]
  exact Node.mem_fonts_write ((widgetTree_fonts built).trans none)

theorem Node.Reaches.shows_font {widget : Layer α} {start : Context α} {part : Node α}
    {run : TextRun α} (reached : ((widgetTree widget).run start).1.Reaches part)
    (isDrawn : part.isDrawn = true) (states : part.StatesRun run) :
    ∃ file, ((compileWidget widget).run start).1 = .ok file ∧
      (ShowsPiece (TextStyle.fontArgument (start.settings.font run.family)) file.source ∨
        ((compileWidget widget).run start.bare).2.WarnsOfMethod) := by
  refine ⟨_, compileWidget_run_ok widget start, ?_⟩
  refine (reached.showsInCode fun idle _ lasts files edit => ?_).imp_left (·.source _ _)
  rw [← Context.settings_eq_of_idle_eq idle] at files ⊢
  exact writeWith_tells_font isDrawn states lasts (fun _ => files) edit

theorem mem_widgetFonts (idle : Context α) {family : String} (widgets : List (Layer α)) :
    ∀ fonts : List String, family ∈ widgetFonts idle widgets fonts ↔
      family ∈ fonts ∨ ∃ widget ∈ widgets, family ∈ ((compileWidget widget).run idle).2.fonts := by
  induction widgets with
  | nil =>
      intro fonts
      rw [widgetFonts, or_iff_left]
      rintro ⟨_, absent, -⟩
      exact absurd absent List.not_mem_nil
  | cons widget rest ih =>
      intro fonts
      rw [widgetFonts, ih, mem_addAllOnce, List.exists_mem_cons_iff, or_assoc, or_left_comm]

/-- A piece of code is in a file that a host is asked to write, unless a build method of some
widget took the place of another one. -/
def ShownInFiles (idle : Context α) (widgets : List (Layer α)) (calls : List (HostCall α))
    (piece : String) : Prop :=
  (∃ name text, HostCall.write name text ∈ calls ∧ ShowsPiece piece text) ∨
    ∃ widget ∈ widgets, ((compileWidget widget).run idle).2.WarnsOfMethod

namespace Document

variable (document : Document α) (settings : Settings)

/-- Where the files of widgets and of shared styles are written, the fonts of the widgets
account for what is written. -/
theorem widgetFonts_accounts {widgets : List (Layer α)} {calls : List (HostCall α)}
    (ofWidgets : ∀ widget ∈ widgets,
      HostCall.ofResult ((compileWidget widget).run (document.exportIdle settings)).1 ⊆ calls)
    (ofStyles : HostCall.ofAsset (TextStyleClass.file? document.assets settings).1 ⊆ calls) :
    (Emission.ofWidgets (document.exportIdle settings) widgets
        (TextStyleClass.shared document.assets settings)).Accounts settings
      (widgetFonts (document.exportIdle settings) widgets [])
      (ShownInFiles (document.exportIdle settings) widgets calls) := by
  refine .of_listed (fun family => ?_) fun family states => ?_
  · rw [mem_widgetFonts, or_iff_right List.not_mem_nil]
    constructor
    · rintro ⟨widget, among, listed⟩
      obtain ⟨present, run, ⟨part, reaches, isDrawn, uses⟩, same⟩ :=
        (mem_fonts_compileWidget rfl).mp listed
      exact ⟨present, part, run, ⟨widget, among, reaches⟩, isDrawn, uses, same⟩
    · rintro ⟨present, part, run, ⟨widget, among, reaches⟩, isDrawn, uses, same⟩
      exact ⟨widget, among, (mem_fonts_compileWidget rfl).mpr
        ⟨present, run, ⟨part, reaches, isDrawn, uses⟩, same⟩⟩
  -- A font that a text states stands in the file of its widget, one of a shared style in the
  -- file with the styles.
  · obtain ⟨-, ⟨part, run, ⟨widget, among, reaches⟩, isDrawn, stated, same⟩ |
      ⟨run, shared, same⟩⟩ := states
    · obtain ⟨file, compiled, shown | warned⟩ := reaches.shows_font isDrawn stated
      · have sameFamily : (document.exportIdle settings).settings.font run.family = family := same
        have written := ofWidgets widget among
        rw [compiled] at written
        rw [sameFamily] at shown
        exact Or.inl ⟨file.fileName, file.source, written List.mem_cons_self, shown⟩
      · exact Or.inr ⟨widget, among, warned⟩
    · obtain ⟨file, known, shown⟩ := TextStyleClass.file?_shows shared
        ((TextStyle.font_mem_ofRun_iff ..).mpr rfl)
      rw [known] at ofStyles
      rw [← same]
      exact Or.inl ⟨file.fileName, file.source, ofStyles List.mem_cons_self, shown⟩

theorem exportSelected_eq_ok {host : Host (StateM σ) α} {state : σ} {guid : String} {report : Report}
    (selected : ((document.exportSelected settings host guid).run state).1 = .ok report) :
    ∃ layer widget, document.find? guid = some layer ∧
      (Index.ofDocument document).widgetRootOf? layer = some widget ∧
      ((document.exportWidget settings host widget).run state).1 = report ∧
      ((document.exportSelected settings host guid).run state).2 =
        ((document.exportWidget settings host widget).run state).2 := by
  unfold exportSelected at selected ⊢
  cases found : document.find? guid with
  | none =>
      rw [found] at selected
      cases selected
  | some layer =>
      rw [found] at selected
      dsimp only at selected ⊢
      cases enclosing : (Index.ofDocument document).widgetRootOf? layer with
      | none =>
          rw [enclosing] at selected
          cases selected
      | some widget =>
          rw [enclosing] at selected
          exact ⟨layer, widget, rfl, enclosing, Except.ok.inj selected, rfl⟩

/-- A report that is complete lists every font that the code states. The fonts that are listed
are those of the texts with characters. A font is missing that stands in the code only for the
first run of a rich text, if that has no characters, or only in a shared text style. -/
theorem reports_fonts (host : Host (StateM σ) α) (state : σ) (guid : String) :
    let idle := document.exportIdle settings
    let shared := TextStyleClass.shared document.assets settings
    let exporting := (document.exportAll settings host.watched).run ⟨state, []⟩
    let selecting := (document.exportSelected settings host.watched guid).run ⟨state, []⟩
    let widgets := exportedWidgets (Index.ofDocument document)
    (Emission.ofWidgets idle widgets shared).Accounts settings exporting.1.fonts
        (ShownInFiles idle widgets exporting.2.calls) ∧
      (∀ report, selecting.1 = .ok report → ∃ layer widget,
        document.find? guid = some layer ∧
          (Index.ofDocument document).widgetRootOf? layer = some widget ∧
          (Emission.ofWidgets idle [widget] shared).Accounts settings report.fonts
            (ShownInFiles idle [widget] selecting.2.calls)) ∧
      ∀ snippet, document.copySelected settings guid = .ok snippet → ∃ layer tree ready,
        document.find? guid = some layer ∧
          (snippetTree layer).run (Context.start (Index.ofDocument document) settings .clipboard) =
            (some tree, ready) ∧
          (Emission.ofSnippet tree).Accounts settings snippet.report.fonts
            (ShowsPiece · snippet.code) := by
  intro idle shared exporting selecting widgets
  refine ⟨?_, fun report selected => ?_, fun snippet copied => copySelected_accounts copied⟩
  · obtain ⟨calls, fonts⟩ := exportAll_calls document settings host state
    rw [fonts, calls]
    refine widgetFonts_accounts document settings (fun widget among call made => ?_) fun call made => ?_
    · refine List.mem_append_left _ (List.mem_flatMap.mpr ⟨widget, among, ?_⟩)
      exact List.mem_append_left _ made
    · exact List.mem_append_right _ (List.mem_append_right _ made)
  · obtain ⟨layer, widget, found, enclosing, same, after⟩ :=
      exportSelected_eq_ok document settings selected
    obtain ⟨calls, fonts⟩ := exportWidget_calls document settings host state widget
    rw [same] at fonts
    refine ⟨layer, widget, found, enclosing, ?_⟩
    rw [fonts, after, calls]
    refine widgetFonts_accounts document settings (fun only among call made => ?_) fun call made => ?_
    · rw [List.mem_singleton.mp among] at made
      exact List.mem_append_left _ made
    · exact List.mem_append_right _ (List.mem_append_left _ (List.mem_append_right _ made))

/-- A page with a title in two runs, the first one without characters, and a shared style. -/
def titledDocument : Document Rat :=
  let runs : List (TextRun Rat) :=
    [{ TextRun.usual with family := "Lora" }, { TextRun.usual with length := 2, family := "Roboto" }]
  let title : LayerInfo Rat :=
    { LayerInfo.usual "title" "Title" (.text { TextBlock.empty with text := "Hi", runs := runs }) with
      hasDefaultName := true }
  ⟨[], [⟨{ LayerInfo.usual "home" "Home" .artboard with hasDefaultName := true }, [⟨title, []⟩]⟩],
    ⟨[], [⟨some "Body", { TextRun.usual with family := "Inter" }⟩]⟩⟩

theorem exists_ok_of_map_toOption {ε β γ : Type} {result : Except ε β} {reading : β → γ} {value : γ}
    (known : result.toOption.map reading = some value) :
    ∃ found, result = .ok found ∧ reading found = value := by
  cases result with
  | error fault => cases known
  | ok found => exact ⟨found, rfl, Option.some.inj known⟩

theorem reports_fonts_titledDocument :
    ∃ (report : Report) (snippet : Snippet) (tree : Node Rat),
      ((titledDocument.exportSelected {} obligingHost.watched "title").run ⟨(), []⟩).1 = .ok report ∧
        titledDocument.copySelected {} "title" = .ok snippet ∧
        report.fonts = ["Roboto"] ∧ snippet.report.fonts = ["Roboto"] ∧
        (Emission.ofSnippet tree).Accounts {} snippet.report.fonts (ShowsPiece · snippet.code) := by
  have selected : ((titledDocument.exportSelected {} obligingHost.watched "title").run
      ⟨(), []⟩).1.toOption.map (·.fonts) = some ["Roboto"] := by decide +kernel
  have copied : (titledDocument.copySelected {} "title").toOption.map (·.report.fonts) =
      some ["Roboto"] := by decide +kernel
  obtain ⟨report, selecting, reported⟩ := exists_ok_of_map_toOption selected
  obtain ⟨snippet, copying, listed⟩ := exists_ok_of_map_toOption copied
  obtain ⟨-, -, snippets⟩ := reports_fonts titledDocument {} obligingHost () "title"
  obtain ⟨_, tree, _, -, -, accounts⟩ := snippets snippet copying
  exact ⟨report, snippet, tree, selecting, copying, reported, listed, accounts⟩

/-- Two fonts stand in files of an export and one of them in a piece of code, and no report
lists them. -/
theorem fonts_titledDocument :
    let exporting := (titledDocument.exportAll {} obligingHost.watched).run ⟨(), []⟩
    exporting.1.fonts = ["Roboto"] ∧
      (∃ file ∈ writes exporting.2.calls, "fontFamily: 'Lora'".toList <:+: file.2.toList) ∧
      (∃ file ∈ writes exporting.2.calls, "fontFamily: 'Inter'".toList <:+: file.2.toList) ∧
      ∃ snippet, titledDocument.copySelected {} "title" = .ok snippet ∧
        snippet.report.fonts = ["Roboto"] ∧
        "fontFamily: 'Lora'".toList <:+: snippet.code.toList := by
  intro exporting
  have files : writes exporting.2.calls =
      [("home.dart",
        "import 'package:flutter/material.dart';\n\nclass Home extends StatelessWidget \x7b\n" ++
          "  Home(\x7bKey? key,\x7d) : super(key: key);\n\n  @override\n" ++
          "  Widget build(BuildContext context) \x7b\n" ++
          "    return Scaffold(body: Stack(children: <Widget>[Text.rich(TextSpan(style: TextStyle(" ++
        "fontFamily: 'Lora'" ++
        (", fontSize: 14, ), children: [TextSpan(text: 'Hi', style: TextStyle(fontFamily: 'Roboto', " ++
          "), ), ], ), softWrap: false, ), ], ), );\n  \x7d\n\x7d\n")),
      ("gen_text_styles.dart",
        "import 'package:flutter/material.dart';\n\nclass GenTextStyles \x7b\n" ++
          "  static TextStyle Body = TextStyle(" ++
        "fontFamily: 'Inter'" ++ ", fontSize: 14, );\n\x7d\n")] := by decide +kernel
  have copied : (titledDocument.copySelected {} "title").toOption.map
      (fun snippet => (snippet.report.fonts, snippet.code)) = some (["Roboto"],
        "Text.rich(TextSpan(style: TextStyle(" ++ "fontFamily: 'Lora'" ++
        (", fontSize: 14, ), children: [TextSpan(text: 'Hi', style: TextStyle(fontFamily: 'Roboto', " ++
          "), ), ], ), softWrap: false, )")) := by decide +kernel
  obtain ⟨snippet, copying, listed⟩ := exists_ok_of_map_toOption copied
  obtain ⟨fonts, code⟩ := Prod.mk.inj listed
  rw [files]
  refine ⟨by decide +kernel, ⟨_, List.mem_cons_self, Text.isInfix_between _ _ _⟩,
    ⟨_, List.mem_cons_of_mem _ List.mem_cons_self, Text.isInfix_between _ _ _⟩,
    snippet, copying, fonts, ?_⟩
  rw [code]
  exact Text.isInfix_between _ _ _

end Document

end DesignExport
