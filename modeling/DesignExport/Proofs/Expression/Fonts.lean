import DesignExport.Proofs.Expression.Decorated
import DesignExport.Proofs.Expression.Styles
set_option autoImplicit false

/-! Fonts of a tree. Writing a tree records the fonts of the runs with characters. The code
states these, and that of the first run of every rich text. -/

namespace DesignExport

open Compile (Composed Files Keeps Lasts Leads Shows Tells)

variable {α : Type} [Scalar α]

def Context.HasFont (run : TextRun α) (context : Context α) : Prop :=
  context.settings.font run.family = "" ∨ context.settings.font run.family ∈ context.fonts

theorem Context.lasts_hasFont (run : TextRun α) :
    Lasts (fun _ => True) (Context.HasFont run) := by
  intro β step composed context known
  rw [HasFont, composed.framed.settings_eq]
  refine known.imp_right fun listed => ?_
  rw [composed.framed.run_eq]
  exact (mem_addAllOnce _ _ _).mpr (Or.inr listed)

namespace Label

variable {run : TextRun α}

theorem useFont_leads (run : TextRun α) :
    Leads (fun _ => True) (useFont run) (fun _ => Context.HasFont run) := by
  intro context _
  rw [useFont_run]
  split
  case isTrue none => exact Or.inl (String.isEmpty_iff.mp none)
  case isFalse => exact Or.inr ((mem_addOnce _ _ _).mpr (Or.inr rfl))

theorem spans_leads (baseline : TextStyle) (context : TextContext α) :
    ∀ {slices : List (TextRun α × List Char)}, (∃ slice ∈ slices, slice.1 = run) →
      Leads (fun _ => True) (spans baseline context slices) (fun _ => Context.HasFont run)
  | (first, _) :: rest, among => by
      obtain ⟨slice, member, same⟩ := among
      rw [spans]
      rcases List.mem_cons.mp member with here | later
      · rw [here] at same
        subst same
        refine (useFont_leads first).outlasts (Context.lasts_hasFont first) fun _ => ?_
        refine Composed.settings.bind fun settings => ?_
        exact (spans_composed baseline context rest).bind fun _ => Composed.pure _
      · refine Leads.bind_any fun _ => Leads.bind_any fun settings => ?_
        exact (spans_leads baseline context ⟨slice, later, same⟩).outlasts
          (Context.lasts_hasFont run) fun _ => Composed.pure _

theorem write_leads {node : NodeInfo α} {block : TextBlock α} (label : node.layer.kind = .text block)
    (member : run ∈ recorded node block) :
    Leads (fun _ => True) (write node) (fun _ => Context.HasFont run) := by
  unfold write
  rw [label]
  refine Leads.bind_any fun _ => Leads.bind_any fun context => ?_
  rw [recorded] at member
  dsimp only
  split
  case isTrue oneStyle =>
    rw [if_pos oneStyle, List.mem_singleton] at member
    subst member
    have used : Leads (fun _ => True) (flat node block context)
        (fun _ => Context.HasFont (block.runs.headD TextRun.usual)) :=
      (useFont_leads _).outlasts (Context.lasts_hasFont _) fun _ =>
        Composed.settings.bind fun _ => Composed.pure _
    exact used.outlasts (Context.lasts_hasFont _) fun _ => Composed.pure _
  case isFalse severalStyles =>
    rw [if_neg severalStyles, List.mem_map] at member
    have used : Leads (fun _ => True) (rich block context) (fun _ => Context.HasFont run) := by
      refine Leads.bind_any fun settings => ?_
      exact (spans_leads _ context member).outlasts (Context.lasts_hasFont _) fun _ =>
        Composed.pure _
    exact used.outlasts (Context.lasts_hasFont _) fun _ => Composed.pure _

/-- The first run of a text is recorded, unless it has no characters and the text is rich. -/
theorem head_mem_recorded {node : NodeInfo α} {block : TextBlock α}
    (counts : isFlat node block = true ∨ (block.runs.headD TextRun.usual).length ≠ 0) :
    block.runs.headD TextRun.usual ∈ recorded node block := by
  rw [recorded]
  cases flat : isFlat node block with
  | true => exact List.mem_singleton_self _
  | false =>
      have present : (block.runs.headD TextRun.usual).length ≠ 0 :=
        counts.resolve_left (Bool.eq_false_iff.mp flat)
      cases runs : block.runs with
      | nil =>
          rw [isFlat, runs] at flat
          cases flat
      | cons first rest =>
          -- With characters it starts the first slice.
          rw [runs, List.headD_cons] at present
          rw [List.headD_cons, if_neg Bool.false_ne_true, slices, if_neg present]
          split
          · exact List.mem_singleton_self _
          · exact List.mem_cons_self

end Label

/-! ### The runs of a text -/

namespace NodeInfo

def StatesRun (node : NodeInfo α) (run : TextRun α) : Prop :=
  node.kind = .text ∧ ∃ block, node.layer.kind = .text block ∧ run ∈ Label.stated node block

/-- The first run of a rich text has no characters. -/
def SkipsRun (node : NodeInfo α) (run : TextRun α) : Prop :=
  node.kind = .text ∧ ∃ block, node.layer.kind = .text block ∧
    Label.isFlat node block = false ∧ block.runs.headD TextRun.usual = run ∧ run.length = 0

/-- A text states the runs that it records, and a first run without characters. -/
theorem statesRun_iff {node : NodeInfo α} {run : TextRun α} :
    node.StatesRun run ↔ node.UsesRun run ∨ node.SkipsRun run := by
  constructor
  · rintro ⟨text, block, label, among⟩
    rcases List.mem_cons.mp among with rfl | recorded
    · by_cases counts : Label.isFlat node block = true ∨
          (block.runs.headD TextRun.usual).length ≠ 0
      · exact Or.inl ⟨text, block, label, Label.head_mem_recorded counts⟩
      · obtain ⟨rich, empty⟩ := not_or.mp counts
        exact Or.inr ⟨text, block, label, Bool.eq_false_iff.mpr rich, rfl, not_not.mp empty⟩
    · exact Or.inl ⟨text, block, label, recorded⟩
  · rintro (⟨text, block, label, recorded⟩ | ⟨text, block, label, -, first, -⟩)
    · exact ⟨text, block, label, List.mem_cons_of_mem _ recorded⟩
    · exact ⟨text, block, label, List.mem_cons.mpr (Or.inl first.symm)⟩

end NodeInfo

namespace Node

variable {tree part : Node α} {run : TextRun α}

/-! ### What is recorded -/

theorem writeWith_leads_font (isDrawn : part.isDrawn = true) (used : part.UsesRun run)
    (edit : Layout α → Layout α) :
    Leads (fun _ => True) (part.writeWith edit) (fun _ => Context.HasFont run) := by
  obtain ⟨info, children⟩ := part
  obtain ⟨text, block, label, recorded⟩ := used
  rw [writeWith]
  refine NodeInfo.write_leads_of_writeBody (Context.lasts_hasFont run) isDrawn
    (writeBody_composed _ children) ?_
  change info.kind = .text at text
  rw [NodeInfo.writeBody, text]
  have left : Leads (fun _ => True) (Label.write { info with layout := edit info.layout })
      (fun _ => Context.HasFont run) := Label.write_leads label recorded
  exact left.outlasts (Context.lasts_hasFont run) fun _ => Composed.pure _

/-- Writing a tree records the fonts of the runs with characters, and no others. -/
theorem mem_fonts_write {ready : Context α} (none : ready.fonts = []) {family : String} :
    family ∈ (tree.write.run ready).2.fonts ↔
      family ≠ "" ∧ ∃ run, tree.Records run ∧ ready.settings.font run.family = family := by
  have writing := writeWith_writing tree tree.keepsTo_self id
  constructor
  · intro listed
    rcases writing.mem_fonts family ready listed with before | ⟨run, recorded, same, present⟩
    · rw [none] at before
      exact absurd before List.not_mem_nil
    · exact ⟨present, run, recorded, same⟩
  · rintro ⟨present, run, ⟨part, reaches, isDrawn, used⟩, same⟩
    -- The font is there once the part has been written, and no later step takes one away.
    have left : Context.HasFont run (tree.write.run ready).2 :=
      reaches.leads (Context.lasts_hasFont run) (writeWith_leads_font isDrawn used) id ready trivial
    have settings : (tree.write.run ready).2.settings = ready.settings :=
      writing.framed.settings_eq ready
    rw [Context.HasFont, settings, same] at left
    exact left.resolve_left present

/-! ### What is stated -/

/-- The code of a text, or of a method that it is moved to, states the fonts of its runs. -/
theorem writeWith_tells_font {start : Context α} {fact : Context α → Prop}
    (isDrawn : part.isDrawn = true) (states : part.StatesRun run)
    (lasts : Lasts (fun _ => True) fact)
    (files : part.mode = .method →
      Files (ShowsPiece (TextStyle.fontArgument (start.settings.font run.family))) fact)
    (edit : Layout α → Layout α) :
    Tells start (ShowsPiece (TextStyle.fontArgument (start.settings.font run.family))) fact
      (part.writeWith edit) := by
  obtain ⟨info, children⟩ := part
  obtain ⟨text, block, label, stated⟩ := states
  rw [writeWith]
  refine NodeInfo.write_tells_of_writeBody (handsOn_showsOneOf _ lasts) files isDrawn ?_
  change info.kind = .text at text
  rw [NodeInfo.writeBody, text]
  have shown : Shows start (ShowsPiece (TextStyle.fontArgument (start.settings.font run.family)))
      (Label.write { info with layout := edit info.layout }) :=
    Label.write_shows label fun context =>
      Label.exists_font_mem_styles info block stated context start.settings
  refine Shows.tells ?_
  exact Keeps.bind shown fun result known => Keeps.pure known

end Node

end DesignExport
