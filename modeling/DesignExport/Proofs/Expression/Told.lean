import DesignExport.Proofs.Compile.Leads
import DesignExport.Proofs.Expression.Composed
import DesignExport.Proofs.Tree.Origins
set_option autoImplicit false

/-! What the code of a node tells, the code of every tree tells that the node is written
with. Something told is either shown by code, from where every edit of finished code hands
it on to the code of the parent, or it has become a fact that no later step takes away. -/

namespace DesignExport

open Compile (Composed Keeps Lasts Leads Yields keeps_idle)

variable {α β γ : Type} [Scalar α]

namespace Compile

/-- Written in a context with what lasts in a first one, some code shows something. -/
def Shows (start : Context α) (shows : String → Prop) (step : Compile α (String × β)) : Prop :=
  Keeps (fun context => context.idle = start.idle) step (fun result => shows result.1)

/-- Written in such a context, some code shows something unless a fact has come about. -/
def Tells (start : Context α) (shows : String → Prop) (fact : Context α → Prop)
    (step : Compile α (String × β)) : Prop :=
  Leads (fun context => context.idle = start.idle) step
    (fun result context => (shows result.1 ∨ fact context) ∧ context.idle = start.idle)

/-- What the code of a method shows has come about once the method is there. -/
def Files (shows : String → Prop) (fact : Context α → Prop) : Prop :=
  ∀ name body, shows body → ∀ context : Context α, fact ((addMethod name body).run context).2

/-- No step on the way to the whole code takes away what is shown or has come about. -/
structure HandsOn (shows : String → Prop) (fact : Context α → Prop) : Prop where
  survives : SurvivesEdits shows
  present : ∀ code, shows code → code ≠ ""
  lasts : Lasts (fun _ => True) fact

variable {start : Context α} {shows : String → Prop} {fact : Context α → Prop}

omit [Scalar α] in
theorem Shows.tells {step : Compile α (String × β)} (shown : Shows start shows step) :
    Tells start shows fact step :=
  fun context same => ⟨Or.inl (shown context same).1, (shown context same).2⟩

omit [Scalar α] in
theorem Tells.shown {step : Compile α (String × β)}
    (told : Tells start shows (fun _ => False) step) : Shows start shows step :=
  fun context same => ⟨(told context same).1.resolve_right not_false, (told context same).2⟩

namespace Tells

/-- Steps after the code was told go on with it, or leave the fact alone. -/
theorem bind (lasts : Lasts (fun _ => True) fact) {step : Compile α (String × β)}
    {next : String × β → Compile α (String × γ)} (told : Tells start shows fact step)
    (rest : ∀ result, Composed (fun _ => True) (fun _ => True) True True (next result))
    (more : ∀ result, shows result.1 → Shows start shows (next result)) :
    Tells start shows fact (step >>= next) := by
  intro context same
  obtain ⟨known, kept⟩ := told context same
  rcases known with shown | known
  · exact (more (step.run context).1 shown).tells _ kept
  · exact ⟨Or.inr (lasts (rest _) _ known), ((rest _).framed.idle_eq _).trans kept⟩

theorem behind {step : Compile α β} {next : β → Compile α (String × γ)}
    (composed : Composed (fun _ => True) (fun _ => True) True True step)
    (told : ∀ value, Tells start shows fact (next value)) :
    Tells start shows fact (step >>= next) :=
  fun context same => told _ _ ((keeps_idle composed start context same).2)

/-- Other code is put around the code that was told. -/
theorem between (handsOn : HandsOn shows fact) {step : Compile α (String × β)}
    (told : Tells start shows fact step) (front back : String) (other : String × β → γ) :
    Tells start shows fact
      (step >>= fun result => pure (front ++ result.1 ++ back, other result)) :=
  told.bind handsOn.lasts (fun _ => Composed.pure _) fun _ shown =>
    Keeps.pure (handsOn.survives.between shown front back)

/-- The code that was told is taken over. -/
theorem keep (lasts : Lasts (fun _ => True) fact) {step : Compile α (String × β)}
    (told : Tells start shows fact step) (other : String × β → γ) :
    Tells start shows fact (step >>= fun result => pure (result.1, other result)) :=
  told.bind lasts (fun _ => Composed.pure _) fun _ shown => Keeps.pure shown

end Tells

end Compile

open Compile (Files HandsOn Shows Tells)

/-- However its layout is edited, the code of a child tells something. -/
def Child.Tells (start : Context α) (shows : String → Prop) (fact : Context α → Prop)
    (child : Child α) : Prop :=
  ∀ edit : Layout α → Layout α, Compile.Tells start shows fact (child.write edit)

section

variable {start : Context α} {shows : String → Prop} {fact : Context α → Prop}
  (handsOn : HandsOn shows fact)

/-! ### Edits by parents -/

section Edits

omit handsOn

variable (survives : SurvivesEdits shows)

include survives

omit [Scalar α] in
theorem Group.padded_shows [Scalar α] {code : String} (shown : shows code) (layer : LayerInfo α)
    (unit : String) : shows (padded layer code unit) := by
  unfold padded
  split
  · exact survives.between shown _ _
  · exact shown

theorem Group.onBackground_shows {code : String} (shown : shows code) (layer : LayerInfo α)
    (unit : String) : Yields (onBackground layer code unit) shows := by
  unfold onBackground
  refine Yields.ite_skip (Yields.bind_any fun opacity => ?_)
  dsimp only
  split
  · exact Yields.bind_any fun _ => Yields.bind_any fun _ =>
      Yields.pure (survives.decorated _ shown)
  · exact Yields.bind_any fun _ => Yields.bind_any fun _ =>
      Yields.pure (survives.decorated _ shown)

theorem Group.view_shows {code : String} (shown : shows code) (layers : List (LayerInfo α))
    (unit : String) (direction : ScrollDirection) :
    shows (Scroll.view (Scroll.content layers code unit) direction) := by
  have content : shows (Scroll.content layers code unit) := by
    unfold Scroll.content
    split
    · exact survives.between shown _ _
    · exact shown
  cases direction with
  | vertical | horizontal => exact survives.between content _ _
  | panning => exact survives.between (survives.between content _ _) _ _

end Edits

include handsOn

/-! ### From a child to a list of children -/

namespace Child

theorem writeList_tells (edit : Layout α → Layout α) {child : Child α}
    (told : child.Tells start shows fact) : ∀ {children : List (Child α)}, child ∈ children →
      (∀ other ∈ children, other.IsWriting (fun _ => True) (fun _ => True) (fun _ => True)) →
        Compile.Tells start shows fact (writeList edit children)
  | first :: rest, member, composed => by
      obtain ⟨own, others⟩ := List.forall_mem_cons.mp composed
      have later : Composed (fun _ => True) (fun _ => True) True True (writeList edit rest) :=
        (writeList_writing edit rest others).composed
      rw [writeList]
      rcases List.mem_cons.mp member with same | inside
      · subst same
        refine (told edit).bind handsOn.lasts (fun _ => later.bind fun _ => Composed.pure _)
          fun written shown => (keeps_idle later start).bind fun _ _ => Keeps.pure ?_
        rw [item, isEmpty_eq_false (handsOn.present written.1 shown)]
        exact handsOn.survives.behind _ (handsOn.survives.behind _ shown)
      · refine Compile.Tells.behind (own edit).composed fun _ => ?_
        exact (writeList_tells edit told inside others).bind handsOn.lasts
          (fun _ => Composed.pure _) fun _ shown => Keeps.pure (handsOn.survives.before _ shown)

theorem writeStack_tells {child : Child α} (told : child.Tells start shows fact)
    {children : List (Child α)} (member : child ∈ children)
    (composed : ∀ other ∈ children, other.IsWriting (fun _ => True) (fun _ => True) (fun _ => True)) :
    Compile.Tells start shows fact (writeStack children) :=
  (writeList_tells handsOn _ told member composed).between handsOn _ _ (·.2)

end Child

namespace Group

theorem cells_tells (orientation : Orientation) (unit : String) {child : Child α}
    (told : child.Tells start shows fact) : ∀ {entries : List (α × Child α)} (hasTrimmed : Bool),
      (∃ entry ∈ entries, entry.2 = child) →
      (∀ entry ∈ entries, entry.2.IsWriting (fun _ => True) (fun _ => True) (fun _ => True)) →
        Tells start shows fact (cells orientation unit hasTrimmed entries)
  | (gap, first) :: rest, hasTrimmed, found, composed => by
      obtain ⟨own, others⟩ := List.forall_mem_cons.mp composed
      have later (trimmed : Bool) : Composed (fun _ => True) (fun _ => True) True True
          (cells orientation unit trimmed rest) :=
        (cells_writing orientation unit rest trimmed others).composed
      have joined (trimmed : Bool) (front : String) (node : Node α) :
          Composed (fun _ => True) (fun _ => True) True True
            (cells orientation unit trimmed rest >>= fun result =>
              pure (front ++ result.1, node :: result.2)) :=
        (later trimmed).bind fun _ => Composed.pure _
      obtain ⟨entry, member, same⟩ := found
      rw [cells]
      -- Other cells, and the space between cells, only stand around the cell of the child.
      rcases List.mem_cons.mp member with here | inside
      · subst same
        rw [here] at told
        refine (told _).bind handsOn.lasts (fun written => Composed.ite ?_ (joined _ _ _))
          fun written shown => ?_
        · exact (later hasTrimmed).bind fun _ => Composed.pure _
        obtain ⟨text, node⟩ := written
        dsimp only
        rw [isEmpty_eq_false (handsOn.present text shown)]
        refine (keeps_idle (later _) start).bind fun _ _ => Keeps.pure ?_
        refine handsOn.survives.behind _ (handsOn.survives.behind _ (handsOn.survives.before _ ?_))
        unfold cell
        split
        · exact shown
        · exact handsOn.survives.between shown _ _
      · have below (trimmed : Bool) := cells_tells orientation unit told trimmed
          ⟨entry, inside, same⟩ others
        refine Tells.behind (own _).composed fun written => Leads.ite (fun _ => ?_) fun _ => ?_
        · exact (below hasTrimmed).keep handsOn.lasts _
        · exact (below _).bind handsOn.lasts (fun _ => Composed.pure _) fun _ shown =>
            Keeps.pure (handsOn.survives.before _ shown)

variable {child : Child α} (told : child.Tells start shows fact) {children : List (Child α)}
  (member : child ∈ children)
  (composed : ∀ other ∈ children, other.IsWriting (fun _ => True) (fun _ => True) (fun _ => True))

include told member composed

theorem writeFlex_tells (stack : Stack α) :
    Tells start shows fact (writeFlex stack children) := by
  refine Tells.behind Composed.settings fun settings => ?_
  have found : ∃ entry ∈ withGaps (stack.spacings.gaps (children.length - 1)).reverse
      children.reverse, entry.2 = child := by
    have cell : child ∈ children.reverse := List.mem_reverse.mpr member
    rw [← map_snd_withGaps stack.spacings children] at cell
    exact List.mem_map.mp cell
  have each : ∀ entry ∈ withGaps (stack.spacings.gaps (children.length - 1)).reverse
      children.reverse, entry.2.IsWriting (fun _ => True) (fun _ => True) (fun _ => True) :=
    fun entry inside => composed entry.2 (List.mem_reverse.mp (List.of_mem_zip inside).2)
  exact (cells_tells handsOn stack.orientation settings.widthUnit told false found each).between
    handsOn _ _ _

theorem writeChildren_tells (node : NodeInfo α) (hasBackground : Bool) :
    Tells start shows fact (writeChildren node hasBackground children) := by
  unfold writeChildren
  split
  next stack known => exact writeFlex_tells handsOn told member composed stack
  next =>
    split
    next only =>
      rw [List.mem_singleton.mp member] at told
      exact (told _).keep handsOn.lasts _
    next => exact Child.writeStack_tells handsOn told member composed

end Group

/-! ### From a child to its parent -/

variable {node : NodeInfo α} {target : Node α}

namespace Root

variable {children : List (Child α)}
  (told : ∀ child ∈ children, child.node = target → child.Tells start shows fact)
  (composed : ∀ child ∈ children, child.IsWriting (fun _ => True) (fun _ => True) (fun _ => True))
  (root : node.kind = .widgetRoot) (written : target ∈ node.written (Child.nodes children))

include told composed root written

theorem writeStack_tells (noSole : node.soleChild? (Child.nodes children) = none) :
    Tells start shows fact (Child.writeStack children) := by
  rw [written_of_no_sole root noSole] at written
  obtain ⟨child, inside, same⟩ := List.mem_map.mp written
  exact Child.writeStack_tells handsOn (told child inside same) inside composed

theorem writeBody_tells (page : node.layer.kind = .artboard) :
    Tells start shows fact (writeBody node children) := by
  unfold writeBody
  split
  case h_1 first only =>
    refine Leads.ite (fun takes => ?_) fun takesNone =>
      writeStack_tells handsOn told composed root written (soleChild?_pair_of_not root takesNone)
    have alone : node.written (Child.nodes [first, only]) = [only.node] :=
      written_of_sole root (soleChild?_pair root page takes)
    rw [alone] at written
    have last : only ∈ [first, only] := List.mem_cons_of_mem first List.mem_cons_self
    exact (told only last (List.mem_singleton.mp written).symm _).keep handsOn.lasts _
  case h_2 different =>
    exact writeStack_tells handsOn told composed root written
      (soleChild?_of_not_pair root different)

theorem write_tells : Tells start shows fact (write node children) := by
  unfold write
  split
  case h_1 page =>
    refine Tells.behind (pageColor_composed _) fun color => ?_
    exact (writeBody_tells handsOn told composed root written page).between handsOn _ _ _
  case h_2 noPage =>
    exact writeStack_tells handsOn told composed root written (soleChild?_of_not_page root noPage _)

end Root

namespace Group

theorem writeContent_tells (drawn : node.isDrawnGroup = true) {first : Child α}
    {rest : List (Child α)}
    (told : ∀ child ∈ first :: rest, child.node = target → child.Tells start shows fact)
    (composed : ∀ child ∈ first :: rest, child.IsWriting (fun _ => True) (fun _ => True) (fun _ => True))
    (written : target ∈ node.written (Child.nodes (first :: rest))) :
    Tells start shows fact (writeContent node first rest) := by
  obtain ⟨_, others⟩ := List.forall_mem_cons.mp composed
  refine Tells.behind Composed.settings fun settings => ?_
  refine Tells.behind (warnOfMask_composed node.layer) fun _ => ?_
  refine Leads.ite (fun takes => ?_) fun takesNone => ?_
  · have below : node.written (Child.nodes (first :: rest)) = Child.nodes rest :=
      written_of_takes drawn takes _
    rw [below] at written
    obtain ⟨child, inside, same⟩ := List.mem_map.mp written
    have own := told child (List.mem_cons_of_mem first inside) same
    refine (writeChildren_tells handsOn own inside others node true).bind handsOn.lasts
      (fun result => (onBackground_composed _ _ _).bind fun _ => Composed.pure _)
      fun result shown => ?_
    have padded := padded_shows handsOn.survives shown node.layer settings.widthUnit
    refine Keeps.bind ?_ fun _ onto => Keeps.pure onto
    exact (onBackground_shows handsOn.survives padded first.node.layer
      settings.widthUnit).keeps_idle (onBackground_composed _ _ _) start
  · have all : node.written (Child.nodes (first :: rest)) = Child.nodes (first :: rest) :=
      written_of_takes_none drawn takesNone _
    rw [all] at written
    obtain ⟨child, inside, same⟩ := List.mem_map.mp written
    refine (writeChildren_tells handsOn (told child inside same) inside composed node
      false).bind handsOn.lasts (fun _ => Composed.pure _) fun _ shown => Keeps.pure ?_
    exact padded_shows handsOn.survives shown node.layer settings.widthUnit

theorem writeScroll_tells {first : Child α} {rest : List (Child α)}
    (told : Tells start shows fact (writeContent node first rest)) (direction : ScrollDirection) :
    Tells start shows fact (writeScroll node direction (first :: rest)) :=
  Tells.behind Composed.settings fun _ =>
    told.bind handsOn.lasts (fun _ => Composed.pure _) fun _ shown =>
      Keeps.pure (view_shows handsOn.survives shown _ _ direction)

end Group

namespace NodeInfo

omit handsOn in
theorem writeBody_tells_of_root (lasts : Lasts (fun _ => True) fact) {children : List (Child α)}
    (root : node.kind = .widgetRoot) (page : Tells start shows fact (Root.write node children)) :
    Tells start shows fact (writeBody node children) := by
  rw [writeBody, root]
  exact page.keep lasts _

theorem writeBody_tells_of_writeContent (drawn : node.isDrawnGroup = true) {first : Child α}
    {rest : List (Child α)} (content : Tells start shows fact (Group.writeContent node first rest)) :
    Tells start shows fact (writeBody node (first :: rest)) := by
  unfold isDrawnGroup at drawn
  split at drawn
  next plain =>
    have unmarked : node.layer.isMarkedForExport = false := by simpa using drawn
    rw [writeBody, plain, unmarked]
    exact content.keep handsOn.lasts _
  next direction scroll =>
    have unmarked : node.layer.isMarkedForExport = false := by simpa using drawn
    rw [writeBody, scroll, unmarked]
    exact (Group.writeScroll_tells handsOn content direction).keep handsOn.lasts _
  next => cases drawn

theorem writeBody_tells {children : List (Child α)}
    (told : ∀ child ∈ children, child.node = target → child.Tells start shows fact)
    (composed : ∀ child ∈ children, child.IsWriting (fun _ => True) (fun _ => True) (fun _ => True))
    (written : target ∈ node.written (Child.nodes children)) :
    Tells start shows fact (writeBody node children) := by
  by_cases root : node.kind = .widgetRoot
  · exact writeBody_tells_of_root handsOn.lasts root
      (Root.write_tells handsOn told composed root written)
  cases drawn : node.isDrawnGroup with
  | false =>
      rw [written_of_closed drawn root] at written
      exact absurd written List.not_mem_nil
  | true =>
      cases children with
      | nil => exact absurd (node.written_subset _ written) List.not_mem_nil
      | cons first rest =>
          exact writeBody_tells_of_writeContent handsOn drawn
            (Group.writeContent_tells handsOn drawn told composed written)

section Place

variable {children : List (Child α)}

theorem writeInline_tells (body : Tells start shows fact (writeBody node children)) :
    Tells start shows fact (writeInline node children) := by
  have decorated (result : Written α) : Composed (fun _ => True) (fun _ => True) True True
      (decorate result.2.toNodeInfo result.1) := decorate_composed _ _
  refine body.bind handsOn.lasts (fun result => Composed.ite (Composed.pure _) ?_)
    fun result shown => Keeps.ite (fun _ => Keeps.pure shown) fun _ => ?_
  · exact (decorated result).bind fun _ => Composed.pure _
  · refine Keeps.bind ?_ fun _ more => Keeps.pure more
    exact (handsOn.survives.decorate shown result.2.toNodeInfo).keeps_idle (decorated result) start

/-- In method mode the code is that of the method. -/
theorem writeMethod_tells (files : Files shows fact)
    (inline : Tells start shows fact (writeInline node children)) :
    Tells start shows fact (writeMethod node children) := by
  have rest (result : Written α) : Composed (fun _ => True) (fun _ => True) True True
      (if result.1.isEmpty then pure (result.1, result.2)
        else Compile.settings >>= fun settings =>
          Compile.addMethod (node.layer.methodName settings.normalizeNameCase) result.1 >>= fun _ =>
            pure (call (node.layer.methodName settings.normalizeNameCase), result.2)) :=
    Composed.ite (Composed.pure _) (Composed.addMethod trivial _ fun _ => Composed.pure _)
  intro context same
  obtain ⟨known, kept⟩ := inline context same
  refine ⟨Or.inr ?_, ((rest _).framed.idle_eq _).trans kept⟩
  rw [writeMethod, Compile.run_bind]
  generalize (writeInline node children).run context = result at known ⊢
  obtain ⟨⟨code, written⟩, later⟩ := result
  rcases known with shown | known
  · dsimp only
    rw [isEmpty_eq_false (handsOn.present code shown)]
    exact files _ code shown later
  · exact handsOn.lasts (rest (code, written)) later known

variable (files : node.mode = .method → Files shows fact)

include files

/-- What the body of a node tells, the code that stands where the node is tells too, or the
method that the body is moved to. -/
theorem write_tells_of_writeBody (isDrawn : node.isDrawn = true)
    (body : Tells start shows fact (writeBody node children)) :
    Tells start shows fact (write node children) := by
  unfold write
  split
  case h_1 => exact writeInline_tells handsOn body
  case h_2 isMethod => exact writeMethod_tells handsOn (files isMethod) (writeInline_tells handsOn body)
  case h_3 isBuilder =>
    rw [NodeInfo.isDrawn, isBuilder] at isDrawn
    cases isDrawn
  case h_4 custom =>
    rw [NodeInfo.isDrawn, custom, decide_eq_true_iff, placeholder?] at isDrawn
    unfold writeTemplate
    dsimp only
    split
    case h_1 found =>
      rw [found] at isDrawn
      cases isDrawn
    case h_2 cut found =>
      rw [found] at isDrawn
      have this : cut.placeholder = .this := Option.some.inj isDrawn
      rw [this]
      refine Tells.behind (templateSettings_composed node cut) fun settings => ?_
      refine Tells.between handsOn ?_ _ _ _
      exact Leads.ite (fun _ => writeInline_tells handsOn body) fun _ => body

/-- What the code of a child tells, the code that stands where its parent is tells too, or
the method that it is moved to. -/
theorem write_tells (told : ∀ child ∈ children, child.node = target → child.Tells start shows fact)
    (composed : ∀ child ∈ children, child.IsWriting (fun _ => True) (fun _ => True) (fun _ => True))
    (placed : target ∈ node.placed (Child.nodes children)) :
    Tells start shows fact (write node children) := by
  unfold NodeInfo.placed at placed
  split at placed
  case isTrue isDrawn =>
    exact write_tells_of_writeBody handsOn files isDrawn
      (writeBody_tells handsOn told composed placed)
  case isFalse =>
    split at placed
    case isTrue asked =>
      obtain ⟨custom, place⟩ := Bool.and_eq_true_iff.mp asked
      rw [decide_eq_true_iff] at custom place
      rw [write, custom]
      unfold writeTemplate
      dsimp only
      split
      case h_1 found =>
        rw [placeholder?, found] at place
        cases place
      case h_2 cut found =>
        rw [placeholder?, found] at place
        have asks : cut.placeholder = .children := Option.some.inj place
        obtain ⟨child, inside, same⟩ := List.mem_map.mp placed
        rw [asks]
        refine Tells.behind (templateSettings_composed node cut) fun settings => ?_
        refine Tells.between handsOn (Tells.keep handsOn.lasts ?_ _) _ _ _
        exact Child.writeList_tells handsOn _ (told child inside same) inside composed
    case isFalse => exact absurd placed List.not_mem_nil

end Place

end NodeInfo

namespace Node

theorem writeWith_tells_of_placed {info : NodeInfo α} {children : List (Node α)} {child : Node α}
    (files : info.mode = .method → Files shows fact) (placed : child ∈ info.placed children)
    (told : ∀ edit, Tells start shows fact (child.writeWith edit)) (edit : Layout α → Layout α) :
    Tells start shows fact (writeWith ⟨info, children⟩ edit) := by
  have inPlace : child ∈ info.placed (Child.nodes (asChildren children)) := by
    rw [nodes_asChildren]
    exact placed
  rw [writeWith]
  refine NodeInfo.write_tells handsOn files (fun other member same edit => ?_)
    isWriting_of_mem_asChildren inPlace
  rw [write_eq_of_mem_asChildren member, same]
  exact told edit

/-- What a node tells, a tree tells that reaches the node, in its code or in the method that
a part of it is moved to. -/
theorem Reaches.tells (files : Files shows fact) {node part : Node α} (reaches : node.Reaches part)
    (own : ∀ edit, Tells start shows fact (part.writeWith edit)) :
    ∀ edit, Tells start shows fact (node.writeWith edit) := by
  induction reaches with
  | self node => exact own
  | child placed below ih => exact writeWith_tells_of_placed handsOn (fun _ => files) placed (ih own)

end Node

end

/-! ### Facts that a node leaves behind -/

section

variable {fact : Context α → Prop} (lasts : Lasts (fun _ => True) fact)

theorem survivesEdits_false : SurvivesEdits (fun _ => False) where
  before _ _ shown := shown
  behind _ _ shown := shown
  commented _ _ shown := shown
  centered shown := shown
  decorated _ _ shown := shown

include lasts

/-- A fact that lasts is handed on whatever code shows. -/
theorem Compile.Lasts.handsOn : HandsOn (fun _ => False) fact :=
  ⟨survivesEdits_false, fun _ shown => shown.elim, lasts⟩

omit lasts [Scalar α] in
theorem Compile.files_false : Files (fun _ => False) fact :=
  fun _ _ shown => shown.elim

omit lasts in
/-- What a step brings about, it tells wherever it starts. -/
theorem Compile.Leads.tells {step : Compile α (String × β)}
    (leads : Leads (fun _ => True) step (fun _ => fact))
    (composed : Composed (fun _ => True) (fun _ => True) True True step) (start : Context α) :
    Tells start (fun _ => False) fact step :=
  fun context same =>
    ⟨Or.inr (leads context trivial), (composed.framed.idle_eq context).trans same⟩

omit lasts [Scalar α] in
theorem Compile.leads_of_tells {step : Compile α (String × β)}
    (told : ∀ start, Tells start (fun _ => False) fact step) :
    Leads (fun _ => True) step (fun _ => fact) :=
  fun context _ => (told context context rfl).1.resolve_left not_false

/-- What the body of a node leaves behind is there once the node is written. -/
theorem NodeInfo.write_leads_of_writeBody {node : NodeInfo α} {children : List (Child α)}
    (isDrawn : node.isDrawn = true)
    (composed : Composed (fun _ => True) (fun _ => True) True True (writeBody node children))
    (body : Leads (fun _ => True) (writeBody node children) (fun _ => fact)) :
    Leads (fun _ => True) (write node children) (fun _ => fact) :=
  Compile.leads_of_tells fun start =>
    write_tells_of_writeBody lasts.handsOn (fun _ => Compile.files_false) isDrawn
      (body.tells composed start)

/-- What a node leaves behind is there once a tree is written that reaches it. -/
theorem Node.Reaches.leads {node part : Node α} (reaches : node.Reaches part)
    (own : ∀ edit, Leads (fun _ => True) (part.writeWith edit) (fun _ => fact))
    (edit : Layout α → Layout α) : Leads (fun _ => True) (node.writeWith edit) (fun _ => fact) :=
  Compile.leads_of_tells fun start =>
    reaches.tells lasts.handsOn Compile.files_false
      (fun edit => (own edit).tells (writeWith_composed part edit) start) edit

end

/-! ### Code that stays where it is -/

namespace Node

/-- The code of a part stands in the code of a node: it is not moved to a method on the
way. -/
inductive InPlace : Node α → Node α → Prop where
  | self (node : Node α) : InPlace node node
  | child {info : NodeInfo α} {children : List (Node α)} {child part : Node α}
      (notMethod : info.mode ≠ .method) (placed : child ∈ info.placed children)
      (below : InPlace child part) : InPlace ⟨info, children⟩ part

omit [Scalar α] in
theorem InPlace.reaches {node part : Node α} (inPlace : node.InPlace part) : node.Reaches part := by
  induction inPlace with
  | self node => exact Reaches.self node
  | child _ placed _ ih => exact Reaches.child placed ih

omit [Scalar α] in
/-- Where nothing is moved, whatever is written is in place. -/
theorem Reaches.inPlace {node part : Node α} (reaches : node.Reaches part)
    (inline : node.Throughout fun info => info.mode = .inline) : node.InPlace part := by
  induction reaches with
  | self node => exact InPlace.self node
  | @child info children child part placed below ih =>
      obtain ⟨here, each⟩ := throughout_mk.mp inline
      refine InPlace.child (fun isMethod => ?_) placed
        (ih (each child (info.placed_subset children placed)))
      rw [here] at isMethod
      cases isMethod

omit [Scalar α] in
/-- A part that has a method is in place, or it is below one that is in place and has a
method. -/
theorem Reaches.exists_inPlace {node part : Node α} (reaches : node.Reaches part)
    (isMethod : part.mode = .method) (present : part.isEmptyGroup part.children = false) :
    ∃ outer, node.Reaches outer ∧ node.InPlace outer ∧ outer.mode = .method ∧
      outer.isEmptyGroup outer.children = false := by
  induction reaches with
  | self node => exact ⟨node, Reaches.self node, InPlace.self node, isMethod, present⟩
  | @child info children child part placed below ih =>
      by_cases moved : info.mode = .method
      · refine ⟨⟨info, children⟩, Reaches.self _, InPlace.self _, moved, ?_⟩
        have listed : children ≠ [] := List.ne_nil_of_mem (info.placed_subset children placed)
        rw [NodeInfo.isEmptyGroup, List.isEmpty_eq_false_iff.mpr listed, Bool.and_false]
      · obtain ⟨outer, reached, stands, known⟩ := ih isMethod present
        exact ⟨outer, Reaches.child placed reached, InPlace.child moved placed stands, known⟩

variable {start : Context α} {shows : String → Prop} (survives : SurvivesEdits shows)
  (present : ∀ code, shows code → code ≠ "")

include survives present

/-- What the code of a part in place shows, the whole code shows. -/
theorem InPlace.writeWith_shows {node part : Node α} (inPlace : node.InPlace part)
    (own : ∀ edit, Shows start shows (part.writeWith edit)) :
    ∀ edit, Shows start shows (node.writeWith edit) := by
  have handsOn : HandsOn shows (fun _ : Context α => False) :=
    ⟨survives, present, Lasts.always False⟩
  induction inPlace with
  | self node => exact own
  | child notMethod placed below ih =>
      exact fun edit => (writeWith_tells_of_placed handsOn
        (fun isMethod => absurd isMethod notMethod) placed (fun edit => (ih own edit).tells) edit).shown

/-- What the body of a node shows, the code of a tree shows that reaches the node and is
written inline. -/
theorem Reaches.writeWith_shows {node part : Node α} (reaches : node.Reaches part)
    (inline : node.Throughout fun info => info.mode = .inline)
    (own : ∀ edit : Layout α → Layout α, Shows start shows
      (NodeInfo.writeBody { part.toNodeInfo with layout := edit part.layout }
        (asChildren part.children))) :
    ∀ edit, Shows start shows (node.writeWith edit) := by
  refine (reaches.inPlace inline).writeWith_shows survives present fun edit => ?_
  have here : part.mode = .inline := inline part reaches.mem_parts
  obtain ⟨info, children⟩ := part
  have handsOn : HandsOn shows (fun _ : Context α => False) :=
    ⟨survives, present, Lasts.always False⟩
  have drawn : NodeInfo.isDrawn { info with layout := edit info.layout } = true := by
    change info.mode = .inline at here
    rw [NodeInfo.isDrawn, here]
  rw [writeWith]
  refine (NodeInfo.write_tells_of_writeBody handsOn (fun isMethod => ?_) drawn (own edit).tells).shown
  change info.mode = .method at isMethod
  change info.mode = .inline at here
  rw [here] at isMethod
  cases isMethod

end Node

end DesignExport
