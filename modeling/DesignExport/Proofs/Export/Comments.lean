import DesignExport.Proofs.Export.Constructors
import DesignExport.Proofs.Export.Sizes
import DesignExport.Proofs.Expression.Opened
set_option autoImplicit false

/-! Comments in the code of documents. Code that is written for a layer begins with a call, so
the comment with the name of the layer is among the arguments of that call. It is inert exactly
if what it shows of the name has no line end. -/

namespace DesignExport

variable {α : Type} {document : Document α} {settings : Settings}

/-! ### The names of classes -/

/-- The name of a class has no slash but in the prefix that is set for it. -/
theorem Naming.slash_not_mem_widgetClassName (plain : '/' ∉ settings.widgetPrefix.toList)
    (layer : LayerInfo α) : '/' ∉ (widgetClassName layer settings).toList := by
  have words {name : String} (identifier : IsIdentifier name) : '/' ∉ name.toList :=
    fun member => absurd (identifier.every '/' member) (by decide)
  unfold widgetClassName
  split
  · exact words (isIdentifier_className _ _)
  · intro member
    rw [String.toList_append] at member
    rcases List.mem_append.mp member with front | back
    · exact plain front
    · exact words (isIdentifier_className _ _) back

theorem Context.Serves.slash_not_mem_of_names {context : Context α}
    (serves : context.Serves document settings) (plain : '/' ∉ settings.widgetPrefix.toList)
    {className : String} (names : context.Names className) : '/' ∉ className.toList := by
  obtain ⟨guid, named⟩ := names
  rw [widgetName?, serves.widgetNames_eq] at named
  rcases mem_of_mem_nameWidgets settings _ _ _ (Table.mem_of_find? named) with absent | ⟨widget, -, same⟩
  · exact absurd absent List.not_mem_nil
  · rw [show className = Naming.widgetClassName widget.toLayerInfo settings from congrArg Prod.snd same]
    exact Naming.slash_not_mem_widgetClassName plain widget.toLayerInfo

variable [Scalar α] {tree part : Node α} {ready : Context α}

/-- Trees that are written call classes by the names of widgets. -/
theorem Document.Writes.callsNames (writes : document.Writes settings tree ready) :
    ∃ base : Context α, base.Serves document settings ∧ tree.Throughout (NodeInfo.CallsNames base) := by
  cases writes with
  | @widget layer start _ _ inside serves built =>
      have calls := widgetTree_callsNames layer start
      rw [built] at calls
      exact ⟨start, serves, calls⟩
  | @snippet layer start _ _ inside serves built =>
      have same := snippetTree_run layer start
      rw [built] at same
      obtain ⟨⟨info, children⟩, found, merged⟩ := Option.map_eq_some_iff.mp same.symm
      have made : (⟨info, children⟩ : Node α).Throughout (NodeInfo.CallsNames start) := by
        intro part within
        obtain ⟨source, -, origin⟩ := Node.exists_source found within
        exact (Node.build_run_eq_some origin).1.callsNames
      obtain ⟨own, below⟩ := Node.throughout_mk.mp made
      have unplaced : (⟨info, children⟩ : Node α).unplaced.Throughout (NodeInfo.CallsNames start) :=
        Node.throughout_mk.mpr ⟨⟨own.instanceOf, own.linked⟩, below⟩
      rw [← merged]
      exact ⟨start, serves, Node.throughout_combineShapes (NodeInfo.callsNames_keptByShapes start) _ _
        unplaced⟩

theorem Document.Writes.callsPlainly (writes : document.Writes settings tree ready)
    (plain : '/' ∉ settings.widgetPrefix.toList) : tree.Throughout NodeInfo.CallsPlainly := by
  obtain ⟨base, serves, calls⟩ := writes.callsNames
  exact fun part inside widget isInstance =>
    serves.slash_not_mem_of_names plain ((calls part inside).instanceOf widget isInstance)

/-! ### Comments -/

/-- Wherever a layer is written, the comment with its name stands in code that begins with a
call. With the name of any layer, the comment there is inert exactly if it shows no line end. -/
theorem Document.Writes.comments_inert (writes : document.Writes settings tree ready)
    (inside : part ∈ tree.parts) (plain : '/' ∉ settings.widgetPrefix.toList) (edit : LayoutEdit)
    (context : Context α) :
    let node := part.edited edit
    let children := Node.asChildren part.children
    let code := node.bareCode children context
    ((node.writeInline children).run context).1.1 =
        (if code = "" then "" else node.layer.commented context.settings code) ∧
      (code ≠ "" → ∀ layer : LayerInfo α,
        IsInert code.toList (layerComment code layer).toList ↔ Dart.IsOneLine layer.shownName) := by
  intro node children code
  have calls : node.CallsPlainly := writes.callsPlainly plain part inside
  refine ⟨NodeInfo.writeInline_run_bareCode calls part.children context, fun filled layer => ?_⟩
  have opens := (NodeInfo.mayOpenCall_bareCode calls children context).resolve_left filled
  exact isInert_layerComment_iff opens layer

/-! ### A note with a line end -/

/-- A named group. -/
def note (name : String) : Layer Rat :=
  let sheet : LayerInfo Rat :=
    { LayerInfo.usual "sheet" "Sheet" (.rectangle .none) with
      hasDefaultName := true, localBounds := ⟨0, 0, 50, 50⟩ }
  ⟨{ LayerInfo.usual "note" name .group with localBounds := ⟨0, 0, 50, 50⟩ }, [⟨sheet, []⟩]⟩

def notedDocument (name : String) : Document Rat :=
  ⟨[], [⟨{ LayerInfo.usual "home" "Home" .artboard with
      hasDefaultName := true, localBounds := ⟨0, 0, 375, 812⟩ }, [note name]⟩], ⟨[], []⟩⟩

def notedStart (name : String) : Context Rat :=
  Context.start (Index.ofDocument (notedDocument name)) {} .clipboard

theorem writes_note {name : String} {tree : Node Rat}
    (copied : ((snippetTree (note name)).run (notedStart name)).1 = some tree) :
    ∃ ready, (notedDocument name).Writes {} tree ready := by
  have inside : note name ∈ Layer.flattenAll (notedDocument name).children := by
    simp [notedDocument, note, Layer.flattenAll, Layer.flatten]
  have serves : (notedStart name).Serves (notedDocument name) {} := Context.serves_start .clipboard
  refine ⟨((snippetTree (note name)).run (notedStart name)).2, .snippet inside serves ?_⟩
  rw [← copied, Prod.eta]

/-- What stands in the call of the group. -/
def noteArguments : String :=
  "children: <Widget>[Container(width: 50, height: 50, ), ], )"

/-- A name of one line is no more than a comment. -/
theorem Document.Writes.comments_inert_notedDocument :
    ∃ tree, ((snippetTree (note "Note")).run (notedStart "Note")).1 = some tree ∧
      IsInert ("Stack(" ++ noteArguments).toList
        (layerComment ("Stack(" ++ noteArguments) tree.layer).toList := by
  have facts : ((snippetTree (note "Note")).run (notedStart "Note")).1.map (fun tree =>
      ((tree.edited .asDesigned).bareCode (Node.asChildren tree.children) (notedStart "Note"),
        tree.layer.shownName)) = some ("Stack(" ++ noteArguments, "Note") := by
    decide +kernel
  obtain ⟨tree, copied, same⟩ := Option.map_eq_some_iff.mp facts
  obtain ⟨code, name⟩ := Prod.mk.inj same
  obtain ⟨ready, writes⟩ := writes_note copied
  have inert := writes.comments_inert (Node.Reaches.self tree).mem_parts (by decide) .asDesigned
    (notedStart "Note")
  dsimp only at inert
  rw [code] at inert
  refine ⟨tree, copied, (inert.2 (by decide) tree.layer).mpr ?_⟩
  rw [name]
  decide

/-- A name with a line end gives the call an argument. -/
theorem comment_adds_argument :
    let name := "Note\nkey: k, //"
    let commented := "Stack(\n// Layer: 'Note\nkey: k, //' (Group)\n" ++ noteArguments
    (∃ tree ready, (notedDocument name).Writes {} tree ready ∧
      (tree.edited .asDesigned).bareCode (Node.asChildren tree.children) (notedStart name) =
        "Stack(" ++ noteArguments ∧
      layerComment ("Stack(" ++ noteArguments) tree.layer = commented) ∧
    ((notedDocument name).copySelected {} "note").toOption.map (·.code) = some commented ∧
    withoutLayerLines commented.toList = ("Stack(key: k, //' (Group)\n" ++ noteArguments).toList ∧
    ¬IsInert ("Stack(" ++ noteArguments).toList commented.toList := by
  intro name commented
  have facts : ((snippetTree (note name)).run (notedStart name)).1.map (fun tree =>
      ((tree.edited .asDesigned).bareCode (Node.asChildren tree.children) (notedStart name),
        layerComment ("Stack(" ++ noteArguments) tree.layer)) =
      some ("Stack(" ++ noteArguments, commented) := by
    decide +kernel
  obtain ⟨tree, copied, same⟩ := Option.map_eq_some_iff.mp facts
  obtain ⟨code, written⟩ := Prod.mk.inj same
  obtain ⟨ready, writes⟩ := writes_note copied
  have left : withoutLayerLines commented.toList ≠
      withoutLayerLines ("Stack(" ++ noteArguments).toList := by
    decide +kernel
  exact ⟨⟨tree, ready, writes, code, written⟩, by decide +kernel, by decide +kernel,
    fun inert => left inert.removable⟩

end DesignExport
