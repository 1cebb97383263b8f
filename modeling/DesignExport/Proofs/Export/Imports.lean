import DesignExport.Number.Exact
import DesignExport.Proofs.Export.Bodies
import DesignExport.Proofs.Expression.Foreign
set_option autoImplicit false

/-! The imports of the file of a widget. Every package is imported whose names the file uses.
The package behind a width unit is not, nor is the file of any other widget. -/

namespace DesignExport

open Compile (Composed packageDirectives)

variable {α : Type}

/-- The same context with another width unit. -/
def Context.withUnit (context : Context α) (unit : String) : Context α :=
  { context with settings := { context.settings with widthUnit := unit } }

/-- A file has a class itself, or imports a name. -/
def WidgetScope.Provides (className : String) (scope : WidgetScope) (name : ForeignName) : Prop :=
  name = .widget className ∨ scope.Imports name

variable [Scalar α]

/-- The code of a widget uses a name. It uses the extension for the screen if measures have
that unit and the code would not be the same without it. -/
inductive Layer.UsesForeign (layer : Layer α) (start : Context α) : ForeignName → Prop where
  | part {part : Node α} {name : ForeignName} {piece : String}
      (reached : ((widgetTree layer).run start).1.Reaches part) (uses : part.Uses name piece) :
      UsesForeign layer start name
  | unit (other : String) (screen : start.settings.widthUnit = TextStyleClass.screenUnit)
      (matters : ((compileWidget layer).run (start.withUnit other)).1 ≠
        ((compileWidget layer).run start).1) : UsesForeign layer start .unit

/-- Once a tree is built it has asked for packages only. -/
theorem widgetTree_imports (layer : Layer α) (start : Context α) :
    ((widgetTree layer).run start).2.scope.imports ⊆ packageDirectives := by
  have composed : Composed (fun _ => False) (fun _ => False) True True (Node.mergedRoot layer) :=
    (Node.buildRoot_composed layer).bind fun _ => Composed.settings.bind fun _ => Composed.pure _
  let begun := ((widgetClass layer.toLayerInfo >>= Compile.beginWidget).run start).2
  exact composed.keeps_scope (WidgetScope.isKept_packageDirectives _ _ _ _ _) begun rfl rfl
    (List.nil_subset _)

theorem Node.write_imports {tree : Node α} {ready : Context α}
    (within : ready.scope.imports ⊆ packageDirectives) :
    (tree.write.run ready).2.scope.imports ⊆ packageDirectives :=
  tree.write_composed.keeps_scope (WidgetScope.isKept_packageDirectives _ _ _ _ _) ready rfl rfl within

/-- Every import that is asked for is in the file of a widget. What a node uses stands in a
body of the file; of the names that are used those of packages are provided and the class
of the widget itself, and no others. -/
theorem compileWidget_imports (layer : Layer α) (start : Context α) :
    let tree := ((widgetTree layer).run start).1
    let className := ((widgetClass layer.toLayerInfo).run start).1
    let code := ((widgetCode layer className).run start).1
    let file := SourceFile.ofWidget className code.1 code.2 start.settings.nullSafe
    ((compileWidget layer).run start).1 = .ok file ∧
      (∀ directive ∈ code.2.imports, file.Has directive) ∧
      (∀ part name piece, tree.Reaches part → part.Uses name piece →
        ShowsInBody piece code.1 code.2 ∨
          ((compileWidget layer).run start.bare).2.WarnsOfMethod) ∧
      ∀ name, layer.UsesForeign start name →
        (code.2.Provides className name ↔ name.isPackaged = true ∨ name = .widget className) := by
  intro tree className code file
  obtain ⟨ready, built, sameCode, log⟩ := exists_ready layer start
  change code = _ at sameCode
  have isReady := widgetTree_isReady built
  have within : code.2.imports ⊆ packageDirectives := by
    have early := widgetTree_imports layer start.bare
    rw [built] at early
    rw [sameCode]
    exact Node.write_imports early
  refine ⟨compileWidget_run_ok layer start, fun directive member => ?_, ?_, fun name used => ?_⟩
  · have foreign : directive ≠ SourceFile.materialImport := by
      rintro rfl
      exact absurd (within member) (by decide)
    exact SourceFile.has_import foreign member
  · intro part name piece reached uses
    exact reached.showsInCode fun _ label lasts files => uses.tells lasts label files
  · constructor
    · rintro (own | ⟨directive, member, imports⟩)
      · exact Or.inr own
      · cases packaged : name.isPackaged with
        | true => exact Or.inl rfl
        | false => exact absurd imports (ForeignName.not_isImportedBy packaged (within member))
    · rintro (packaged | own)
      · cases used with
        | part reached uses =>
            have label := (Node.isSupplied_of_reaches isReady reached).label
            rw [sameCode]
            exact Or.inr (reached.leads (WidgetScope.lasts_imports name)
              (uses.leads packaged label) id ready trivial)
        | unit => cases packaged
      · exact Or.inl own

/-- A page with a dot. -/
def dotPage : Layer Rat :=
  let dot : LayerInfo Rat :=
    { LayerInfo.usual "dot" "Dot" .ellipse with
      hasDefaultName := true
      fill := some (.color ⟨0, 0, 255, 255⟩) }
  ⟨{ LayerInfo.usual "home" "Home" .artboard with hasDefaultName := true }, [⟨dot, []⟩]⟩

/-- Measures in the file of the page call the extension for the screen, and no directive of
the file imports it. -/
theorem imports_dotPage :
    let settings : Settings := { widthUnit := ".w" }
    let start := Context.start (Index.ofDocument ⟨[], [dotPage], ⟨[], []⟩⟩) settings .files
    let code := ((widgetCode dotPage "Home").run start).1
    dotPage.UsesForeign start .unit ∧ code.2.imports = [] ∧ ¬ code.2.Provides "Home" .unit := by
  intro settings start code
  have imports : code.2.imports = [] := by decide +kernel
  refine ⟨.unit "" rfl fun same => ?_, imports, ?_⟩
  · have sources := congrArg (fun result => result.toOption.map (·.source)) same
    revert sources
    decide +kernel
  · rintro (own | ⟨directive, member, -⟩)
    · cases own
    · rw [imports] at member
      cases member

end DesignExport
