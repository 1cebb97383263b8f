import DesignExport.Assets.TextStyles
import DesignExport.Proofs.Expression.Decorated
import DesignExport.Proofs.Expression.Pieces
set_option autoImplicit false

/-! Names that generated code uses and the material library does not provide: the picture
and the page link of two packages, the library for effects, the extension behind a width
unit, and the classes of other widgets. As it is written, code that uses a name of a package
asks for the import of that package; nothing asks for other imports. -/

namespace DesignExport

open Compile (Composed Files HandsOn Lasts Leads Tells Yields packageDirectives)

variable {α : Type}

inductive ForeignName where
  | picture
  | pageLink
  | effects
  /-- The extension of numbers that a width unit calls. -/
  | unit
  /-- A class that is generated in a file of its own. -/
  | widget (className : String)
deriving DecidableEq

namespace ForeignName

/-- A directive imports a name. No package has generated classes, whatever its name. -/
def IsImportedBy (directive : String) : ForeignName → Prop
  | .picture => directive = "import 'package:flutter_svg/flutter_svg.dart';"
  | .pageLink => directive = "import 'package:adobe_xd/page_link.dart';"
  | .effects => directive = "import 'dart:ui' as ui;"
  | .unit => directive = TextStyleClass.screenImport
  | .widget className =>
      directive ∉ packageDirectives ∧ directive = "import '" ++ Naming.fileName className ++ "';"

/-- Names that the imports of generated code can provide. -/
def isPackaged : ForeignName → Bool
  | .picture | .pageLink | .effects => true
  | .unit | .widget _ => false

theorem not_isImportedBy {name : ForeignName} (unpackaged : name.isPackaged = false) {directive : String}
    (known : directive ∈ packageDirectives) : ¬ name.IsImportedBy directive := by
  cases name with
  | picture | pageLink | effects => cases unpackaged
  | unit =>
      rintro rfl
      exact absurd known (by decide)
  | widget className => exact fun imported => imported.1 known

end ForeignName

/-- Some import of a widget provides a name. -/
def WidgetScope.Imports (scope : WidgetScope) (name : ForeignName) : Prop :=
  ∃ directive ∈ scope.imports, name.IsImportedBy directive

section

variable [Scalar α] (opacityOf : Markup.OpacityOf α) (normalize : Bool)
  (draws : ShapeUnit α → Prop) (builds : LayerInfo α → Prop) (declares : Prop)

theorem WidgetScope.isKept_imports (name : ForeignName) :
    IsKept opacityOf normalize draws builds declares (fun scope => scope.Imports name) where
  directive := by
    rintro scope added _ ⟨directive, member, imported⟩
    exact ⟨directive, (mem_addOnce _ _ _).mpr (Or.inl member), imported⟩
  param := fun _ _ _ _ known => known
  method := fun _ _ _ _ known => known
  picture := fun _ _ _ known => known

/-- Generated code asks for packages only. -/
theorem WidgetScope.isKept_packageDirectives :
    IsKept opacityOf normalize draws builds declares
      (fun scope => scope.imports ⊆ packageDirectives) where
  directive := by
    intro scope added listed within directive member
    rcases (mem_addOnce _ _ _).mp member with early | same
    · exact within early
    · exact same ▸ listed
  param := fun _ _ _ _ known => known
  method := fun _ _ _ _ known => known
  picture := fun _ _ _ known => known

end

theorem Compile.addDirective_leads (name : ForeignName) {directive : String}
    (imports : name.IsImportedBy directive) (before : Context α → Prop) :
    Leads before (addDirective directive) (fun _ context => context.scope.Imports name) :=
  fun _ _ => ⟨directive, (mem_addOnce _ _ _).mpr (Or.inr rfl), imports⟩

variable [Scalar α]

theorem WidgetScope.lasts_imports {draws : ShapeUnit α → Prop} (name : ForeignName) :
    Lasts draws (fun context : Context α => context.scope.Imports name) :=
  fun composed context known =>
    composed.keeps_scope (isKept_imports _ _ _ _ _ name) context rfl rfl known

/-! ### Names that a node uses -/

/-- The code of a node uses a name in a piece of code. -/
inductive Node.Uses (part : Node α) : ForeignName → String → Prop where
  | picture {unit : ShapeUnit α} (isDrawn : part.isDrawn = true) (shape : part.kind = .shape unit) :
      Uses part .picture "SvgPicture.string("
  | pageLink {widget : String} {transition : Transition α} (isDecorated : part.isDecorated = true)
      (decorated : .pageLink widget transition ∈ part.decorators)
      (present : part.isEmptyGroup part.children = false) :
      Uses part .pageLink "PageLink(links: [PageLinkInfo(transition: LinkTransition."
  /-- The page that a link opens. -/
  | linked {widget : String} {transition : Transition α} (isDecorated : part.isDecorated = true)
      (decorated : .pageLink widget transition ∈ part.decorators)
      (present : part.isEmptyGroup part.children = false) :
      Uses part (.widget widget) (widget ++ "()")
  | blur {amount : α} (isDecorated : part.isDecorated = true)
      (decorated : .blur amount ∈ part.decorators)
      (present : part.isEmptyGroup part.children = false) :
      Uses part .effects "ClipRect(child: BackdropFilter(filter: ui.ImageFilter.blur(sigmaX: "
  | instanceOf {widget : String} (isDrawn : part.isDrawn = true)
      (isInstance : part.kind = .group (.instanceOf widget))
      (unmarked : part.layer.isMarkedForExport = false) :
      Uses part (.widget widget) (widget ++ "()")

namespace Decorator

variable {widget : String} {transition : Transition α} {amount : α}

theorem pageLink_yields (code : String) : Yields (apply code (.pageLink widget transition))
    (ShowsPiece "PageLink(links: [PageLinkInfo(transition: LinkTransition.") := by
  have survives := survivesEdits_showsPiece
    "PageLink(links: [PageLinkInfo(transition: LinkTransition."
  refine Yields.bind_any fun _ => Yields.pure ?_
  iterate 10 refine survives.behind _ ?_
  exact showsPiece_self (by decide)

/-- The page of a link is called without arguments. -/
theorem pageLink_yields_call (code : String) :
    Yields (apply code (.pageLink widget transition)) (ShowsPiece (widget ++ "()")) := by
  have survives := survivesEdits_showsPiece (widget ++ "()")
  refine Yields.bind_any fun _ => Yields.pure ?_
  refine survives.behind _ (survives.behind _ ?_)
  have call : "(), ), ], child: " = "()" ++ ", ), ], child: " := by decide
  rw [call, ← String.append_assoc]
  refine survives.behind _ ?_
  rw [String.append_assoc]
  exact survives.before _ (showsPiece_self (append_ne_empty_of_right _ (by decide)))

theorem blur_yields (code : String) : Yields (apply code (.blur amount))
    (ShowsPiece "ClipRect(child: BackdropFilter(filter: ui.ImageFilter.blur(sigmaX: ") := by
  have survives := survivesEdits_showsPiece
    "ClipRect(child: BackdropFilter(filter: ui.ImageFilter.blur(sigmaX: "
  refine Yields.bind_any fun _ => Yields.pure ?_
  iterate 6 refine survives.behind _ ?_
  exact showsPiece_self (by decide)

theorem pageLink_leads (code : String) : Leads (fun _ => True) (apply code (.pageLink widget transition))
    (fun _ context => context.scope.Imports .pageLink) :=
  (Compile.addDirective_leads .pageLink rfl _).bind fun _ => Leads.pure fun _ known => known

theorem blur_leads (code : String) : Leads (fun _ => True) (apply code (.blur amount))
    (fun _ context => context.scope.Imports .effects) :=
  (Compile.addDirective_leads .effects rfl _).bind fun _ => Leads.pure fun _ known => known

end Decorator

namespace Picture

theorem write_yields_opening (layout : Layout α) (unit : ShapeUnit α) :
    Yields (write layout unit) (fun result => ShowsPiece "SvgPicture.string(" result.1) := by
  have survives := survivesEdits_showsPiece "SvgPicture.string("
  have opening : ShowsPiece "SvgPicture.string(" "SvgPicture.string(" := showsPiece_self (by decide)
  refine Yields.bind_any fun data => Yields.bind_any fun _ => ?_
  refine Yields.ite (fun _ => Yields.pure ?_) fun _ => Yields.pure ?_
  · exact survives.behind _ (survives.behind _ (survives.behind _ opening))
  · exact survives.behind _ (survives.behind _ (survives.behind _ opening))

theorem write_leads_imports (layout : Layout α) (unit : ShapeUnit α) :
    Leads (fun _ => True) (write layout unit) (fun _ context => context.scope.Imports .picture) := by
  refine Leads.bind_any fun data => (Compile.addDirective_leads .picture rfl _).bind fun _ => ?_
  exact Leads.ite (fun _ => Leads.pure fun _ known => known) fun _ => Leads.pure fun _ known => known

end Picture

namespace Node

variable {part : Node α} {name : ForeignName} {piece : String} {start : Context α}
  {fact : Context α → Prop}

/-- The code in the place of a node uses what the node uses, or its method does. -/
theorem Uses.tells (uses : part.Uses name piece) (lasts : Lasts (fun _ => True) fact)
    (label : part.kind = .text → ∃ block, part.layer.kind = .text block)
    (files : Files (ShowsPiece piece) fact) (edit : Layout α → Layout α) :
    Tells start (ShowsPiece piece) fact (part.writeWith edit) := by
  have handsOn : HandsOn (ShowsPiece piece) fact := handsOn_showsOneOf _ lasts
  cases uses with
  | picture isDrawn shape =>
      refine writeWith_tells_of_writeBody handsOn files isDrawn (fun edit => ?_) edit
      rw [NodeInfo.writeBody, shape]
      exact Yields.bind (Picture.write_yields_opening _ _) fun _ shown => Yields.pure shown
  | pageLink isDecorated decorated present =>
      exact writeWith_tells_of_decorator isDecorated decorated label present handsOn files
        Decorator.pageLink_yields edit
  | linked isDecorated decorated present =>
      exact writeWith_tells_of_decorator isDecorated decorated label present handsOn files
        Decorator.pageLink_yields_call edit
  | blur isDecorated decorated present =>
      exact writeWith_tells_of_decorator isDecorated decorated label present handsOn files
        Decorator.blur_yields edit
  | instanceOf isDrawn isInstance unmarked =>
      refine writeWith_tells_of_writeBody handsOn files isDrawn (fun edit => ?_) edit
      rw [NodeInfo.writeBody, isInstance]
      dsimp only
      rw [unmarked]
      exact Yields.pure (showsPiece_self (append_ne_empty_of_right _ (by decide)))

/-- Once a node is written, the names of packages that it uses are imported. -/
theorem Uses.leads (uses : part.Uses name piece) (packaged : name.isPackaged = true)
    (label : part.kind = .text → ∃ block, part.layer.kind = .text block)
    (edit : Layout α → Layout α) :
    Leads (fun _ => True) (part.writeWith edit) (fun _ context => context.scope.Imports name) := by
  have lasts : Lasts (fun _ => True) (fun context : Context α => context.scope.Imports name) :=
    WidgetScope.lasts_imports name
  cases uses with
  | @picture unit isDrawn shape =>
      obtain ⟨info, children⟩ := part
      rw [writeWith]
      refine NodeInfo.write_leads_of_writeBody lasts isDrawn (writeBody_composed _ _) ?_
      rw [NodeInfo.writeBody, shape]
      exact (Picture.write_leads_imports _ unit).bind fun _ => Leads.pure fun _ known => known
  | pageLink isDecorated decorated present =>
      exact writeWith_leads_of_decorator isDecorated decorated label present lasts
        Decorator.pageLink_leads edit
  | linked | instanceOf => cases packaged
  | blur isDecorated decorated present =>
      exact writeWith_leads_of_decorator isDecorated decorated label present lasts
        Decorator.blur_leads edit

end Node

end DesignExport
