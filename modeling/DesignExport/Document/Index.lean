import DesignExport.Document.Layer
set_option autoImplicit false

/-! Looking up layers and their surroundings. Layers own their children but do
not know their parents; an index finds both by guid. Of layers that share a guid
the last one in the document answers for it. -/

namespace DesignExport

variable {α : Type} [Scalar α]

/-- A layer together with the layer that owns it. -/
structure Placed (α : Type) where
  layer : Layer α
  parent : Option (Layer α)

mutual

/-- A layer and all layers below it with their owners, in document order. -/
def Layer.placed (parent : Option (Layer α)) : Layer α → List (Placed α)
  | ⟨info, children⟩ => ⟨⟨info, children⟩, parent⟩ :: placedAll (some ⟨info, children⟩) children

def placedAll (parent : Option (Layer α)) : List (Layer α) → List (Placed α)
  | [] => []
  | layer :: rest => Layer.placed parent layer ++ placedAll parent rest

end

structure Index (α : Type) where
  document : Document α
  placed : List (Placed α)

namespace Index

def ofDocument (document : Document α) : Index α :=
  ⟨document, placedAll none document.children⟩

/-- The last layer with a guid. -/
def layer? (index : Index α) (guid : String) : Option (Layer α) :=
  (index.placed.reverse.find? (fun placed => placed.layer.guid = guid)).map (·.layer)

/-- The owner of the last layer with a guid that has one. -/
def parentOf? (index : Index α) (guid : String) : Option (Layer α) :=
  index.placed.reverse.findSome? (fun placed =>
    if placed.layer.guid = guid then placed.parent else none)

/-- Artboards and master components in document order. -/
def widgets (index : Index α) : List (Layer α) :=
  (index.placed.map (·.layer)).filter (fun layer => layer.isWidgetRoot)

/-- The first master component of a symbol. -/
def master? (index : Index α) (symbol : String) : Option (Layer α) :=
  index.widgets.find? (fun widget =>
    match widget.kind with
    | .component isMaster own => isMaster && own = symbol
    | _ => false)

/-- Owners of owners, nearest first. The walk takes at most as many steps as
there are layers, so it ends also where guids run in a circle. -/
def ancestorsWithin (index : Index α) : Nat → String → List (Layer α)
  | 0, _ => []
  | steps + 1, guid =>
      match index.parentOf? guid with
      | none => []
      | some parent => parent :: ancestorsWithin index steps parent.guid

def ancestors (index : Index α) (guid : String) : List (Layer α) :=
  index.ancestorsWithin index.placed.length guid

/-- The nearest artboard or master component, the layer itself included. -/
def widgetRootOf? (index : Index α) (layer : Layer α) : Option (Layer α) :=
  (layer :: index.ancestors layer.guid).find? (fun candidate => candidate.isWidgetRoot)

/-- The opacity of a layer times that of its ancestors below the nearest widget
root above it, from the inside out. -/
def inheritedOpacity (index : Index α) (layer : LayerInfo α) : α :=
  ((index.ancestors layer.guid).takeWhile (fun ancestor => !ancestor.isWidgetRoot)).foldl
    (fun opacity ancestor => opacity * ancestor.opacity) layer.opacity

end Index

end DesignExport
