import DesignExport.Proofs.Export.Manifest
import DesignExport.Proofs.Naming
set_option autoImplicit false

/-! The paths of rendered images. A layer whose name is in use in the folder of its widget
gets its guid as well, and the name that this makes is not looked up once more. Two layers
share an image exactly if it is in use, too. -/

namespace DesignExport

variable {α : Type}

namespace RasterQueue

inductive Operation (α : Type) where
  | start (widget : String)
  | add (layer : LayerInfo α)
  | drain

def Operation.isStart : Operation α → Bool
  | .start _ => true
  | .add _ | .drain => false

/-- The layers that some operations add. -/
def added : List (Operation α) → List (LayerInfo α)
  | [] => []
  | .add layer :: rest => layer :: added rest
  | .start _ :: rest | .drain :: rest => added rest

theorem added_append (first second : List (Operation α)) :
    added (first ++ second) = added first ++ added second := by
  induction first with
  | nil => rfl
  | cons operation rest ih => cases operation <;> simp [added, ih]

def pathIn (folder name : String) : String :=
  folder ++ "/" ++ name ++ ".png"

theorem pathIn_inj {folder first second : String} :
    pathIn folder first = pathIn folder second ↔ first = second := by
  constructor
  · intro same
    have chars := congrArg String.toList same
    simp only [pathIn, String.toList_append, List.append_cancel_right_eq,
      List.append_cancel_left_eq] at chars
    exact String.toList_inj.mp chars
  · exact congrArg (pathIn folder)

/-- The name of an image whose usual name is in use. -/
def completeName (layer : LayerInfo α) : String :=
  imageName layer.name ++ "_" ++ layer.guid

/-- Guids such as those with hyphens, which never look like a part of an image name. -/
structure IsOwnGuid (guid : String) : Prop where
  has_mark : ∃ char ∈ guid.toList, Dart.isWordChar char = false
  no_underscore : '_' ∉ guid.toList

theorem every_isWordChar_imageName (name : String) :
    Text.Every Dart.isWordChar (imageName name) := by
  unfold imageName
  dsimp only
  split
  · decide
  · apply Text.Every.ofList
    intro char member
    obtain ⟨source, _, same⟩ := List.mem_map.mp member
    subst same
    by_cases letter : source.isAlphanum = true
    · rw [if_pos letter]
      exact Naming.isWordChar_of_isAlphanum (Text.isAlphanum_toLower letter)
    · rw [if_neg letter]
      rfl

theorem completeName_ne_imageName {layer : LayerInfo α} (own : IsOwnGuid layer.guid) (name : String) :
    completeName layer ≠ imageName name := by
  intro same
  obtain ⟨char, member, mark⟩ := own.has_mark
  have inside : char ∈ (completeName layer).toList := by
    simp [completeName, member]
  rw [same] at inside
  have word := every_isWordChar_imageName name char inside
  rw [mark] at word
  cases word

theorem eq_of_append_mark_eq {mark : Char} {front back other rest : List Char} (last : mark ∉ back)
    (final : mark ∉ rest) (same : front ++ mark :: back = other ++ mark :: rest) : back = rest := by
  rcases List.append_eq_append_iff.mp same with ⟨middle, _, tail⟩ | ⟨middle, _, tail⟩
  · cases middle with
    | nil => exact (List.cons.inj tail).2
    | cons char middle =>
        refine absurd ?_ last
        rw [(List.cons.inj tail).2]
        simp
  · cases middle with
    | nil => exact (List.cons.inj tail).2.symm
    | cons char middle =>
        refine absurd ?_ final
        rw [(List.cons.inj tail).2]
        simp

/-- The guid is what stands behind the last underscore. -/
theorem guid_eq_of_completeName_eq {first second : LayerInfo α} (one : IsOwnGuid first.guid)
    (other : IsOwnGuid second.guid) (same : completeName first = completeName second) :
    first.guid = second.guid := by
  have chars := congrArg String.toList same
  simp only [completeName, String.toList_append, List.append_assoc] at chars
  exact String.toList_inj.mp (eq_of_append_mark_eq one.no_underscore other.no_underscore chars)

variable [Scalar α]

/-- The queue after an operation, and the paths that the operation returns. -/
def Operation.apply (queue : RasterQueue α) : Operation α → RasterQueue α × List String
  | .start widget => (queue.start widget, [])
  | .add layer => ((queue.add layer).1, [(queue.add layer).2])
  | .drain => (queue.drain.1, [])

def applyAll (queue : RasterQueue α) : List (Operation α) → RasterQueue α × List String
  | [] => (queue, [])
  | operation :: rest =>
      let (next, first) := operation.apply queue
      let (last, others) := applyAll next rest
      (last, first ++ others)

/-- The names in use are those of the paths returned since a widget was started. -/
structure Records (queue : RasterQueue α) (folder : String) (paths : List String) : Prop where
  folder_eq : queue.folder = folder
  mem_iff : ∀ name, name ∈ queue.names ↔ pathIn folder name ∈ paths

variable {queue : RasterQueue α} {folder : String} {paths : List String}

/-- A layer gets its usual name or the complete one. -/
theorem Records.add_snd (records : Records queue folder paths) (layer : LayerInfo α) :
    (queue.add layer).2 = pathIn folder
      (if pathIn folder (imageName layer.name) ∈ paths then completeName layer
        else imageName layer.name) := by
  have known : queue.names.contains (imageName layer.name) = true ↔
      pathIn folder (imageName layer.name) ∈ paths := by
    rw [List.contains_iff_mem, records.mem_iff]
  have opened : (queue.add layer).2 = pathIn queue.folder
      (if queue.names.contains (imageName layer.name) then completeName layer
        else imageName layer.name) := rfl
  simp only [opened, records.folder_eq, known]

theorem Records.apply (records : Records queue folder paths) {operation : Operation α}
    (within : operation.isStart = false) :
    Records (operation.apply queue).1 folder (paths ++ (operation.apply queue).2) := by
  cases operation with
  | start widget => cases within
  | drain =>
      have same : paths ++ (Operation.drain.apply queue).2 = paths := List.append_nil paths
      rw [same]
      exact ⟨records.folder_eq, records.mem_iff⟩
  | add layer =>
      refine ⟨records.folder_eq, fun name => ?_⟩
      have listed : (queue.add layer).1.names = addOnce
          (if queue.names.contains (imageName layer.name) then completeName layer
            else imageName layer.name) queue.names := rfl
      have returned : (queue.add layer).2 = pathIn folder
          (if queue.names.contains (imageName layer.name) then completeName layer
            else imageName layer.name) := by
        rw [← records.folder_eq]
        rfl
      simp only [Operation.apply, listed, returned, mem_addOnce, List.mem_append, List.mem_singleton,
        pathIn_inj, records.mem_iff]

theorem Records.applyAll {operations : List (Operation α)} :
    ∀ {queue : RasterQueue α} {paths : List String}, Records queue folder paths →
      (∀ operation ∈ operations, operation.isStart = false) →
        Records (applyAll queue operations).1 folder (paths ++ (RasterQueue.applyAll queue operations).2) := by
  induction operations with
  | nil =>
      intro queue paths records _
      simpa [RasterQueue.applyAll] using records
  | cons operation rest ih =>
      intro queue paths records within
      obtain ⟨first, others⟩ := List.forall_mem_cons.mp within
      have whole := ih (records.apply first) others
      simpa [RasterQueue.applyAll] using whole

theorem Records.nodup_apply_iff (records : Records queue folder paths) (distinct : paths.Nodup)
    (layer : LayerInfo α) :
    (paths ++ [(queue.add layer).2]).Nodup ↔
      (pathIn folder (imageName layer.name) ∈ paths → pathIn folder (completeName layer) ∉ paths) := by
  rw [records.add_snd, List.nodup_append_comm, List.singleton_append, List.nodup_cons]
  by_cases known : pathIn folder (imageName layer.name) ∈ paths
  · simp [known, distinct]
  · simp [known, distinct]

theorem applyAll_cons (queue : RasterQueue α) (operation : Operation α) (rest : List (Operation α)) :
    (applyAll queue (operation :: rest)).2 =
      (operation.apply queue).2 ++ (applyAll (operation.apply queue).1 rest).2 :=
  rfl

/-- A layer whose usual path and complete path have both been returned. -/
def Repeats (folder : String) (paths : List String) (layer : LayerInfo α) : Prop :=
  pathIn folder (imageName layer.name) ∈ paths ∧ pathIn folder (completeName layer) ∈ paths

/-- Paths repeat as soon as a layer is added whose complete name is in use as well. -/
theorem Records.nodup_iff {operations : List (Operation α)} :
    ∀ {queue : RasterQueue α} {paths : List String}, Records queue folder paths → paths.Nodup →
      (∀ operation ∈ operations, operation.isStart = false) →
        ((paths ++ (RasterQueue.applyAll queue operations).2).Nodup ↔
          ∀ earlier layer later, operations = earlier ++ .add layer :: later →
            ¬Repeats folder (paths ++ (RasterQueue.applyAll queue earlier).2) layer) := by
  induction operations with
  | nil =>
      intro queue paths _ distinct _
      simp [RasterQueue.applyAll, distinct]
  | cons operation rest ih =>
      intro queue paths records distinct within
      obtain ⟨first, others⟩ := List.forall_mem_cons.mp within
      -- The first operation decides alone whether its own path repeats one; if it does, the
      -- paths that follow cannot mend it.
      have opening (layer : LayerInfo α) (same : operation = .add layer) :
          (paths ++ (operation.apply queue).2).Nodup ↔
            ¬Repeats folder (paths ++ (RasterQueue.applyAll queue []).2) layer := by
        subst same
        simp only [RasterQueue.applyAll, List.append_nil, Repeats, not_and]
        exact records.nodup_apply_iff distinct layer
      rw [applyAll_cons, ← List.append_assoc]
      by_cases fresh : (paths ++ (operation.apply queue).2).Nodup
      · rw [ih (records.apply first) fresh others]
        constructor
        · intro apart earlier layer later cut
          cases earlier with
          | nil => exact (opening layer (List.cons.inj cut).1).mp fresh
          | cons before earlier =>
              obtain ⟨same, tail⟩ := List.cons.inj cut
              subst same
              rw [applyAll_cons, ← List.append_assoc]
              exact apart earlier layer later tail
        · intro apart earlier layer later cut
          have whole := apart (operation :: earlier) layer later (by rw [cut, List.cons_append])
          rw [applyAll_cons, ← List.append_assoc] at whole
          exact whole
      · constructor
        · intro all
          exact absurd (List.nodup_append.mp all).1 fresh
        · intro apart
          cases operation with
          | start widget => cases first
          | drain => exact absurd distinct (by simpa [Operation.apply] using fresh)
          | add layer => exact absurd ((opening layer rfl).mpr (apart [] layer rest rfl)) fresh

theorem Records.mem_applyAll {operations : List (Operation α)} :
    ∀ {queue : RasterQueue α} {paths : List String}, Records queue folder paths →
      (∀ operation ∈ operations, operation.isStart = false) →
        ∀ path ∈ (RasterQueue.applyAll queue operations).2, ∃ layer ∈ added operations,
          path = pathIn folder (imageName layer.name) ∨ path = pathIn folder (completeName layer) := by
  induction operations with
  | nil =>
      intro queue paths _ _ path absent
      cases absent
  | cons operation rest ih =>
      intro queue paths records within path member
      obtain ⟨first, others⟩ := List.forall_mem_cons.mp within
      rw [applyAll_cons, List.mem_append] at member
      rcases member with own | later
      · cases operation with
        | start widget => cases first
        | drain => cases own
        | add layer =>
            refine ⟨layer, List.mem_cons_self, ?_⟩
            have same : path = (queue.add layer).2 := List.mem_singleton.mp own
            rw [same, records.add_snd]
            split
            · exact Or.inr rfl
            · exact Or.inl rfl
      · obtain ⟨layer, listed, named⟩ := ih (records.apply first) others path later
        refine ⟨layer, ?_, named⟩
        cases operation with
        | add other => exact List.mem_cons_of_mem other listed
        | start _ | drain => exact listed

theorem Records.not_repeats {earlier : List (Operation α)} (records : Records queue folder [])
    (within : ∀ operation ∈ earlier, operation.isStart = false) {layer : LayerInfo α}
    (own : IsOwnGuid layer.guid) (all : ∀ other ∈ added earlier, IsOwnGuid other.guid)
    (different : ∀ other ∈ added earlier, other.guid ≠ layer.guid) :
    ¬Repeats folder (RasterQueue.applyAll queue earlier).2 layer := by
  rintro ⟨-, complete⟩
  obtain ⟨other, listed, usual | named⟩ := records.mem_applyAll within _ complete
  · exact completeName_ne_imageName own _ (pathIn_inj.mp usual)
  · have same := guid_eq_of_completeName_eq own (all other listed) (pathIn_inj.mp named)
    exact different other listed same.symm

/-- Between two starts the paths of the layers that are added are distinct exactly if no
layer comes when both its usual path and its complete path have been returned. This holds
if no guid looks like a part of an image name and no guid comes twice. -/
theorem paths_nodup (before operations : List (Operation α)) (widget : String)
    (within : ∀ operation ∈ operations, operation.isStart = false) :
    let queue := (applyAll empty before).1.start widget
    let paths (some : List (Operation α)) := (applyAll queue some).2
    ((paths operations).Nodup ↔
        ∀ earlier layer later, operations = earlier ++ .add layer :: later →
          ¬Repeats queue.folder (paths earlier) layer) ∧
      (((added operations).map (·.guid)).Nodup →
        (∀ layer ∈ added operations, IsOwnGuid layer.guid) → (paths operations).Nodup) := by
  intro queue paths
  have records : Records queue queue.folder [] := ⟨rfl, fun _ => by simp [queue, start]⟩
  have distinct := records.nodup_iff List.nodup_nil within
  simp only [List.nil_append] at distinct
  refine ⟨distinct, fun guids own => distinct.mpr ?_⟩
  intro earlier layer later cut
  subst cut
  simp only [added_append, added, List.map_append, List.map_cons] at guids own
  refine records.not_repeats (fun operation member => ?_) ?_ ?_ ?_
  · exact within operation (List.mem_append_left _ member)
  · exact own layer (by simp)
  · intro other member
    exact own other (by simp [member])
  · intro other member same
    have apart := (List.nodup_append.mp guids).2.2
    exact apart other.guid (List.mem_map_of_mem member) layer.guid List.mem_cons_self same

def iconLayer (guid name : String) : LayerInfo Rat :=
  LayerInfo.usual guid name .group

/-- Two icons of one name with guids that have hyphens. -/
theorem paths_nodup_icons :
    let operations := [Operation.add (iconLayer "a-1" "Icon"), .drain, .add (iconLayer "b-2" "Icon")]
    let paths := (applyAll (empty.start "Home") operations).2
    paths = ["assets/images/home/icon.png", "assets/images/home/icon_b-2.png"] ∧ paths.Nodup := by
  intro operations paths
  have within : ∀ operation ∈ operations, operation.isStart = false := by simp [operations, Operation.isStart]
  have own (guid : String) (listed : guid ∈ ["a-1", "b-2"]) : IsOwnGuid guid := by
    rcases List.mem_cons.mp listed with same | last
    · exact same ▸ ⟨⟨'-', by decide, by decide⟩, by decide⟩
    · exact List.mem_singleton.mp last ▸ ⟨⟨'-', by decide, by decide⟩, by decide⟩
  refine ⟨by decide +kernel, ?_⟩
  refine (paths_nodup [] operations "Home" within).2 (by decide) fun layer member => own _ ?_
  exact List.mem_map_of_mem (f := LayerInfo.guid) member

/-- The complete name of the last icon is the usual name of the first one. -/
theorem icons_share_path :
    let layers := [iconLayer "c" "Icon b", iconLayer "a" "Icon", iconLayer "b" "Icon"]
    let paths := (applyAll (empty.start "Home") (layers.map .add)).2
    (layers.map (·.guid)).Nodup ∧
      paths = ["assets/images/home/icon_b.png", "assets/images/home/icon.png",
        "assets/images/home/icon_b.png"] ∧
      ¬paths.Nodup := by
  decide +kernel

end RasterQueue

/-! ### The images of a widget -/

section Widgets

open RasterQueue (Operation Repeats)

variable [Scalar α]

namespace RasterQueue

theorem applyAll_append (queue : RasterQueue α) (first second : List (Operation α)) :
    (queue.applyAll (first ++ second)).1 = ((queue.applyAll first).1.applyAll second).1 := by
  induction first generalizing queue with
  | nil => rfl
  | cons operation rest ih => exact ih (operation.apply queue).1

/-- What waits has the paths that were returned. -/
theorem map_path_pending (queue : RasterQueue α) (layers : List (LayerInfo α)) :
    (queue.applyAll (layers.map .add)).1.pending.map (·.path) =
      queue.pending.map (·.path) ++ (queue.applyAll (layers.map .add)).2 := by
  induction layers generalizing queue with
  | nil => exact (List.append_nil _).symm
  | cons layer rest ih =>
      have added : (queue.add layer).1.pending.map (·.path) =
          queue.pending.map (·.path) ++ [(queue.add layer).2] := List.map_append
      refine (ih (queue.add layer).1).trans ?_
      rw [added, List.append_assoc]
      rfl

end RasterQueue

/-- A step adds the layers that it renders and does nothing else to the queue. -/
theorem Compile.Renders.raster_eq {β : Type} {step : Compile α β} {context : Context α}
    {renderings : List (Rendering α)} (renders : Compile.Renders step context renderings) :
    (step.run context).2.raster =
      (context.raster.applyAll ((renderings.map (·.node.layer)).map .add)).1 := by
  induction renders with
  | still same => exact same
  | bind one others ihFirst ihRest =>
      rw [run_bind, ihRest, ihFirst, List.map_append, List.map_append, RasterQueue.applyAll_append]
  | rendered node context => rfl

/-- A tree is built with the folder of its widget. -/
theorem raster_of_widgetTree {widget : Layer α} {start ready : Context α} {tree : Node α}
    (built : (widgetTree widget).run start = (tree, ready)) :
    ∃ name : String, ready.raster = start.raster.start name := by
  have building : Compile.Composed (fun _ => True) (fun _ => True) False True (Node.mergedRoot widget) :=
    (Node.buildRoot_composed widget).bind fun _ =>
      Compile.Composed.settings.bind fun _ => Compile.Composed.pure _
  have kept := building.raster_eq id
    ((Compile.beginWidget ((widgetClass widget.toLayerInfo).run start).1).run start).2
  have same : ready = ((widgetTree widget).run start).2 := by rw [built]
  exact ⟨_, (congrArg Context.raster same).trans kept⟩

/-- Two groups of a widget share an image exactly if one of them is written when both its
usual path and its complete path have been returned. -/
theorem compileWidget_nodup_iff {widget : Layer α} {start ready : Context α} {tree : Node α}
    (idle : start.raster.pending = []) (built : (widgetTree widget).run start = (tree, ready)) :
    (((compileWidget widget).run start).2.raster.pending.map (·.path)).Nodup ↔
      ∀ earlier layer later, tree.renders = earlier ++ layer :: later →
        ¬Repeats ready.raster.folder (ready.raster.applyAll (earlier.map .add)).2 layer := by
  obtain ⟨name, begun⟩ := raster_of_widgetTree built
  obtain ⟨renderings, renders, layers⟩ := Node.writeWith_emits tree id ready
  have waiting : ready.raster.pending = [] := by rw [begun]; exact idle
  have written : (tree.write.run ready).2.raster =
      (ready.raster.applyAll (tree.renders.map .add)).1 := by
    rw [← layers]
    exact renders.raster_eq
  have records : RasterQueue.Records ready.raster ready.raster.folder [] :=
    ⟨rfl, fun _ => by simp [begun, RasterQueue.start]⟩
  have within : ∀ operation ∈ tree.renders.map Operation.add, operation.isStart = false := by
    simp [Operation.isStart]
  have distinct := records.nodup_iff List.nodup_nil within
  simp only [List.nil_append] at distinct
  rw [compileWidget_run_raster built, written, RasterQueue.map_path_pending, waiting, List.map_nil,
    List.nil_append, distinct]
  -- Both sides split one list, of operations on the left and of their layers on the right.
  constructor
  · intro apart earlier layer later cut
    exact apart (earlier.map .add) layer (later.map .add) (by rw [cut]; simp)
  · intro apart earlier layer later cut
    obtain ⟨front, back, split, same, tail⟩ := List.map_eq_append_iff.mp cut
    obtain ⟨first, rest, head, named, -⟩ := List.map_eq_cons_iff.mp tail
    rw [head] at split
    rw [← same, ← Operation.add.inj named]
    exact apart front first rest split

end Widgets

end DesignExport
