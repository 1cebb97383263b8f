import DesignExport.CommandLine.Manifest
import DesignExport.Proofs.Export.Isolation
import DesignExport.Proofs.Export.Trees
import DesignExport.Proofs.Expression.Renders
set_option autoImplicit false

/-! Renders on their way to the manifest. A widget asks for one render for each group
that it shows as an image, in the order in which the groups are written. The host adds
the requests of each widget to its list, and whenever it does it writes all of them. -/

namespace DesignExport

variable {α σ : Type}

namespace HostCall

/-- The requests among calls, in order. -/
def requests (calls : List (HostCall α)) : List (RasterRequest α) :=
  calls.flatMap fun call =>
    match call with
    | .write _ _ => []
    | .render requests => requests

end HostCall

/-! ### Replaying calls -/

namespace Host

variable (host : Host (StateT Manifest (StateM σ)) Float)

/-- What a host that keeps a manifest answers to a call, and what it has then. -/
def answer (call : HostCall Float) (state : Manifest × σ) :
    Except ExportError Unit × Manifest × σ :=
  let step := match call with
    | .write name text => host.write name text
    | .render requests => host.render requests
  let ((reply, manifest), world) := (step.run state.1).run state.2
  (reply, manifest, world)

/-- What a host has after some calls. -/
def replay (calls : List (HostCall Float)) (state : Manifest × σ) : Manifest × σ :=
  calls.foldl (fun found call => (host.answer call found).2) state

theorem replay_append (first second : List (HostCall Float)) (state : Manifest × σ) :
    host.replay (first ++ second) state = host.replay second (host.replay first state) :=
  List.foldl_append

/-- The same host, with its manifest as a part of its state. -/
def packed : Host (StateM (Manifest × σ)) Float where
  write name text := fun state => host.answer (.write name text) state
  render requests := fun state => host.answer (.render requests) state

end Host

/-- Steps that do what some calls do, and steps that make these calls under
observation. -/
def Correspondence.replaying (host : Host (StateT Manifest (StateM σ)) Float) :
    Correspondence (StateT Manifest (StateM σ)) (StateM (Watched (Manifest × σ) Float)) where
  Holds step other := ∀ (manifest : Manifest) (world : σ) (calls : List (HostCall Float)),
    let result := (step.run manifest).run world
    ∃ more : List (HostCall Float),
      other.run ⟨(manifest, world), calls⟩ =
          (result.1.1, ⟨(result.1.2, result.2), calls ++ more⟩) ∧
        host.replay more (manifest, world) = (result.1.2, result.2)
  pure value manifest world calls := ⟨[], by rw [List.append_nil]; rfl, rfl⟩
  bind := by
    intro β γ first second next other steps rest manifest world calls
    -- The calls of the rest are replayed from where those of the first step end.
    obtain ⟨more, made, replayed⟩ := steps manifest world calls
    obtain ⟨others, later, last⟩ := rest ((first.run manifest).run world).1.1
      ((first.run manifest).run world).1.2 ((first.run manifest).run world).2 (calls ++ more)
    refine ⟨more ++ others, ?_, ?_⟩
    · have opened : (second >>= other).run ⟨(manifest, world), calls⟩ =
          (other (second.run ⟨(manifest, world), calls⟩).1).run
            (second.run ⟨(manifest, world), calls⟩).2 := rfl
      rw [opened, made, ← List.append_assoc]
      exact later
    · rw [host.replay_append, replayed]
      exact last

theorem Host.watched_replaying (host : Host (StateT Manifest (StateM σ)) Float) :
    (Correspondence.replaying host).Hosts host host.packed.watched where
  write name text _ _ _ := ⟨[.write name text], rfl, rfl⟩
  render requests _ _ _ := ⟨[.render requests], rfl, rfl⟩

namespace Store

variable (store : Store (StateM σ)) (folder path : String)

theorem run_bind {β γ : Type} (step : StateM σ β) (next : β → StateM σ γ) (world : σ) :
    (step >>= next).run world = (next (step.run world).1).run (step.run world).2 :=
  rfl

end Store

/-! ### The renders of an export -/

section Widgets

variable [Scalar α]

theorem compileWidget_run_raster {widget : Layer α} {start ready : Context α} {tree : Node α}
    (built : (widgetTree widget).run start = (tree, ready)) :
    ((compileWidget widget).run start).2.raster = (tree.write.run ready).2.raster := by
  have code : ((compileWidget widget).run start).2.raster =
      ((widgetCode widget ((widgetClass widget.toLayerInfo).run start).1).run start).2.raster := by
    have opened : (compileWidget widget).run start = StateT.run
        (if ((widgetCode widget ((widgetClass widget.toLayerInfo).run start).1).run start).1.1.isEmpty
          then pure (.error (.nothingToExport ((widgetClass widget.toLayerInfo).run start).1))
          else do
            let nullSafe := (← Compile.settings).nullSafe
            pure (.ok (SourceFile.ofWidget ((widgetClass widget.toLayerInfo).run start).1
              ((widgetCode widget ((widgetClass widget.toLayerInfo).run start).1).run start).1.1
              ((widgetCode widget ((widgetClass widget.toLayerInfo).run start).1).run start).1.2
              nullSafe)))
        ((widgetCode widget ((widgetClass widget.toLayerInfo).run start).1).run start).2 := rfl
    rw [opened]
    split <;> rfl
  have written : ((widgetCode widget ((widgetClass widget.toLayerInfo).run start).1).run start).2.raster =
      (((widgetTree widget).run start).1.write.run ((widgetTree widget).run start).2).2.raster := rfl
  rw [code, written, built]

namespace Document

variable (document : Document α) (settings : Settings)

end Document

end Widgets

end DesignExport
