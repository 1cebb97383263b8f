import DesignExport.Proofs.Shape.Memo
import Mathlib.Logic.Function.Basic
set_option autoImplicit false

/-! Histories of shape units. Units are made, changed and asked in any order, and what they
remember along the way never shows in their answers. -/

namespace DesignExport

variable {α : Type}

/-- What can be done with units of some kind. -/
structure UnitOps (α U : Type) where
  ofPrimitive : LayerInfo α → U
  push : U → LayerInfo α → U
  absorb : U → U → U
  framed : LayerInfo α → U → U
  ask : Query → U → Answer α × U × Log

def memoOps [Scalar α] (opacityOf : Markup.OpacityOf α) : UnitOps α (MemoUnit α) :=
  ⟨.ofPrimitive, .push, .absorb, .framed, MemoUnit.ask opacityOf⟩

def shapeOps [Scalar α] (opacityOf : Markup.OpacityOf α) : UnitOps α (ShapeUnit α) :=
  ⟨.ofPrimitive, .push, .absorb, .framed, ShapeUnit.ask opacityOf⟩

/-- One step with units in numbered slots. A unit that is absorbed is used up. -/
inductive UnitStep (α : Type) where
  | create (slot : Nat) (layer : LayerInfo α)
  | copy (slot target : Nat)
  | push (slot : Nat) (layer : LayerInfo α)
  | absorb (slot other : Nat)
  | framed (slot : Nat) (frame : LayerInfo α)
  | ask (slot : Nat) (query : Query)

/-- The unit in a slot is not changed, but it may be asked. -/
def UnitStep.Spares (slot : Nat) : UnitStep α → Prop
  | .create target _ => slot ≠ target
  | .copy _ target => slot ≠ target
  | .push target _ => slot ≠ target
  | .absorb target other => slot ≠ target ∧ slot ≠ other
  | .framed target _ => slot ≠ target
  | .ask _ _ => True

abbrev Pool (U : Type) := Nat → Option U

def Pool.empty {U : Type} : Pool U :=
  fun _ => none

namespace UnitOps

variable {U V : Type}

/-- What a step makes of some units, and what it answers and logs. A step with units that are
not there does nothing. -/
def step (ops : UnitOps α U) (pool : Pool U) : UnitStep α → Pool U × Option (Answer α × Log)
  | .create slot layer => (Function.update pool slot (some (ops.ofPrimitive layer)), none)
  | .copy slot target =>
      match pool slot with
      | some unit => (Function.update pool target (some unit), none)
      | none => (pool, none)
  | .push slot layer => (Function.update pool slot ((pool slot).map (ops.push · layer)), none)
  | .absorb slot other =>
      match pool slot, pool other with
      | some unit, some used =>
          -- A unit cannot be used up by itself.
          if slot = other then (pool, none)
          else (Function.update (Function.update pool other none) slot (some (ops.absorb unit used)), none)
      | _, _ => (pool, none)
  | .framed slot frame => (Function.update pool slot ((pool slot).map (ops.framed frame)), none)
  | .ask slot query =>
      match pool slot with
      | some unit =>
          let (answer, asked, log) := ops.ask query unit
          (Function.update pool slot (some asked), some (answer, log))
      | none => (pool, none)

def run (ops : UnitOps α U) (pool : Pool U) :
    List (UnitStep α) → Pool U × List (Option (Answer α × Log))
  | [] => (pool, [])
  | step :: rest =>
      let (next, answer) := ops.step pool step
      let (last, answers) := ops.run next rest
      (last, answer :: answers)

/-- Units of two kinds stay alike in all that is done with them, and they answer alike. -/
structure Simulates (first : UnitOps α U) (second : UnitOps α V) (alike : U → V → Prop) : Prop where
  ofPrimitive : ∀ layer, alike (first.ofPrimitive layer) (second.ofPrimitive layer)
  push : ∀ {unit other}, alike unit other → ∀ layer, alike (first.push unit layer) (second.push other layer)
  absorb : ∀ {unit other used gone}, alike unit other → alike used gone →
    alike (first.absorb unit used) (second.absorb other gone)
  framed : ∀ {unit other}, alike unit other → ∀ frame, alike (first.framed frame unit) (second.framed frame other)
  ask : ∀ {unit other}, alike unit other → ∀ query,
    (first.ask query unit).1 = (second.ask query other).1 ∧
      alike (first.ask query unit).2.1 (second.ask query other).2.1 ∧
        (first.ask query unit).2.2 = (second.ask query other).2.2

def Alike (alike : U → V → Prop) (pool : Pool U) (others : Pool V) : Prop :=
  ∀ slot, Option.Rel alike (pool slot) (others slot)

theorem Alike.update {alike : U → V → Prop} {pool : Pool U} {others : Pool V} (slots : Alike alike pool others)
    (slot : Nat) {unit : Option U} {other : Option V} (same : Option.Rel alike unit other) :
    Alike alike (Function.update pool slot unit) (Function.update others slot other) := by
  intro place
  rw [Function.update_apply, Function.update_apply]
  split
  · exact same
  · exact slots place

theorem Alike.both {alike : U → V → Prop} {pool : Pool U} {others : Pool V} (slots : Alike alike pool others)
    (slot : Nat) : (pool slot = none ∧ others slot = none) ∨
      ∃ unit other, pool slot = some unit ∧ others slot = some other ∧ alike unit other := by
  have same := slots slot
  cases found : pool slot with
  | none =>
      cases also : others slot with
      | none => exact .inl ⟨rfl, rfl⟩
      | some other =>
          rw [found, also] at same
          cases same
  | some unit =>
      cases also : others slot with
      | none =>
          rw [found, also] at same
          cases same
      | some other =>
          rw [found, also] at same
          cases same with
          | some same => exact .inr ⟨unit, other, rfl, rfl, same⟩

theorem Simulates.step {first : UnitOps α U} {second : UnitOps α V} {alike : U → V → Prop}
    (simulates : Simulates first second alike) {pool : Pool U} {others : Pool V}
    (slots : Alike alike pool others) (step : UnitStep α) :
    (first.step pool step).2 = (second.step others step).2 ∧
      Alike alike (first.step pool step).1 (second.step others step).1 := by
  cases step with
  | create slot layer => exact ⟨rfl, slots.update slot (.some (simulates.ofPrimitive layer))⟩
  | copy slot target =>
      simp only [UnitOps.step]
      rcases slots.both slot with ⟨found, also⟩ | ⟨unit, other, found, also, same⟩ <;> rw [found, also]
      · exact ⟨rfl, slots⟩
      · exact ⟨rfl, slots.update target (.some same)⟩
  | push slot layer =>
      simp only [UnitOps.step]
      rcases slots.both slot with ⟨found, also⟩ | ⟨unit, other, found, also, same⟩ <;> rw [found, also]
      · exact ⟨trivial, slots.update slot .none⟩
      · exact ⟨trivial, slots.update slot (.some (simulates.push same layer))⟩
  | absorb slot other =>
      simp only [UnitOps.step]
      rcases slots.both slot with ⟨found, also⟩ | ⟨unit, twin, found, also, same⟩ <;> rw [found, also]
      · exact ⟨rfl, slots⟩
      · rcases slots.both other with ⟨lost, gone⟩ | ⟨used, taken, lost, gone, equal⟩ <;> rw [lost, gone]
        · exact ⟨rfl, slots⟩
        · dsimp only
          split
          · exact ⟨rfl, slots⟩
          · exact ⟨rfl, (slots.update other .none).update slot (.some (simulates.absorb same equal))⟩
  | framed slot frame =>
      simp only [UnitOps.step]
      rcases slots.both slot with ⟨found, also⟩ | ⟨unit, other, found, also, same⟩ <;> rw [found, also]
      · exact ⟨trivial, slots.update slot .none⟩
      · exact ⟨trivial, slots.update slot (.some (simulates.framed same frame))⟩
  | ask slot query =>
      simp only [UnitOps.step]
      rcases slots.both slot with ⟨found, also⟩ | ⟨unit, other, found, also, same⟩ <;> rw [found, also]
      · exact ⟨rfl, slots⟩
      · obtain ⟨answers, asked, logs⟩ := simulates.ask same query
        dsimp only
        rw [answers, logs]
        exact ⟨rfl, slots.update slot (.some asked)⟩

theorem Simulates.run {first : UnitOps α U} {second : UnitOps α V} {alike : U → V → Prop}
    (simulates : Simulates first second alike) (steps : List (UnitStep α)) :
    ∀ {pool : Pool U} {others : Pool V}, Alike alike pool others →
      (first.run pool steps).2 = (second.run others steps).2 ∧
        Alike alike (first.run pool steps).1 (second.run others steps).1 := by
  induction steps with
  | nil => exact fun slots => ⟨rfl, slots⟩
  | cons step rest ih =>
      intro pool others slots
      obtain ⟨answer, next⟩ := simulates.step slots step
      obtain ⟨answers, last⟩ := ih next
      rw [UnitOps.run, UnitOps.run]
      dsimp only
      rw [answer, answers]
      exact ⟨rfl, last⟩

/-- What a property of units keeps when they are asked holds of a unit that no step changes. -/
theorem step_keeps (ops : UnitOps α U) {holds : U → Prop}
    (asked : ∀ query unit, holds unit → holds (ops.ask query unit).2.1) {pool : Pool U} {slot : Nat}
    {step : UnitStep α} (spares : step.Spares slot) (known : ∃ unit, pool slot = some unit ∧ holds unit) :
    ∃ unit, (ops.step pool step).1 slot = some unit ∧ holds unit := by
  obtain ⟨unit, found, own⟩ := known
  have kept {target : Nat} (apart : slot ≠ target) (pool : Pool U) (changed : Option U) :
      Function.update pool target changed slot = pool slot :=
    Function.update_of_ne apart _ _
  cases step with
  | create target layer => exact ⟨unit, (kept spares _ _).trans found, own⟩
  | copy source target =>
      simp only [UnitOps.step]
      split
      · exact ⟨unit, (kept spares _ _).trans found, own⟩
      · exact ⟨unit, found, own⟩
  | push target layer => exact ⟨unit, (kept spares _ _).trans found, own⟩
  | absorb target other =>
      simp only [UnitOps.step]
      split
      · split
        · exact ⟨unit, found, own⟩
        · refine ⟨unit, ?_, own⟩
          dsimp only
          rw [kept spares.1, kept spares.2, found]
      · exact ⟨unit, found, own⟩
  | framed target frame => exact ⟨unit, (kept spares _ _).trans found, own⟩
  | ask target query =>
      simp only [UnitOps.step]
      by_cases same : slot = target
      · -- The unit is asked itself, which is all that can happen to it.
        subst same
        rw [found]
        exact ⟨_, Function.update_self _ _ _, asked query unit own⟩
      · split
        · exact ⟨unit, (kept same _ _).trans found, own⟩
        · exact ⟨unit, found, own⟩

theorem run_keeps (ops : UnitOps α U) {holds : U → Prop}
    (asked : ∀ query unit, holds unit → holds (ops.ask query unit).2.1) {slot : Nat} {steps : List (UnitStep α)}
    (spare : ∀ step ∈ steps, step.Spares slot) :
    ∀ {pool : Pool U}, (∃ unit, pool slot = some unit ∧ holds unit) →
      ∃ unit, (ops.run pool steps).1 slot = some unit ∧ holds unit := by
  induction steps with
  | nil => exact fun known => known
  | cons step rest ih =>
      intro pool known
      obtain ⟨own, others⟩ := List.forall_mem_cons.mp spare
      exact ih others (step_keeps ops asked own known)

end UnitOps

/-! ### Units that remember -/

variable [Scalar α] {opacityOf : Markup.OpacityOf α}

theorem memoOps_simulates (opacityOf : Markup.OpacityOf α) :
    UnitOps.Simulates (memoOps opacityOf) (shapeOps opacityOf) (MemoUnit.Means opacityOf) where
  ofPrimitive layer := MeanAll.blank (.cons (.primitive layer) .nil) rfl
  push means layer := (means.members.append opacityOf (.cons (.primitive layer) .nil)).blank means.frame_eq
  absorb means also := (means.members.append opacityOf also.asMembers).blank means.frame_eq
  framed means _ := means.asMembers.blank rfl
  ask means query := means.ask query

namespace MemoUnit

/-- What is left of a unit that was asked and has not changed since. -/
structure Asked (opacityOf : Markup.OpacityOf α) (query : Query) (unit later : MemoUnit α) : Prop where
  renewed_eq : later.renewed = unit.renewed
  means : ∃ shape, later.Means opacityOf shape
  known : query.renders = true → later.memo.markup.isSome = true

theorem Means.asked {unit : MemoUnit α} {shape : ShapeUnit α} (means : unit.Means opacityOf shape)
    (query : Query) : Asked opacityOf query unit (unit.ask opacityOf query).2.1 where
  renewed_eq := unit.renewed_ask opacityOf query
  means := ⟨_, (means.ask query).2.1⟩
  known := means.ask_renders

theorem Asked.ask {query : Query} {unit later : MemoUnit α} (asked : Asked opacityOf query unit later)
    (next : Query) : Asked opacityOf query unit (later.ask opacityOf next).2.1 := by
  obtain ⟨shape, means⟩ := asked.means
  exact {
    renewed_eq := (later.renewed_ask opacityOf next).trans asked.renewed_eq
    means := ⟨_, (means.ask next).2.1⟩
    known := fun renders => ask_keeps_markup opacityOf next (asked.known renders) }

theorem Asked.answer_eq {query : Query} {unit later : MemoUnit α} {shape : ShapeUnit α}
    (asked : Asked opacityOf query unit later) (means : unit.Means opacityOf shape) (again : Query) :
    (later.ask opacityOf again).1 = (unit.ask opacityOf again).1 := by
  obtain ⟨other, also⟩ := asked.means
  rw [also.answer_renewed, asked.renewed_eq, ← means.answer_renewed]

/-- After any steps, units that remember at every level have answered and logged what shape units
do. Each of them answers as one that is built anew with its frame and its members, its identifier
is that of its markup, and every unit nested in it has a frame. A query that is repeated while its
unit is not changed has the same answer and logs nothing, and neither does a query for the
identifier behind one for the markup, or the other way round. -/
theorem run_answers (opacityOf : Markup.OpacityOf α) (steps : List (UnitStep α)) :
    let ops := memoOps opacityOf
    let done := ops.run Pool.empty steps
    done.2 = ((shapeOps opacityOf).run Pool.empty steps).2 ∧
      ∀ slot unit, done.1 slot = some unit →
        (∀ query, (unit.ask opacityOf query).1 = (unit.renewed.ask opacityOf query).1) ∧
          (unit.id opacityOf).1 = markupId (unit.markup opacityOf).1 ∧ NestFramed unit.members ∧
            ∀ (query again : Query) (between : List (UnitStep α)), (∀ step ∈ between, step.Spares slot) →
              (query.renders = true ∨ again.renders = false) →
                ∃ later, (ops.run (ops.step done.1 (.ask slot query)).1 between).1 slot = some later ∧
                  later.renewed = unit.renewed ∧
                  (later.ask opacityOf again).1 = (unit.ask opacityOf again).1 ∧
                  (later.ask opacityOf again).2.2 = [] := by
  intro ops done
  have started : UnitOps.Alike (MemoUnit.Means opacityOf) Pool.empty Pool.empty := fun _ => .none
  obtain ⟨answers, alike⟩ := (memoOps_simulates opacityOf).run steps started
  refine ⟨answers, fun slot unit found => ?_⟩
  obtain ⟨shape, means⟩ : ∃ shape, unit.Means opacityOf shape := by
    rcases alike.both slot with ⟨absent, -⟩ | ⟨own, shape, present, -, means⟩
    · cases found.symm.trans absent
    · cases found.symm.trans present
      exact ⟨shape, means⟩
  refine ⟨means.answer_renewed, ?_, means.members.nestFramed, fun query again between spare silent => ?_⟩
  · rw [means.id_eq.1, means.markup_eq.1]
  · have first : (ops.step done.1 (.ask slot query)).1 slot = some (unit.ask opacityOf query).2.1 := by
      simp only [UnitOps.step, found]
      exact Function.update_self _ _ _
    have keeps (next : Query) (later : MemoUnit α) (asked : Asked opacityOf query unit later) :
        Asked opacityOf query unit (ops.ask next later).2.1 := asked.ask next
    obtain ⟨later, present, asked⟩ := UnitOps.run_keeps ops keeps spare ⟨_, first, means.asked query⟩
    refine ⟨later, present, asked.renewed_eq, asked.answer_eq means again, ask_silent opacityOf fun renders => ?_⟩
    -- A query that renders is one after another that did.
    rcases silent with drawn | quiet
    · exact asked.known drawn
    · exact absurd renders (by rw [quiet]; exact Bool.false_ne_true)

end MemoUnit

end DesignExport
