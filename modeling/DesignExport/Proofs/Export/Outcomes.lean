import DesignExport.Proofs.Document.Lineage
import DesignExport.Proofs.Export.Isolation
set_option autoImplicit false

/-! Reports against the answers of the host. A transcribed host keeps each call with
the answer to it. What an export notes, counts and lists as written is told from this
transcript, whichever calls have failed. -/

namespace DesignExport

variable {α β γ σ : Type}

structure Exchange (α : Type) where
  call : HostCall α
  answer : Except ExportError Unit

namespace Exchange

def written? : Exchange α → Option String
  | ⟨.write name _, .ok _⟩ => some name
  | ⟨.write _ _, .error _⟩ => none
  | ⟨.render _, _⟩ => none

def files (exchanges : List (Exchange α)) : List String :=
  exchanges.filterMap written?

def failure : Exchange α → Log
  | ⟨_, .ok _⟩ => []
  | ⟨_, .error error⟩ => [⟨.error, error.message, none⟩]

end Exchange

/-- The state of a host, and what it has been asked and has answered. -/
structure Transcript (σ α : Type) where
  state : σ
  exchanges : List (Exchange α)

namespace Host

end Host

namespace Exporting

/-- From every context with a property, and whatever the host answers, the exchanges
and the notes that a step adds are related to its result and to the context
afterwards. -/
def Accounts (before : Context α → Prop) (step : Exporting (StateM (Transcript σ α)) α β)
    (after : List (Exchange α) → Log → β → Context α → Prop) : Prop :=
  ∀ (context : Context α) (world : Transcript σ α), before context →
    ∃ (exchanges : List (Exchange α)) (log : Log),
      ((step.run context).run world).2.exchanges = world.exchanges ++ exchanges ∧
        ((step.run context).run world).1.2.log = context.log ++ log ∧
        after exchanges log ((step.run context).run world).1.1
          ((step.run context).run world).1.2

namespace Accounts

variable {before : Context α → Prop} {after : List (Exchange α) → Log → β → Context α → Prop}

theorem pure {value : β} (holds : ∀ context, before context → after [] [] value context) :
    Accounts (σ := σ) before (Pure.pure value) after := by
  intro context world start
  exact ⟨[], [], (List.append_nil _).symm, (List.append_nil _).symm, holds context start⟩

theorem bind {step : Exporting (StateM (Transcript σ α)) α β}
    {next : β → Exporting (StateM (Transcript σ α)) α γ}
    {ending : List (Exchange α) → Log → γ → Context α → Prop}
    (first : Accounts before step after)
    (second : ∀ exchanges log value, Accounts (after exchanges log value) (next value)
      fun others more => ending (exchanges ++ others) (log ++ more)) :
    Accounts before (step >>= next) ending := by
  intro context world start
  obtain ⟨exchanges, log, asked, noted, middle⟩ := first context world start
  obtain ⟨others, more, later, rest, last⟩ :=
    second exchanges log _ _ ((step.run context).run world).2 middle
  rw [asked, List.append_assoc] at later
  rw [noted, List.append_assoc] at rest
  exact ⟨exchanges ++ others, log ++ more, later, rest, last⟩

/-- What is known of the steps before can be used for all that follows. -/
theorem of_fact {fact : Prop} {step : Exporting (StateM (Transcript σ α)) α β}
    (holds : fact → Accounts before step after) :
    Accounts (fun context => fact ∧ before context) step after := by
  intro context world start
  exact holds start.1 context world start.2

theorem weaken {step : Exporting (StateM (Transcript σ α)) α β}
    {ending : List (Exchange α) → Log → β → Context α → Prop} (made : Accounts before step after)
    (implies : ∀ exchanges log value context,
      after exchanges log value context → ending exchanges log value context) :
    Accounts before step ending := by
  intro context world start
  obtain ⟨exchanges, log, asked, noted, holds⟩ := made context world start
  exact ⟨exchanges, log, asked, noted, implies _ _ _ _ holds⟩

theorem compile {step : Compile α β}
    (holds : ∀ context, before context → ∃ log : Log,
      (step.run context).2.log = context.log ++ log ∧
        after [] log (step.run context).1 (step.run context).2) :
    Accounts (σ := σ) before (Exporting.compile step) after := by
  intro context world start
  obtain ⟨log, noted, holds⟩ := holds context start
  exact ⟨[], log, (List.append_nil _).symm, noted, holds⟩

end Accounts

section

variable (host : Host (StateM σ) α) {idle : Context α} {fonts : List String}
  {pending : List (RasterRequest α)}

end

end Exporting

variable [Scalar α]

namespace Exporting

variable (host : Host (StateM σ) α) {idle : Context α} {fonts : List String}
  {pending : List (RasterRequest α)}

end Exporting

namespace Document

variable (document : Document α) (settings : Settings)

end Document

end DesignExport
