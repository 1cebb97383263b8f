import DesignExport.Proofs.Compile.Keeps
import DesignExport.Proofs.Text.Search
set_option autoImplicit false

/-! Accesses that can be out of range, and steps of a compile that stop at the first one
that is. A checked step meets another step if it never stops and does the same. -/

namespace DesignExport

variable {α β γ : Type}

/-! ### Accesses -/

namespace Access

/-- The items from one index on, in front of another one. -/
def between? (items : List β) (start stop : Nat) : Option (List β) :=
  if start ≤ stop ∧ stop ≤ items.length then some ((items.take stop).drop start) else none

/-- The sum of two lengths, if a machine word has room for it. -/
def sum? (first second : Nat) : Option Nat :=
  if first + second < UInt64.size then some (first + second) else none

/-- The text in front of a byte and the text from it on. No character is cut. -/
def cutAt? : Nat → List Char → Option (List Char × List Char)
  | 0, text => some ([], text)
  | _ + 1, [] => none
  | position + 1, char :: rest =>
      if char.utf8Size ≤ position + 1 then
        (cutAt? (position + 1 - char.utf8Size) rest).map fun (before, after) => (char :: before, after)
      else none

/-- The first byte of the first occurrence of a character. -/
def position? (wanted : Char) : List Char → Option Nat
  | [] => none
  | char :: rest =>
      if wanted = char then some 0
      else (position? wanted rest).map (char.utf8Size + ·)

theorem between?_eq_some {items : List β} {start stop : Nat} (ordered : start ≤ stop)
    (inside : stop ≤ items.length) :
    between? items start stop = some ((items.take stop).drop start) :=
  if_pos ⟨ordered, inside⟩

theorem between?_length {items : List β} {start : Nat} (inside : start ≤ items.length) :
    between? items start items.length = some (items.drop start) := by
  rw [between?_eq_some inside (Nat.le_refl _), List.take_length]

theorem sum?_eq_some {first second : Nat} (bounded : first + second < UInt64.size) :
    sum? first second = some (first + second) :=
  if_pos bounded

end Access

namespace Text

theorem byteCount_cons (char : Char) (text : List Char) :
    byteCount (char :: text) = char.utf8Size + byteCount text := by
  have shifted (start : Nat) :
      text.foldl (fun total char => total + char.utf8Size) start = start + byteCount text := by
    rw [byteCount]
    induction text generalizing start with
    | nil => rfl
    | cons first rest ih =>
        rw [List.foldl_cons, List.foldl_cons, ih, ih (0 + first.utf8Size)]
        omega
  rw [byteCount, List.foldl_cons, shifted]
  omega

theorem byteCount_append (first second : List Char) :
    byteCount (first ++ second) = byteCount first + byteCount second := by
  induction first with
  | nil => simp [byteCount]
  | cons char rest ih =>
      rw [List.cons_append, byteCount_cons, byteCount_cons, ih]
      omega

end Text

namespace Access

open Text (byteCount byteCount_cons)

/-- A text can be cut wherever one of its parts ends. -/
theorem cutAt?_append (before after : List Char) :
    cutAt? (byteCount before) (before ++ after) = some (before, after) := by
  induction before with
  | nil =>
      have empty : byteCount [] = 0 := rfl
      rw [empty, cutAt?]
      rfl
  | cons char rest ih =>
      -- A character has at least one byte, so the cut is behind it.
      obtain ⟨size, positive⟩ : ∃ size, byteCount (char :: rest) = size + 1 := by
        have some := char.utf8Size_pos
        rw [byteCount_cons]
        exact ⟨char.utf8Size + byteCount rest - 1, by omega⟩
      have counted := byteCount_cons char rest
      have behind : size + 1 - char.utf8Size = byteCount rest := by omega
      have fits : char.utf8Size ≤ size + 1 := by omega
      rw [positive, List.cons_append, cutAt?, if_pos fits, behind, ih]
      rfl

theorem cutAt?_of_single {text : List Char} (single : ∀ char ∈ text, char.utf8Size = 1) {count : Nat}
    (enough : count ≤ text.length) : cutAt? count text = some (text.take count, text.drop count) := by
  have counted : byteCount (text.take count) = count := by
    have sizes (part : List Char) (inside : part ⊆ text) : byteCount part = part.length := by
      induction part with
      | nil => rfl
      | cons char rest ih =>
          rw [byteCount_cons, ih (List.subset_of_cons_subset inside),
            single char (inside List.mem_cons_self), List.length_cons]
          omega
    rw [sizes _ (List.take_subset count text), List.length_take]
    omega
  have cut := cutAt?_append (text.take count) (text.drop count)
  rwa [counted, List.take_append_drop] at cut

/-- The byte of a character is as many bytes behind the start as the text in front of it has. -/
theorem position?_eq (wanted : Char) (text : List Char) : position? wanted text =
    (Text.cutAround? [wanted] text).map fun (before, _) => byteCount before := by
  induction text with
  | nil => rfl
  | cons char rest ih =>
      rw [position?, Text.cutAround?, Text.afterStart?]
      by_cases same : wanted = char
      · rw [if_pos same, if_pos same]
        rfl
      · rw [if_neg same, if_neg same, ih]
        cases Text.cutAround? [wanted] rest with
        | none => rfl
        | some parts => simp only [Option.map_some, byteCount_cons]

end Access

/-! ### Checked steps -/

/-- A step of a compile that stops where an access is out of range. -/
abbrev Checked (α : Type) := StateT (Context α) Option

namespace Checked

/-- A step without such an access. -/
def of (step : Compile α β) : Checked α β :=
  fun context => some (step.run context)

def Meets (checked : Checked α β) (step : Compile α β) : Prop :=
  ∀ context : Context α, checked.run context = some (step.run context)

namespace Meets

theorem of (step : Compile α β) : Meets (Checked.of step) step :=
  fun _ => rfl

theorem pure (value : β) : Meets (Pure.pure value : Checked α β) (Pure.pure value) :=
  fun _ => rfl

theorem eq_of {checked : Checked α β} {step : Compile α β} (meets : Meets checked step) :
    checked = Checked.of step :=
  funext meets

theorem bind_yields {property : β → Prop} {checked : Checked α β} {step : Compile α β}
    {next : β → Checked α γ} {other : β → Compile α γ} (first : Meets checked step)
    (known : Compile.Yields step property)
    (rest : ∀ value, property value → Meets (next value) (other value)) :
    Meets (checked >>= next) (step >>= other) := by
  intro context
  have opened : (checked >>= next).run context =
      (checked.run context).bind fun result => (next result.1).run result.2 := rfl
  rw [opened, first context]
  exact rest _ (known context) _

theorem bind {checked : Checked α β} {step : Compile α β} {next : β → Checked α γ}
    {other : β → Compile α γ} (first : Meets checked step)
    (rest : ∀ value, Meets (next value) (other value)) :
    Meets (checked >>= next) (step >>= other) :=
  bind_yields first (Compile.Yields.any step) fun value _ => rest value

/-- An access in range is as good as the item. -/
theorem access {found : Option β} {value : β} {next : β → Checked α γ} {step : Compile α γ}
    (inRange : found = some value) (rest : Meets (next value) step) :
    Meets (liftM found >>= next) step := by
  intro context
  rw [inRange]
  exact rest context

theorem ite {condition : Prop} [Decidable condition] {first second : Checked α β}
    {step other : Compile α β} (yes : condition → Meets first step)
    (no : ¬condition → Meets second other) :
    Meets (if condition then first else second) (if condition then step else other) := by
  split
  case isTrue holds => exact yes holds
  case isFalse fails => exact no fails

theorem ite_bind {condition : Prop} [Decidable condition] {first second : Checked α β}
    {step other : Compile α β} {next : β → Checked α γ} {after : β → Compile α γ}
    (yes : condition → Meets first step) (no : ¬condition → Meets second other)
    (rest : ∀ value, Meets (next value) (after value)) :
    Meets (if condition then first >>= next else second >>= next)
      (if condition then step >>= after else other >>= after) :=
  ite (fun holds => (yes holds).bind rest) fun fails => (no fails).bind rest

end Meets

end Checked

end DesignExport
