import DesignExport.Shape.Markup
set_option autoImplicit false

/-! Units that remember at every level. A unit that is absorbed or framed keeps what it
remembers, and the units around it read its box there. What a unit remembers is forgotten
when its members change, so that every answer is that of a unit of which nothing was remembered. -/

namespace DesignExport

variable {α : Type}

/-- What a unit remembers. -/
structure Memo (α : Type) where
  box : Option (Rect α)
  markup : Option String
  id : Option String

def Memo.blank : Memo α :=
  ⟨none, none, none⟩

inductive MemoMember (α : Type) where
  | primitive (layer : LayerInfo α)
  /-- A unit with what it remembers. -/
  | nested (frame : Option (LayerInfo α)) (members : List (MemoMember α)) (memo : Memo α)

structure MemoUnit (α : Type) where
  frame : Option (LayerInfo α)
  members : List (MemoMember α)
  memo : Memo α

/-! ### Changes -/

namespace MemoUnit

def ofPrimitive (layer : LayerInfo α) : MemoUnit α :=
  ⟨none, [.primitive layer], .blank⟩

def asMembers (unit : MemoUnit α) : List (MemoMember α) :=
  match unit.frame with
  | none => unit.members
  | some _ => [.nested unit.frame unit.members unit.memo]

def framed (frame : LayerInfo α) (inner : MemoUnit α) : MemoUnit α :=
  ⟨some frame, inner.asMembers, .blank⟩

def push (unit : MemoUnit α) (layer : LayerInfo α) : MemoUnit α :=
  ⟨unit.frame, unit.members ++ [.primitive layer], .blank⟩

def absorb (unit other : MemoUnit α) : MemoUnit α :=
  ⟨unit.frame, unit.members ++ other.asMembers, .blank⟩

end MemoUnit

mutual

/-- A member of which nothing is remembered at any level. -/
def MemoMember.renewed : MemoMember α → MemoMember α
  | .primitive layer => .primitive layer
  | .nested frame members _ => .nested frame (renewedAll members) .blank

def renewedAll : List (MemoMember α) → List (MemoMember α)
  | [] => []
  | member :: rest => member.renewed :: renewedAll rest

end

/-- A unit with the same frame and members that is built anew. -/
def MemoUnit.renewed (unit : MemoUnit α) : MemoUnit α :=
  ⟨unit.frame, renewedAll unit.members, .blank⟩

mutual

/-- Every unit in a member has a frame. -/
def MemoMember.NestsFramed : MemoMember α → Prop
  | .primitive _ => True
  | .nested frame members _ => frame.isSome = true ∧ NestFramed members

def NestFramed : List (MemoMember α) → Prop
  | [] => True
  | member :: rest => member.NestsFramed ∧ NestFramed rest

end

/-! ### Queries -/

inductive Query where
  | viewBox
  | bounds
  | markup
  | id

/-- The queries that may have to draw. -/
def Query.renders : Query → Bool
  | .viewBox => false
  | .bounds => false
  | .markup => true
  | .id => true

inductive Answer (α : Type) where
  | box (rect : Rect α)
  | text (text : String)

section Queries

variable [Scalar α]

/-- A box in the space of the parent. -/
def Rect.outOf (frame : Option (LayerInfo α)) (box : Rect α) : Rect α :=
  match frame with
  | some frame => box.transformed frame.transform
  | none => box

mutual

/-- The bounds of a member, and the member that remembers its box. -/
def MemoMember.bounds : MemoMember α → Rect α × MemoMember α
  | .primitive layer => (layer.boundsInParent, .primitive layer)
  | .nested frame members memo =>
      match memo.box with
      | some known => (known.outOf frame, .nested frame members memo)
      | none =>
          let (bounds, asked) := boundsAmong members
          let box := boxAround bounds
          (box.outOf frame, .nested frame asked { memo with box := some box })

def boundsAmong : List (MemoMember α) → List (Rect α) × List (MemoMember α)
  | [] => ([], [])
  | member :: rest =>
      let (bounds, asked) := member.bounds
      let (others, more) := boundsAmong rest
      (bounds :: others, asked :: more)

end

mutual

def MemoMember.draw (opacityOf : Markup.OpacityOf α) : MemoMember α → String × Log
  | .primitive layer => Markup.path opacityOf layer
  | .nested frame inner _ =>
      let (body, log) := drawAmong opacityOf inner
      (frame.elim "<g>" Markup.frameOpening ++ body ++ "</g>", log)

def drawAmong (opacityOf : Markup.OpacityOf α) : List (MemoMember α) → String × Log
  | [] => ("", [])
  | first :: rest =>
      let (text, log) := first.draw opacityOf
      let (others, otherLog) := drawAmong opacityOf rest
      (text ++ others, log ++ otherLog)

end

def MemoMember.isTransformed : MemoMember α → Bool
  | .primitive layer => !layer.transform.isIdentity
  | .nested _ _ _ => false

namespace MemoUnit

def viewBox (unit : MemoUnit α) : Rect α × MemoUnit α :=
  match unit.memo.box with
  | some known => (known, unit)
  | none =>
      let (bounds, asked) := boundsAmong unit.members
      let box := boxAround bounds
      (box, { unit with members := asked, memo := { unit.memo with box := some box } })

def boundsInParent (unit : MemoUnit α) : Rect α × MemoUnit α :=
  let (box, asked) := unit.viewBox
  (box.outOf unit.frame, asked)

def render (opacityOf : Markup.OpacityOf α) (unit : MemoUnit α) : String × MemoUnit α × Log :=
  let (box, asked) := unit.viewBox
  let (body, log) := drawAmong opacityOf asked.members
  let grouped := if asked.members.any MemoMember.isTransformed then "<g>" ++ body ++ "</g>" else body
  ("<svg viewBox=\"" ++ Markup.numbers 1 [box.x, box.y, box.width, box.height] ++ "\" >" ++ grouped ++
      "</svg>",
    asked, log)

def markup (opacityOf : Markup.OpacityOf α) (unit : MemoUnit α) : String × MemoUnit α × Log :=
  match unit.memo.markup with
  | some known => (known, unit, [])
  | none =>
      let (text, asked, log) := unit.render opacityOf
      (text, { asked with memo := { asked.memo with markup := some text } }, log)

def id (opacityOf : Markup.OpacityOf α) (unit : MemoUnit α) : String × MemoUnit α × Log :=
  match unit.memo.id with
  | some known => (known, unit, [])
  | none =>
      let (text, asked, log) := unit.markup opacityOf
      (markupId text, { asked with memo := { asked.memo with id := some (markupId text) } }, log)

def ask (opacityOf : Markup.OpacityOf α) (query : Query) (unit : MemoUnit α) : Answer α × MemoUnit α × Log :=
  match query with
  | .viewBox => (.box unit.viewBox.1, unit.viewBox.2, [])
  | .bounds => (.box unit.boundsInParent.1, unit.boundsInParent.2, [])
  | .markup => (.text (unit.markup opacityOf).1, (unit.markup opacityOf).2)
  | .id => (.text (unit.id opacityOf).1, (unit.id opacityOf).2)

end MemoUnit

def ShapeUnit.ask (opacityOf : Markup.OpacityOf α) (query : Query) (unit : ShapeUnit α) :
    Answer α × ShapeUnit α × Log :=
  match query with
  | .viewBox => (.box unit.viewBox, unit.withBox, [])
  | .bounds => (.box unit.boundsInParent, unit.withBox, [])
  | .markup => (.text (unit.markup opacityOf).1, (unit.markup opacityOf).2)
  | .id => (.text (unit.id opacityOf).1, (unit.id opacityOf).2)

end Queries

/-! ### What is remembered is right -/

variable [Scalar α] (opacityOf : Markup.OpacityOf α)

/-- The markup of a unit with some members of which nothing is remembered. -/
def freshMarkup (members : List (ShapeMember α)) : String :=
  (Markup.render opacityOf (ShapeUnit.fresh none members)).1

/-- What is remembered of a unit with some members is right, and its markup is known where its
identifier is. -/
structure Memo.Recalls (memo : Memo α) (members : List (ShapeMember α)) : Prop where
  box_eq : ∀ known ∈ memo.box, known = boxAround (memberBounds members)
  markup_eq : ∀ known ∈ memo.markup, known = freshMarkup opacityOf members
  id_eq : ∀ known ∈ memo.id, known = markupId (freshMarkup opacityOf members)
  rendered : memo.id.isSome = true → memo.markup.isSome = true

theorem Memo.Recalls.blank (members : List (ShapeMember α)) : Memo.blank.Recalls opacityOf members where
  box_eq := by rintro _ ⟨⟩
  markup_eq := by rintro _ ⟨⟩
  id_eq := by rintro _ ⟨⟩
  rendered := by rintro ⟨⟩

theorem Memo.Recalls.withBox {memo : Memo α} {members : List (ShapeMember α)}
    (recalls : memo.Recalls opacityOf members) :
    ({ memo with box := some (boxAround (memberBounds members)) } : Memo α).Recalls opacityOf members :=
  { recalls with box_eq := fun _ same => (Option.some.inj same).symm }

mutual

/-- A member, and the same one without what it remembers. All that it remembers is right, and
what is nested in it has a frame. -/
inductive MemoMember.Means : MemoMember α → ShapeMember α → Prop where
  | primitive (layer : LayerInfo α) : MemoMember.Means (.primitive layer) (.primitive layer)
  | nested (frame : LayerInfo α) {members : List (MemoMember α)} {memo : Memo α} {others : List (ShapeMember α)}
      (inside : MeanAll members others) (recalls : memo.Recalls opacityOf others) :
      MemoMember.Means (.nested (some frame) members memo) (.nested frame others)

inductive MeanAll : List (MemoMember α) → List (ShapeMember α) → Prop where
  | nil : MeanAll [] []
  | cons {member : MemoMember α} {other : ShapeMember α} {rest : List (MemoMember α)}
      {others : List (ShapeMember α)} (first : MemoMember.Means member other) (more : MeanAll rest others) :
      MeanAll (member :: rest) (other :: others)

end

theorem MeanAll.append {first second : List (MemoMember α)} {others more : List (ShapeMember α)}
    (front : MeanAll opacityOf first others) (back : MeanAll opacityOf second more) :
    MeanAll opacityOf (first ++ second) (others ++ more) := by
  induction first generalizing others with
  | nil =>
      cases front
      exact back
  | cons member rest ih =>
      cases front with
      | cons own rest => exact .cons own (ih rest)

mutual

theorem MemoMember.Means.bounds : ∀ {member : MemoMember α} {other : ShapeMember α},
    member.Means opacityOf other → member.bounds.1 = other.bounds ∧ member.bounds.2.Means opacityOf other
  | .primitive layer, _, .primitive _ => by
      rw [MemoMember.bounds, ShapeMember.bounds]
      exact ⟨rfl, .primitive layer⟩
  | .nested _ members memo, _, .nested frame inside recalls => by
      rw [ShapeMember.bounds]
      unfold MemoMember.bounds
      split
      case h_1 known found =>
        -- A box that is known is not asked for again below.
        rw [recalls.box_eq known found]
        exact ⟨rfl, .nested frame inside recalls⟩
      case h_2 =>
        obtain ⟨bounds, asked⟩ := MeanAll.boundsAmong inside
        dsimp only
        rw [bounds]
        exact ⟨rfl, .nested frame asked recalls.withBox⟩

theorem MeanAll.boundsAmong : ∀ {members : List (MemoMember α)} {others : List (ShapeMember α)},
    MeanAll opacityOf members others →
      (boundsAmong members).1 = memberBounds others ∧ MeanAll opacityOf (boundsAmong members).2 others
  | [], _, .nil => ⟨by rw [DesignExport.boundsAmong, memberBounds], .nil⟩
  | member :: rest, _, .cons first more => by
      obtain ⟨own, asked⟩ := MemoMember.Means.bounds first
      obtain ⟨others, also⟩ := MeanAll.boundsAmong more
      rw [DesignExport.boundsAmong, memberBounds]
      dsimp only
      rw [own, others]
      exact ⟨rfl, .cons asked also⟩

end

mutual

theorem MemoMember.Means.draw : ∀ {member : MemoMember α} {other : ShapeMember α},
    member.Means opacityOf other → member.draw opacityOf = Markup.member opacityOf other
  | .primitive layer, _, .primitive _ => by rw [MemoMember.draw, Markup.member]
  | .nested _ members memo, _, .nested frame inside _ => by
      rw [MemoMember.draw, Markup.member, MeanAll.drawAmong inside]
      rfl

theorem MeanAll.drawAmong : ∀ {members : List (MemoMember α)} {others : List (ShapeMember α)},
    MeanAll opacityOf members others → drawAmong opacityOf members = Markup.members opacityOf others
  | [], _, .nil => by rw [DesignExport.drawAmong, Markup.members]
  | member :: rest, _, .cons first more => by
      rw [DesignExport.drawAmong, Markup.members, MemoMember.Means.draw first, MeanAll.drawAmong more]

end

theorem MeanAll.any_isTransformed {members : List (MemoMember α)} {others : List (ShapeMember α)}
    (mean : MeanAll opacityOf members others) :
    members.any MemoMember.isTransformed = Markup.isTransformed (ShapeUnit.fresh none others) := by
  induction members generalizing others with
  | nil =>
      cases mean
      rfl
  | cons member rest ih =>
      cases mean with
      | cons first more =>
          rw [List.any_cons, ih more]
          cases first <;> rfl

/-- A unit, and the same one as it is without what is remembered below it. -/
structure MemoUnit.Means (unit : MemoUnit α) (shape : ShapeUnit α) : Prop where
  frame_eq : unit.frame = shape.frame
  members : MeanAll opacityOf unit.members shape.members
  memo_eq : unit.memo = ⟨shape.knownBox, shape.knownMarkup, shape.knownId⟩
  recalls : unit.memo.Recalls opacityOf shape.members

omit opacityOf in
theorem ShapeUnit.markup_members (opacityOf : Markup.OpacityOf α) (unit : ShapeUnit α) :
    (unit.markup opacityOf).2.1.members = unit.members := by
  unfold ShapeUnit.markup
  split <;> rfl

namespace MemoUnit.Means

variable {opacityOf} {unit : MemoUnit α} {shape : ShapeUnit α}

theorem viewBox_eq (means : unit.Means opacityOf shape) :
    shape.viewBox = boxAround (memberBounds shape.members) := by
  have known : shape.knownBox = unit.memo.box := by rw [means.memo_eq]
  unfold ShapeUnit.viewBox
  rw [known]
  cases found : unit.memo.box with
  | none => rfl
  | some box => exact means.recalls.box_eq box found

theorem viewBox (means : unit.Means opacityOf shape) :
    unit.viewBox.1 = shape.viewBox ∧ unit.viewBox.2.Means opacityOf shape.withBox := by
  have box := means.viewBox_eq
  have memo := means.memo_eq
  unfold MemoUnit.viewBox
  split
  case h_1 known found =>
    have right := means.recalls.box_eq known found
    refine ⟨right.trans box.symm, means.frame_eq, means.members, ?_, means.recalls⟩
    rw [memo] at found ⊢
    rw [ShapeUnit.withBox, box, ← right]
    exact congrArg (Memo.mk · _ _) found
  case h_2 =>
    obtain ⟨bounds, asked⟩ := means.members.boundsAmong
    dsimp only
    rw [bounds, memo]
    refine ⟨box.symm, means.frame_eq, asked, ?_, ?_⟩
    · rw [ShapeUnit.withBox, box]
    · exact (memo ▸ means.recalls).withBox

theorem boundsInParent (means : unit.Means opacityOf shape) :
    unit.boundsInParent.1 = shape.boundsInParent ∧ unit.boundsInParent.2.Means opacityOf shape.withBox := by
  obtain ⟨box, asked⟩ := means.viewBox
  have around : shape.boundsInParent = shape.viewBox.outOf shape.frame := rfl
  refine ⟨?_, asked⟩
  rw [around, ← box, ← means.frame_eq]
  rfl

theorem render_eq (means : unit.Means opacityOf shape) :
    (Markup.render opacityOf shape).1 = freshMarkup opacityOf shape.members := by
  unfold freshMarkup Markup.render
  rw [means.viewBox_eq]
  rfl

theorem render (means : unit.Means opacityOf shape) :
    (unit.render opacityOf).1 = (Markup.render opacityOf shape).1 ∧
      (unit.render opacityOf).2.1.Means opacityOf shape.withBox ∧
        (unit.render opacityOf).2.2 = (Markup.render opacityOf shape).2 := by
  obtain ⟨box, asked⟩ := means.viewBox
  have drawn := asked.members.drawAmong
  have moved := asked.members.any_isTransformed
  unfold MemoUnit.render Markup.render
  dsimp only
  rw [box, drawn, moved]
  exact ⟨rfl, asked, rfl⟩

theorem markup (means : unit.Means opacityOf shape) :
    (unit.markup opacityOf).1 = (shape.markup opacityOf).1 ∧
      (unit.markup opacityOf).2.1.Means opacityOf (shape.markup opacityOf).2.1 ∧
        (unit.markup opacityOf).2.2 = (shape.markup opacityOf).2.2 := by
  have known : unit.memo.markup = shape.knownMarkup := by rw [means.memo_eq]
  unfold MemoUnit.markup ShapeUnit.markup
  rw [known]
  cases shape.knownMarkup with
  | some text => exact ⟨rfl, means, rfl⟩
  | none =>
      obtain ⟨text, asked, log⟩ := means.render
      have fresh := means.render_eq
      dsimp only
      rw [text, log]
      refine ⟨rfl, ⟨asked.frame_eq, asked.members, ?_, ?_⟩, rfl⟩
      · rw [asked.memo_eq]
      · exact { asked.recalls with
          markup_eq := fun known same => (Option.some.inj same).symm.trans fresh
          rendered := fun _ => rfl }

/-- The markup is that of a unit of which nothing is remembered, and it is known from then on. -/
theorem markup_eq (means : unit.Means opacityOf shape) :
    (unit.markup opacityOf).1 = freshMarkup opacityOf shape.members ∧
      (unit.markup opacityOf).2.1.memo.markup = some (freshMarkup opacityOf shape.members) ∧
        (unit.markup opacityOf).2.1.memo.id = unit.memo.id := by
  obtain ⟨text, asked, -⟩ := means.render
  have fresh := text.trans means.render_eq
  unfold MemoUnit.markup
  split
  case h_1 known found =>
    have right := means.recalls.markup_eq known found
    exact ⟨right, right ▸ found, rfl⟩
  case h_2 =>
    dsimp only
    rw [fresh]
    refine ⟨rfl, rfl, ?_⟩
    rw [asked.memo_eq, means.memo_eq]
    rfl

theorem id (means : unit.Means opacityOf shape) :
    (unit.id opacityOf).1 = (shape.id opacityOf).1 ∧
      (unit.id opacityOf).2.1.Means opacityOf (shape.id opacityOf).2.1 ∧
        (unit.id opacityOf).2.2 = (shape.id opacityOf).2.2 := by
  have known : unit.memo.id = shape.knownId := by rw [means.memo_eq]
  unfold MemoUnit.id ShapeUnit.id
  rw [known]
  cases shape.knownId with
  | some name => exact ⟨rfl, means, rfl⟩
  | none =>
      -- The markup may have been known already. Either way it is now.
      obtain ⟨text, asked, log⟩ := means.markup
      obtain ⟨fresh, remembered, -⟩ := means.markup_eq
      dsimp only
      have named : (shape.markup opacityOf).1 = freshMarkup opacityOf (shape.markup opacityOf).2.1.members := by
        rw [← text, fresh, shape.markup_members]
      rw [text, log]
      refine ⟨rfl, ⟨asked.frame_eq, asked.members, ?_, ?_⟩, rfl⟩
      · rw [asked.memo_eq]
      · exact { asked.recalls with
          id_eq := fun known same => (Option.some.inj same).symm.trans (congrArg markupId named)
          rendered := fun _ => Option.isSome_iff_exists.mpr ⟨_, remembered⟩ }

/-- The identifier is that of a unit of which nothing is remembered. Where it is known from then
on the markup is known too. -/
theorem id_eq (means : unit.Means opacityOf shape) :
    (unit.id opacityOf).1 = markupId (freshMarkup opacityOf shape.members) ∧
      (unit.id opacityOf).2.1.memo.markup.isSome = true ∧ (unit.id opacityOf).2.1.memo.id.isSome = true := by
  obtain ⟨text, remembered, -⟩ := means.markup_eq
  unfold MemoUnit.id
  split
  case h_1 known found =>
    have named : unit.memo.id.isSome = true := Option.isSome_iff_exists.mpr ⟨known, found⟩
    exact ⟨means.recalls.id_eq known found, means.recalls.rendered named, named⟩
  case h_2 =>
    dsimp only
    rw [text]
    exact ⟨rfl, Option.isSome_iff_exists.mpr ⟨_, remembered⟩, rfl⟩

theorem ask (means : unit.Means opacityOf shape) (query : Query) :
    (unit.ask opacityOf query).1 = (shape.ask opacityOf query).1 ∧
      (unit.ask opacityOf query).2.1.Means opacityOf (shape.ask opacityOf query).2.1 ∧
        (unit.ask opacityOf query).2.2 = (shape.ask opacityOf query).2.2 := by
  cases query with
  | viewBox => exact ⟨congrArg Answer.box means.viewBox.1, means.viewBox.2, rfl⟩
  | bounds => exact ⟨congrArg Answer.box means.boundsInParent.1, means.boundsInParent.2, rfl⟩
  | markup => exact ⟨congrArg Answer.text means.markup.1, means.markup.2⟩
  | id => exact ⟨congrArg Answer.text means.id.1, means.id.2⟩

end MemoUnit.Means

/-! ### What is forgotten -/

variable {opacityOf}

theorem MemoUnit.Means.asMembers {unit : MemoUnit α} {shape : ShapeUnit α} (means : unit.Means opacityOf shape) :
    MeanAll opacityOf unit.asMembers shape.asMembers := by
  unfold MemoUnit.asMembers ShapeUnit.asMembers
  rw [means.frame_eq]
  cases shape.frame with
  | none => exact means.members
  | some frame => exact .cons (.nested frame means.members means.recalls) .nil

theorem MeanAll.blank {frame own : Option (LayerInfo α)} {members : List (MemoMember α)}
    {others : List (ShapeMember α)} (mean : MeanAll opacityOf members others) (same : frame = own) :
    (MemoUnit.mk frame members .blank).Means opacityOf (ShapeUnit.fresh own others) :=
  ⟨same, mean, rfl, Memo.Recalls.blank opacityOf others⟩

mutual

theorem MemoMember.Means.renewed : ∀ {member : MemoMember α} {other : ShapeMember α},
    member.Means opacityOf other → member.renewed.Means opacityOf other
  | .primitive _, _, .primitive layer => .primitive layer
  | .nested _ _ _, _, .nested frame inside _ => .nested frame (MeanAll.renewedAll inside) (.blank opacityOf _)

theorem MeanAll.renewedAll : ∀ {members : List (MemoMember α)} {others : List (ShapeMember α)},
    MeanAll opacityOf members others → MeanAll opacityOf (renewedAll members) others
  | [], _, .nil => .nil
  | _ :: _, _, .cons first more => .cons (MemoMember.Means.renewed first) (MeanAll.renewedAll more)

end

mutual

theorem MemoMember.Means.nestsFramed : ∀ {member : MemoMember α} {other : ShapeMember α},
    member.Means opacityOf other → member.NestsFramed
  | .primitive _, _, .primitive _ => by
      rw [MemoMember.NestsFramed]
      trivial
  | .nested _ _ _, _, .nested _ inside _ => by
      rw [MemoMember.NestsFramed]
      exact ⟨rfl, MeanAll.nestFramed inside⟩

theorem MeanAll.nestFramed : ∀ {members : List (MemoMember α)} {others : List (ShapeMember α)},
    MeanAll opacityOf members others → NestFramed members
  | [], _, .nil => by
      rw [NestFramed]
      trivial
  | _ :: _, _, .cons first more => by
      rw [NestFramed]
      exact ⟨MemoMember.Means.nestsFramed first, MeanAll.nestFramed more⟩

end

/-! ### What is asked stays the same -/

mutual

theorem MemoMember.renewed_bounds : ∀ member : MemoMember α, member.bounds.2.renewed = member.renewed
  | .primitive _ => by rw [MemoMember.bounds]
  | .nested frame members memo => by
      unfold MemoMember.bounds
      split
      · rfl
      · dsimp only
        rw [MemoMember.renewed, MemoMember.renewed, renewedAll_boundsAmong members]

theorem renewedAll_boundsAmong : ∀ members : List (MemoMember α),
    renewedAll (boundsAmong members).2 = renewedAll members
  | [] => by rw [boundsAmong]
  | member :: rest => by
      rw [boundsAmong]
      dsimp only
      rw [renewedAll, renewedAll, member.renewed_bounds, renewedAll_boundsAmong rest]

end

namespace MemoUnit

theorem renewed_viewBox (unit : MemoUnit α) : unit.viewBox.2.renewed = unit.renewed := by
  unfold viewBox
  split
  · rfl
  · dsimp only
    rw [renewed, renewed, renewedAll_boundsAmong]

theorem renewed_markup (opacityOf : Markup.OpacityOf α) (unit : MemoUnit α) :
    (unit.markup opacityOf).2.1.renewed = unit.renewed := by
  unfold markup
  split
  · rfl
  · exact unit.renewed_viewBox

theorem renewed_id (opacityOf : Markup.OpacityOf α) (unit : MemoUnit α) :
    (unit.id opacityOf).2.1.renewed = unit.renewed := by
  unfold id
  split
  · rfl
  · exact unit.renewed_markup opacityOf

theorem renewed_ask (opacityOf : Markup.OpacityOf α) (query : Query) (unit : MemoUnit α) :
    (unit.ask opacityOf query).2.1.renewed = unit.renewed := by
  cases query with
  | viewBox => exact unit.renewed_viewBox
  | bounds => exact unit.renewed_viewBox
  | markup => exact unit.renewed_markup opacityOf
  | id => exact unit.renewed_id opacityOf

theorem ask_keeps_markup (opacityOf : Markup.OpacityOf α) (query : Query) {unit : MemoUnit α}
    (known : unit.memo.markup.isSome = true) : (unit.ask opacityOf query).2.1.memo.markup.isSome = true := by
  have boxed : unit.viewBox.2.memo.markup.isSome = true := by
    unfold viewBox
    split
    · exact known
    · exact known
  have drawn : (unit.markup opacityOf).2.1.memo.markup.isSome = true := by
    unfold markup
    split
    · exact known
    · rfl
  cases query with
  | viewBox => exact boxed
  | bounds => exact boxed
  | markup => exact drawn
  | id =>
      change (unit.id opacityOf).2.1.memo.markup.isSome = true
      unfold id
      split
      · exact known
      · exact drawn

theorem Means.ask_renders {unit : MemoUnit α} {shape : ShapeUnit α} (means : unit.Means opacityOf shape)
    {query : Query} (renders : query.renders = true) :
    (unit.ask opacityOf query).2.1.memo.markup.isSome = true := by
  cases query with
  | viewBox => cases renders
  | bounds => cases renders
  | markup => exact Option.isSome_iff_exists.mpr ⟨_, means.markup_eq.2.1⟩
  | id => exact means.id_eq.2.1

theorem ask_silent (opacityOf : Markup.OpacityOf α) {query : Query} {unit : MemoUnit α}
    (known : query.renders = true → unit.memo.markup.isSome = true) : (unit.ask opacityOf query).2.2 = [] := by
  have silent (rendered : unit.memo.markup.isSome = true) : (unit.markup opacityOf).2.2 = [] := by
    obtain ⟨text, found⟩ := Option.isSome_iff_exists.mp rendered
    unfold markup
    rw [found]
  cases query with
  | viewBox => rfl
  | bounds => rfl
  | markup => exact silent (known rfl)
  | id =>
      change (unit.id opacityOf).2.2 = []
      unfold id
      split
      · rfl
      · exact silent (known rfl)

/-- The same frame and the same members have the same answers, whatever is remembered. -/
theorem Means.answer_eq {unit twin : MemoUnit α} {shape other : ShapeUnit α} (means : unit.Means opacityOf shape)
    (also : twin.Means opacityOf other) (frame : shape.frame = other.frame)
    (members : shape.members = other.members) (query : Query) :
    (unit.ask opacityOf query).1 = (twin.ask opacityOf query).1 := by
  have boxes : unit.viewBox.1 = twin.viewBox.1 := by
    rw [means.viewBox.1, also.viewBox.1, means.viewBox_eq, also.viewBox_eq, members]
  cases query with
  | viewBox => exact congrArg Answer.box boxes
  | bounds =>
      have frames : unit.frame = twin.frame := by rw [means.frame_eq, also.frame_eq, frame]
      change Answer.box (unit.viewBox.1.outOf unit.frame) = Answer.box (twin.viewBox.1.outOf twin.frame)
      rw [boxes, frames]
  | markup =>
      change Answer.text (unit.markup opacityOf).1 = Answer.text (twin.markup opacityOf).1
      rw [means.markup_eq.1, also.markup_eq.1, members]
  | id =>
      change Answer.text (unit.id opacityOf).1 = Answer.text (twin.id opacityOf).1
      rw [means.id_eq.1, also.id_eq.1, members]

theorem Means.renewed {unit : MemoUnit α} {shape : ShapeUnit α} (means : unit.Means opacityOf shape) :
    unit.renewed.Means opacityOf (ShapeUnit.fresh shape.frame shape.members) :=
  means.members.renewedAll.blank means.frame_eq

theorem Means.answer_renewed {unit : MemoUnit α} {shape : ShapeUnit α} (means : unit.Means opacityOf shape)
    (query : Query) : (unit.ask opacityOf query).1 = (unit.renewed.ask opacityOf query).1 :=
  means.answer_eq means.renewed rfl rfl query

end MemoUnit

end DesignExport
