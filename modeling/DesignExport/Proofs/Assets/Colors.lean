import DesignExport.Assets.Colors
import DesignExport.Proofs.Table
import Mathlib.Data.List.Basic
set_option autoImplicit false

/-! The class of shared colours. It declares the first asset of each name that can be expressed,
and with them lists of those that are numbered: a numbered name is its base with a numeral
behind it, and the names of a list have the numerals from zero on, without a gap. What the class
does not declare is told. -/

namespace DesignExport.ColorClass

/-! ### Numbered names -/

theorem splitNumber_eq : ∀ name : List Char,
    name = (splitNumber name).1 ++ (splitNumber name).2 ∧ (splitNumber name).2.all Char.isDigit = true
  | [] => ⟨rfl, rfl⟩
  | char :: rest => by
      rw [splitNumber]
      split
      case isTrue numeral => exact ⟨rfl, numeral⟩
      case isFalse =>
        obtain ⟨parts, numeral⟩ := splitNumber_eq rest
        exact ⟨congrArg (char :: ·) parts, numeral⟩

/-- A name is a base with a numeral behind it. -/
def IsNumbered (name base : String) (number : Nat) : Prop :=
  ∃ digits : List Char, name = base ++ String.ofList digits ∧ digits ≠ [] ∧
    digits.all Char.isDigit = true ∧ numberOf digits = number

theorem isNumbered_of_numbered? {name base : String} {number : Nat}
    (numbered : numbered? name = some (base, number)) : IsNumbered name base number := by
  unfold numbered? at numbered
  dsimp only at numbered
  split at numbered
  case isTrue => cases numbered
  case isFalse valid =>
    cases numbered
    obtain ⟨parts, numeral⟩ := splitNumber_eq name.toList
    refine ⟨(splitNumber name.toList).2, ?_, fun empty => valid ?_, numeral, rfl⟩
    · rw [← String.ofList_append, ← parts, String.ofList_toList]
    · rw [empty]
      rfl

namespace NumberedList

variable {list : NumberedList} {number : Nat} {name : String}

theorem mem_of_member? (found : list.member? number = some name) : (number, name) ∈ list.members := by
  obtain ⟨⟨own, value⟩, first, same⟩ := Option.map_eq_some_iff.mp found
  have numbered : own = number := by simpa using List.find?_some first
  cases same
  rw [← numbered]
  exact List.mem_of_find?_eq_some first

theorem mem_of_mem_insert {entry : Nat × String} (member : entry ∈ (list.insert number name).members) :
    entry = (number, name) ∨ entry ∈ list.members := by
  rcases List.mem_cons.mp member with new | old
  · exact Or.inl new
  · exact Or.inr (List.mem_filter.mp old).1

/-- The names of a run follow each other by number. -/
theorem member?_of_getElem?_run : ∀ {most start index : Nat},
    (list.run most start)[index]? = some name → list.member? (start + index) = some name
  | 0, _, _, found => by cases found
  | most + 1, start, index, found => by
      rw [run] at found
      split at found
      case h_1 first known =>
        cases index with
        | zero =>
            cases found
            exact known
        | succ index =>
            rw [List.getElem?_cons_succ] at found
            have later := member?_of_getElem?_run found
            rwa [Nat.add_right_comm] at later
      case h_2 => cases found

theorem member?_of_getElem?_names {index : Nat} (found : list.names[index]? = some name) :
    list.member? index = some name := by
  have known := member?_of_getElem?_run found
  rwa [Nat.zero_add] at known

/-- With the members of zero and one there are two names at least. -/
theorem two_le_length_names {first second : String} (zero : list.member? 0 = some first)
    (one : list.member? 1 = some second) : 2 ≤ list.names.length := by
  have long : 2 ≤ list.members.length := by
    have inZero := mem_of_member? zero
    have inOne := mem_of_member? one
    match members : list.members with
    | [] =>
        rw [members] at inZero
        exact absurd inZero List.not_mem_nil
    | [only] =>
        rw [members, List.mem_singleton] at inZero inOne
        rw [← inZero] at inOne
        cases inOne
    | _ :: _ :: _ => simp
  obtain ⟨more, enough⟩ := Nat.exists_eq_add_of_le' long
  rw [names, enough, run, zero]
  dsimp only
  rw [Nat.zero_add, run, one]
  simp

end NumberedList

/-! ### What the class declares -/

def MemberKind.types : MemberKind → List String
  | .color => ["Color"]
  | .gradient => ["LinearGradient", "RadialGradient"]

structure Constant where
  name : String
  kind : MemberKind
  type : String
  value : String
deriving DecidableEq

def Constant.line (constant : Constant) : String :=
  "  static const " ++ constant.type ++ " " ++ constant.name ++ " = " ++ constant.value ++ ";"

structure ListConstant where
  base : String
  kind : MemberKind
  names : List String
deriving DecidableEq

def ListConstant.line (list : ListConstant) : String :=
  "  static const List<" ++ list.kind.listType ++ "> " ++ list.base ++ " = const [" ++
    String.intercalate ", " list.names ++ "];"

/-- The lines of a class, the constants first. -/
def classLines (className : String) (constants : List Constant) (lists : List ListConstant) :
    List String :=
  [SourceFile.materialImport, "", "class " ++ className ++ " \x7b"] ++ constants.map Constant.line ++
    (if lists.isEmpty then [] else "" :: lists.map ListConstant.line) ++ ["\x7d", ""]

def warning (message : String) : Diagnostic :=
  ⟨.warning, message, none⟩

variable {α : Type} [Scalar α]

/-- The constant that an asset can be expressed by. -/
def constant? (asset : ColorAsset α) : Option Constant :=
  (AssetNaming.member? asset.name).bind fun name =>
    match asset.color, asset.gradient with
    | some color, _ => some ⟨name, .color, "Color", Dart.colorLiteral color (1.0 : α)⟩
    | none, some fill => (gradient? fill).map fun (type, value) => ⟨name, .gradient, type, value⟩
    | none, none => none

/-- An asset with some assets in front of it. It is declared if no other one of its name is in
front of it and it can be expressed; otherwise there is a warning with its name. -/
def IsAccountedFor (before : List (ColorAsset α)) (asset : ColorAsset α) (name : String)
    (constants : List Constant) (log : Log) : Prop :=
  if name ∈ (before.filterMap constant?).map (·.name) then
    warning ("Duplicate color asset name: " ++ name) ∈ log
  else
    match constant? asset with
    | some constant => constant ∈ constants
    | none => ∃ fill, asset.gradient = some fill ∧
        warning ("Unsupported " ++ fill.label ++ " in color asset '" ++ name ++ "'") ∈ log

/-- The constants and the log that come of some assets. -/
structure Declares (assets : List (ColorAsset α)) (constants : List Constant) (log : Log) : Prop where
  distinct : (constants.map (·.name)).Nodup
  ordered : constants.Sublist (assets.filterMap constant?)
  /-- Of the assets that can be expressed the first one of each name is declared. -/
  first : ∀ constant, constant ∈ constants ↔
    (assets.filterMap constant?).find? (·.name = constant.name) = some constant
  /-- Nothing with a usable name and a colour or a gradient is passed over in silence. -/
  accounted : ∀ before asset after name, assets = before ++ asset :: after →
    AssetNaming.member? asset.name = some name → asset.color.isSome ∨ asset.gradient.isSome →
      IsAccountedFor before asset name constants log

/-- The names of a list are those of constants of its kind, numbered without a gap. -/
structure ListConstant.Lists (list : ListConstant) (constants : List Constant) : Prop where
  long : 2 ≤ list.names.length
  numbered : ∀ (position : Nat) (name : String), list.names[position]? = some name →
    IsNumbered name list.base position ∧
      ∃ constant ∈ constants, constant.name = name ∧ constant.type ∈ list.kind.types

/-! ### Steps -/

theorem type_mem_of_constant? {asset : ColorAsset α} {constant : Constant}
    (expressed : constant? asset = some constant) : constant.type ∈ constant.kind.types := by
  obtain ⟨name, _, expressed⟩ := Option.bind_eq_some_iff.mp expressed
  split at expressed
  case h_1 =>
    cases expressed
    exact List.mem_singleton_self _
  case h_2 fill _ _ =>
    obtain ⟨⟨type, value⟩, found, same⟩ := Option.map_eq_some_iff.mp expressed
    cases same
    unfold gradient? at found
    split at found
    · obtain ⟨_, _, same⟩ := Option.map_eq_some_iff.mp found
      cases same
      exact List.mem_cons_self
    · obtain ⟨_, _, same⟩ := Option.map_eq_some_iff.mp found
      cases same
      exact List.mem_cons_of_mem _ List.mem_cons_self
    · cases found
  case h_3 => cases expressed

theorem member?_of_constant? {asset : ColorAsset α} {constant : Constant}
    (expressed : constant? asset = some constant) :
    AssetNaming.member? asset.name = some constant.name := by
  obtain ⟨name, named, expressed⟩ := Option.bind_eq_some_iff.mp expressed
  rw [named]
  split at expressed
  case h_1 =>
    cases expressed
    rfl
  case h_2 =>
    obtain ⟨_, _, same⟩ := Option.map_eq_some_iff.mp expressed
    cases same
    rfl
  case h_3 => cases expressed

/-- What is added to a log or declared later leaves nothing unaccounted for. -/
theorem IsAccountedFor.mono {before : List (ColorAsset α)} {asset : ColorAsset α} {name : String}
    {constants others : List Constant} {log more : Log}
    (accounted : IsAccountedFor before asset name constants log) (declared : constants ⊆ others)
    (told : log ⊆ more) : IsAccountedFor before asset name others more := by
  unfold IsAccountedFor at *
  split
  case isTrue known =>
    rw [if_pos known] at accounted
    exact told accounted
  case isFalse fresh =>
    rw [if_neg fresh] at accounted
    split
    case h_1 constant expressed =>
      rw [expressed] at accounted
      exact declared accounted
    case h_2 expressed =>
      rw [expressed] at accounted
      obtain ⟨fill, own, message⟩ := accounted
      exact ⟨fill, own, told message⟩

theorem filterMap_concat (assets : List (ColorAsset α)) (asset : ColorAsset α) :
    (assets ++ [asset]).filterMap constant? =
      assets.filterMap constant? ++ (constant? asset).toList := by
  rw [List.filterMap_append]
  cases expressed : constant? asset with
  | none => rw [List.filterMap_cons_none expressed]; rfl
  | some constant => rw [List.filterMap_cons_some expressed]; rfl

namespace Declares

variable {assets : List (ColorAsset α)} {constants : List Constant} {log : Log}
  (declares : Declares assets constants log)

include declares

theorem find?_eq_none_iff (name : String) :
    (assets.filterMap constant?).find? (·.name = name) = none ↔ name ∉ constants.map (·.name) := by
  constructor
  · intro unknown member
    obtain ⟨constant, inside, same⟩ := List.mem_map.mp member
    have found := (declares.first constant).mp inside
    rw [same, unknown] at found
    cases found
  · intro fresh
    refine Option.eq_none_iff_forall_ne_some.mpr fun constant found => fresh ?_
    have named : constant.name = name := by simpa using List.find?_some found
    refine List.mem_map.mpr ⟨constant, (declares.first constant).mpr ?_, named⟩
    rw [named]
    exact found

/-- The declared names are those of all assets that can be expressed. -/
theorem mem_names_iff (name : String) : name ∈ constants.map (·.name) ↔
    name ∈ (assets.filterMap constant?).map (·.name) := by
  rw [← not_iff_not, ← declares.find?_eq_none_iff]
  generalize assets.filterMap constant? = expressed
  simp

variable {others : List Constant} {more : Log} {asset : ColorAsset α}

/-- Of the assets and one more the last one is accounted for, and the others still are. -/
theorem accounted_concat (declared : constants ⊆ others) (told : log ⊆ more)
    (last : ∀ name, AssetNaming.member? asset.name = some name →
      asset.color.isSome ∨ asset.gradient.isSome → IsAccountedFor assets asset name others more) :
    ∀ before other after name, assets ++ [asset] = before ++ other :: after →
      AssetNaming.member? other.name = some name → other.color.isSome ∨ other.gradient.isSome →
        IsAccountedFor before other name others more := by
  intro before other after name split named present
  rcases List.eq_nil_or_concat after with none | ⟨rest, end_, same⟩
  · rw [none] at split
    obtain ⟨front, back⟩ := List.append_inj' split rfl
    rw [← front]
    cases back
    exact last name named present
  · rw [same, List.concat_eq_append, ← List.cons_append, ← List.append_assoc] at split
    obtain ⟨front, _⟩ := List.append_inj' split rfl
    exact (declares.accounted before other rest name front named present).mono declared told

/-- An asset that cannot be expressed, or not under its own name, is passed over. -/
theorem skip (known : ∀ constant, constant? asset = some constant →
      constant.name ∈ constants.map (·.name)) (told : log ⊆ more)
    (last : ∀ name, AssetNaming.member? asset.name = some name →
      asset.color.isSome ∨ asset.gradient.isSome → IsAccountedFor assets asset name constants more) :
    Declares (assets ++ [asset]) constants more where
  distinct := declares.distinct
  ordered := by
    rw [filterMap_concat]
    exact declares.ordered.trans (List.sublist_append_left _ _)
  first := by
    intro constant
    rw [filterMap_concat, List.find?_append, declares.first]
    cases found : (assets.filterMap constant?).find? (·.name = constant.name) with
    | some first => rfl
    | none =>
        have fresh := (declares.find?_eq_none_iff constant.name).mp found
        have unmatched : (constant? asset).toList.find? (·.name = constant.name) = none := by
          refine List.find?_eq_none.mpr fun own member same => fresh ?_
          rw [← of_decide_eq_true same]
          exact known own (Option.mem_toList.mp member)
        rw [unmatched]
        rfl
  accounted := declares.accounted_concat (List.Subset.refl _) told last

/-- An asset with a name of its own is declared. -/
theorem declare {constant : Constant} (expressed : constant? asset = some constant)
    (fresh : constant.name ∉ constants.map (·.name)) (told : log ⊆ more) :
    Declares (assets ++ [asset]) (constants ++ [constant]) more where
  distinct := by
    rw [List.map_append]
    refine List.nodup_append.mpr ⟨declares.distinct, List.pairwise_singleton _ _, ?_⟩
    intro name known other only same
    rw [same, List.mem_singleton.mp only] at known
    exact fresh known
  ordered := by
    rw [filterMap_concat, expressed]
    exact declares.ordered.append_right _
  first := by
    intro other
    rw [filterMap_concat, expressed, List.find?_append, List.mem_append, declares.first]
    by_cases same : constant.name = other.name
    · rw [same] at fresh
      rw [(declares.find?_eq_none_iff other.name).mpr fresh]
      simp [same, eq_comm]
    · have different : other ≠ constant := fun equal => same (congrArg Constant.name equal).symm
      simp [same, different]
  accounted := by
    refine declares.accounted_concat (List.subset_append_left _ _) told fun name named _ => ?_
    have own : constant.name = name :=
      Option.some.inj ((member?_of_constant? expressed).symm.trans named)
    rw [own, declares.mem_names_iff] at fresh
    rw [IsAccountedFor, if_neg fresh, expressed]
    exact List.mem_append_right _ (List.mem_singleton_self _)

end Declares

/-! ### Drafts -/

namespace Draft

/-- The lists of a draft have members of their kind under their numbers. -/
structure HasLists (draft : Draft) (constants : List Constant) : Prop where
  distinct : draft.lists.keys.Nodup
  numbered : ∀ entry ∈ draft.lists, ∀ member ∈ entry.2.members,
    numbered? member.2 = some (entry.1, member.1) ∧
      ∃ constant ∈ constants, constant.name = member.2 ∧ constant.kind = entry.2.kind

theorem HasLists.mono {draft : Draft} {constants others : List Constant}
    (has : draft.HasLists constants) (declared : constants ⊆ others) : draft.HasLists others where
  distinct := has.distinct
  numbered := by
    intro entry inside member among
    obtain ⟨numbered, constant, known, own⟩ := has.numbered entry inside member among
    exact ⟨numbered, constant, declared known, own⟩

/-- What a draft has of some assets. -/
structure Records (draft : Draft) (assets : List (ColorAsset α)) (constants : List Constant) :
    Prop where
  declared_eq : draft.declared = constants.map (·.name)
  lines_eq : draft.lines = constants.map Constant.line
  declares : Declares assets constants draft.log
  lists : draft.HasLists constants

theorem enter_declared (draft : Draft) (name : String) (kind : MemberKind) :
    (draft.enter name kind).declared = draft.declared ∧
      (draft.enter name kind).lines = draft.lines ∧ draft.log ⊆ (draft.enter name kind).log := by
  unfold enter
  split
  · exact ⟨rfl, rfl, List.Subset.refl _⟩
  · dsimp only
    split
    · exact ⟨rfl, rfl, List.Subset.refl _⟩
    · exact ⟨rfl, rfl, List.subset_append_left _ _⟩

/-- A numbered name is entered under its number, in a list of its kind. -/
theorem HasLists.enter {draft : Draft} {constants : List Constant} (has : draft.HasLists constants)
    {constant : Constant} (known : constant ∈ constants) :
    (draft.enter constant.name constant.kind).HasLists constants := by
  unfold Draft.enter
  split
  case h_1 => exact has
  case h_2 base number numbered =>
    dsimp only
    split
    case isFalse => exact ⟨has.distinct, has.numbered⟩
    case isTrue same =>
      refine ⟨Table.nodup_keys_insert has.distinct, fun entry inside member among => ?_⟩
      rcases Table.mem_of_mem_insert inside with new | old
      · subst new
        rcases NumberedList.mem_of_mem_insert among with own | before
        · subst own
          exact ⟨numbered, constant, known, rfl, same.symm⟩
        · cases found : Table.find? base draft.lists with
          | none =>
              rw [found] at before
              exact absurd before List.not_mem_nil
          | some list =>
              rw [found] at before
              exact has.numbered (base, list) (Table.mem_of_find? found) member before
      · exact has.numbered entry old member among

variable {draft : Draft} {assets : List (ColorAsset α)} {constants : List Constant}
  (records : draft.Records assets constants)

include records

/-- A constant is declared under a name that is free. -/
theorem Records.declare {asset : ColorAsset α} {constant : Constant}
    (expressed : constant? asset = some constant)
    (fresh : constant.name ∉ constants.map (·.name)) :
    (draft.declare constant.name constant.kind constant.type constant.value).Records
      (assets ++ [asset]) (constants ++ [constant]) := by
  let declared : Draft := { draft with
    declared := draft.declared ++ [constant.name], lines := draft.lines ++ [constant.line] }
  obtain ⟨names, lines, told⟩ := enter_declared declared constant.name constant.kind
  have lists : declared.HasLists (constants ++ [constant]) :=
    HasLists.mono ⟨records.lists.distinct, records.lists.numbered⟩ (List.subset_append_left _ _)
  constructor
  case declared_eq =>
    refine names.trans ?_
    rw [List.map_append, ← records.declared_eq]
    rfl
  case lines_eq =>
    refine lines.trans ?_
    rw [List.map_append, ← records.lines_eq]
    rfl
  case declares => exact records.declares.declare expressed fresh told
  case lists => exact lists.enter (List.mem_append_right _ (List.mem_singleton_self _))

/-- A warning changes what is told and nothing else. -/
theorem Records.warn {others : List (ColorAsset α)} {message : String}
    (declares : Declares others constants (draft.log ++ [warning message])) :
    (draft.warn message).Records others constants :=
  ⟨records.declared_eq, records.lines_eq, declares, records.lists.distinct, records.lists.numbered⟩

omit records in
theorem constant?_eq {asset : ColorAsset α} {name : String}
    (named : AssetNaming.member? asset.name = some name) :
    constant? asset = match asset.color, asset.gradient with
      | some color, _ => some ⟨name, .color, "Color", Dart.colorLiteral color (1.0 : α)⟩
      | none, some fill => (gradient? fill).map fun (type, value) => ⟨name, .gradient, type, value⟩
      | none, none => none := by
  rw [constant?, named]
  rfl

/-- An asset under a free name is declared, told or passed over. -/
theorem Records.addNamed {asset : ColorAsset α} {name : String}
    (named : AssetNaming.member? asset.name = some name)
    (free : name ∉ constants.map (·.name)) :
    ∃ more, (draft.addNamed name asset).Records (assets ++ [asset]) more := by
  have expressed := constant?_eq named
  have fresh := free
  rw [records.declares.mem_names_iff] at fresh
  unfold Draft.addNamed
  split
  case h_1 color =>
    rw [color] at expressed
    dsimp only at expressed
    have recorded := records.declare expressed free
    exact ⟨_, recorded⟩
  case h_2 fill color gradient =>
    rw [color, gradient] at expressed
    dsimp only at expressed
    split
    case h_1 type value expression =>
      rw [expression, Option.map_some] at expressed
      have recorded := records.declare expressed free
      exact ⟨_, recorded⟩
    case h_2 inexpressible =>
      rw [inexpressible, Option.map_none] at expressed
      refine ⟨constants, records.warn ?_⟩
      refine records.declares.skip (fun constant own => ?_) (List.subset_append_left _ _)
        fun own same _ => ?_
      · rw [expressed] at own
        cases own
      · rw [← Option.some.inj (named.symm.trans same), IsAccountedFor, if_neg fresh, expressed]
        exact ⟨fill, gradient, List.mem_append_right _ (List.mem_singleton_self _)⟩
  case h_3 color gradient =>
    rw [color, gradient] at expressed
    refine ⟨constants, records.declared_eq, records.lines_eq, ?_, records.lists⟩
    refine records.declares.skip (fun constant own => ?_) (List.Subset.refl _) fun own _ present => ?_
    · rw [expressed] at own
      cases own
    · rw [color, gradient] at present
      simp at present

/-- One asset more is declared, told or passed over. -/
theorem Records.add (asset : ColorAsset α) :
    ∃ more, (draft.add asset).Records (assets ++ [asset]) more := by
  unfold Draft.add
  cases named : AssetNaming.member? asset.name with
  | none =>
      have silent : constant? asset = none := by rw [constant?, named]; rfl
      refine ⟨constants, records.declared_eq, records.lines_eq, ?_, records.lists⟩
      refine records.declares.skip (fun constant expressed => ?_) (List.Subset.refl _) fun name own => ?_
      · rw [silent] at expressed
        cases expressed
      · rw [named] at own
        cases own
  | some name =>
      dsimp only
      split
      case isTrue used =>
        rw [List.contains_iff_mem, records.declared_eq] at used
        refine ⟨constants, records.warn ?_⟩
        refine records.declares.skip (fun constant expressed => ?_) (List.subset_append_left _ _)
          fun own same _ => ?_
        · have same := (member?_of_constant? expressed).symm.trans named
          rw [Option.some.inj same]
          exact used
        · rw [← Option.some.inj (named.symm.trans same), IsAccountedFor,
            if_pos ((records.declares.mem_names_iff name).mp used)]
          exact List.mem_append_right _ (List.mem_singleton_self _)
      case isFalse free =>
        rw [List.contains_iff_mem, records.declared_eq] at free
        exact records.addNamed named free

omit records in
theorem empty_records : Draft.empty.Records ([] : List (ColorAsset α)) [] where
  declared_eq := rfl
  lines_eq := rfl
  declares :=
    { distinct := List.nodup_nil
      ordered := List.Sublist.refl _
      first := fun _ => by simp
      accounted := fun before asset after _ split => by simp at split }
  lists := ⟨List.nodup_nil, fun _ member => absurd member List.not_mem_nil⟩

/-- A draft keeps its record of all assets so far. -/
theorem Records.foldl_add (rest : List (ColorAsset α)) :
    ∃ more, (rest.foldl Draft.add draft).Records (assets ++ rest) more := by
  induction rest generalizing draft assets constants with
  | nil => exact ⟨constants, (List.append_nil assets).symm ▸ records⟩
  | cons asset rest ih =>
      obtain ⟨others, next⟩ := records.add asset
      rw [List.foldl_cons, List.append_cons]
      exact ih next

end Draft

/-! ### Lists -/

/-- The list that a class has for an entry. Its base is free and it has members zero and one. -/
def listConstant? (declared : List String) (entry : String × NumberedList) : Option ListConstant :=
  if declared.contains entry.1 then none
  else if (entry.2.member? 0).isSome && (entry.2.member? 1).isSome then
    some ⟨entry.1, entry.2.kind, entry.2.names⟩
  else none

theorem listLines_fst (declared : List String) : ∀ table : Table NumberedList,
    (listLines declared table).1 =
      (table.filterMap (listConstant? declared)).map ListConstant.line
  | [] => rfl
  | (base, list) :: rest => by
      rw [listLines]
      dsimp only
      have ih := listLines_fst declared rest
      by_cases taken : declared.contains base = true
      · have unlisted : listConstant? declared (base, list) = none := if_pos taken
        rw [if_pos taken, List.filterMap_cons_none unlisted]
        exact ih
      rw [if_neg taken, NumberedList.declaration?]
      by_cases long : ((list.member? 0).isSome && (list.member? 1).isSome) = true
      · have listed : listConstant? declared (base, list) = some ⟨base, list.kind, list.names⟩ :=
          (if_neg taken).trans (if_pos long)
        rw [if_pos long, List.filterMap_cons_some listed, List.map_cons, ← ih]
        rfl
      · have unlisted : listConstant? declared (base, list) = none :=
          (if_neg taken).trans (if_neg long)
        rw [if_neg long, List.filterMap_cons_none unlisted, ← ih]
        rfl

/-- A list ends at the first gap, and one member is no list. -/
example : (listLines ["blue0", "blue1"]
    [("blue", ⟨.color, [(1, "blue1"), (0, "blue0"), (3, "blue3")]⟩),
      ("red", ⟨.color, [(1, "red1")]⟩)]).1 =
      ["  static const List<Color> blue = const [blue0, blue1];"] := by decide

variable {declared : List String} {entry : String × NumberedList} {list : ListConstant}

theorem of_listConstant? (found : listConstant? declared entry = some list) :
    entry.1 ∉ declared ∧ (entry.2.member? 0).isSome ∧ (entry.2.member? 1).isSome ∧
      list = ⟨entry.1, entry.2.kind, entry.2.names⟩ := by
  unfold listConstant? at found
  split at found
  case isTrue => cases found
  case isFalse free =>
    split at found
    case isTrue long =>
      obtain ⟨zero, one⟩ := Bool.and_eq_true_iff.mp long
      exact ⟨fun taken => free (List.contains_iff_mem.mpr taken), zero, one,
        (Option.some.inj found).symm⟩
    case isFalse => cases found

/-- The bases of the lists are some of the keys, in their order. -/
theorem bases_sublist (declared : List String) : ∀ table : Table NumberedList,
    ((table.filterMap (listConstant? declared)).map (·.base)).Sublist table.keys
  | [] => List.Sublist.refl _
  | entry :: rest => by
      cases found : listConstant? declared entry with
      | none =>
          rw [List.filterMap_cons_none found]
          exact (bases_sublist declared rest).cons _
      | some list =>
          rw [List.filterMap_cons_some found, List.map_cons]
          obtain ⟨_, _, _, same⟩ := of_listConstant? found
          rw [same]
          exact (bases_sublist declared rest).cons_cons _

/-- A list of a draft is numbered without a gap and has members of its kind only. -/
theorem Draft.HasLists.lists {draft : Draft} {constants : List Constant}
    (has : draft.HasLists constants)
    (typed : ∀ constant ∈ constants, constant.type ∈ constant.kind.types)
    (inside : entry ∈ draft.lists) (found : listConstant? declared entry = some list) :
    list.Lists constants := by
  obtain ⟨_, zero, one, same⟩ := of_listConstant? found
  obtain ⟨first, zero⟩ := Option.isSome_iff_exists.mp zero
  obtain ⟨second, one⟩ := Option.isSome_iff_exists.mp one
  subst same
  refine ⟨NumberedList.two_le_length_names zero one, fun position name at_ => ?_⟩
  have among := NumberedList.mem_of_member? (NumberedList.member?_of_getElem?_names at_)
  obtain ⟨numbered, constant, known, own, kind⟩ := has.numbered entry inside _ among
  refine ⟨isNumbered_of_numbered? numbered, constant, known, own, ?_⟩
  have type := typed constant known
  rwa [kind] at type

/-! ### Classes -/

/-- A class declares each name once and has lists of its own constants. -/
structure IsClassOf (assets : List (ColorAsset α)) (constants : List Constant)
    (lists : List ListConstant) (log : Log) : Prop where
  declares : Declares assets constants log
  distinct : (constants.map (·.name) ++ lists.map (·.base)).Nodup
  lists : ∀ list ∈ lists, list.Lists constants

theorem Declares.mono {assets : List (ColorAsset α)} {constants : List Constant} {log more : Log}
    (declares : Declares assets constants log) (told : log ⊆ more) :
    Declares assets constants more where
  distinct := declares.distinct
  ordered := declares.ordered
  first := declares.first
  accounted := fun before asset after name split named present =>
    (declares.accounted before asset after name split named present).mono (List.Subset.refl _) told

theorem Draft.Records.isClassOf {draft : Draft} {assets : List (ColorAsset α)}
    {constants : List Constant} (records : draft.Records assets constants) (more : Log) :
    IsClassOf assets constants (draft.lists.filterMap (listConstant? draft.declared))
      (draft.log ++ more) where
  declares := records.declares.mono (List.subset_append_left _ _)
  distinct := by
    refine List.nodup_append.mpr ⟨records.declares.distinct,
      (bases_sublist _ _).nodup records.lists.distinct, fun name known base among same => ?_⟩
    obtain ⟨list, member, own⟩ := List.mem_map.mp among
    obtain ⟨entry, _, found⟩ := List.mem_filterMap.mp member
    obtain ⟨free, _, _, shape⟩ := of_listConstant? found
    rw [records.declared_eq] at free
    rw [same, ← own, shape] at known
    exact free known
  lists := by
    intro list member
    obtain ⟨entry, inside, found⟩ := List.mem_filterMap.mp member
    refine records.lists.lists (fun constant known => ?_) inside found
    obtain ⟨asset, _, expressed⟩ := List.mem_filterMap.mp (records.declares.ordered.subset known)
    exact type_mem_of_constant? expressed

/-- The file of the colours, where there is one, holds a class of the assets. -/
theorem file?_isClassOf (assets : Assets α) (settings : Settings) :
    ∃ constants lists log, IsClassOf assets.colors constants lists log ∧
      file? assets settings =
        if settings.exportColors = true ∧ assets.colors ≠ [] then
          (some (SourceFile.ofLines (AssetNaming.className settings.colorsClassName usualName)
            (classLines (AssetNaming.className settings.colorsClassName usualName) constants lists)),
            log)
        else (none, []) := by
  obtain ⟨constants, records⟩ := Draft.empty_records.foldl_add assets.colors
  rw [List.nil_append] at records
  let draft := assets.colors.foldl Draft.add Draft.empty
  refine ⟨constants, draft.lists.filterMap (listConstant? draft.declared), _,
    records.isClassOf (listLines draft.declared draft.lists).2, ?_⟩
  have lines := listLines_fst draft.declared draft.lists
  unfold file?
  by_cases exported : settings.exportColors = true ∧ assets.colors ≠ []
  · have told : ¬(!settings.exportColors || assets.colors.isEmpty) = true := by simpa using exported
    rw [if_neg told, if_pos exported]
    change (some (SourceFile.ofLines _ (_ ++ draft.lines ++ _ ++ _)), _) = _
    rw [records.lines_eq, lines, List.isEmpty_map]
    rfl
  · have silent : (!settings.exportColors || assets.colors.isEmpty) = true := by
      simpa [or_iff_not_imp_left] using exported
    rw [if_pos silent, if_neg exported]

end DesignExport.ColorClass
