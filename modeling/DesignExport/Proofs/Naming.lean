import DesignExport.Naming
import DesignExport.Proofs.Dart.Scanner
import DesignExport.Proofs.Text.Plain
set_option autoImplicit false

/-! Whatever a layer is called, the names that are made of it are names of code: letters and
digits of ASCII behind a letter. A name that is spelled so stays as it is unless its case is
changed, and the file of a class is called after the words of its name. -/

namespace DesignExport.Naming

open DesignExport.Dart (isName isWordChar)

/-- A name that code can use. -/
def IsIdentifier (text : String) : Prop :=
  isName text.toList = true

theorem isWordChar_of_isAlphanum {char : Char} (letter : char.isAlphanum = true) :
    isWordChar char = true := by
  rw [isWordChar, letter]
  rfl

/-- Behind a name more letters, digits and underscores may follow. -/
theorem IsIdentifier.append {front back : String} (name : IsIdentifier front)
    (words : Text.Every isWordChar back) : IsIdentifier (front ++ back) := by
  unfold IsIdentifier at *
  rw [String.toList_append]
  cases chars : front.toList with
  | nil => rw [chars] at name; cases name
  | cons first rest =>
      rw [chars] at name
      obtain ⟨letter, others⟩ := Bool.and_eq_true_iff.mp name
      rw [List.cons_append, isName, letter, List.all_append, others]
      exact List.all_eq_true.mpr words

theorem IsIdentifier.every {text : String} (name : IsIdentifier text) :
    Text.Every isWordChar text := by
  intro char member
  unfold IsIdentifier at name
  cases chars : text.toList with
  | nil => rw [chars] at member; exact absurd member List.not_mem_nil
  | cons first rest =>
      rw [chars] at name member
      obtain ⟨letter, others⟩ := Bool.and_eq_true_iff.mp name
      rcases List.mem_cons.mp member with same | later
      · rw [same]
        exact Dart.Scanner.isWordChar_of_isAlpha letter
      · exact List.all_eq_true.mp others char later

/-! ### Words of letters and digits -/

/-- Letters and digits only. -/
def AreLetters (chars : List Char) : Prop :=
  ∀ char ∈ chars, char.isAlphanum = true

theorem mem_of_mem_cutRuns {chars : List Char} :
    ∀ {begun run : List Char}, AreLetters begun → run ∈ cutRuns begun chars → AreLetters run := by
  induction chars with
  | nil =>
      intro begun run letters found
      rw [cutRuns, List.mem_singleton] at found
      exact found ▸ letters
  | cons char chars ih =>
      intro begun run letters found
      rw [cutRuns] at found
      split at found
      case isTrue letter =>
        refine ih ?_ found
        intro other member
        rcases List.mem_append.mp member with early | last
        · exact letters other early
        · exact List.mem_singleton.mp last ▸ letter
      case isFalse =>
        rcases List.mem_cons.mp found with same | later
        · exact same ▸ letters
        · exact ih (fun other absent => absurd absent List.not_mem_nil) later

theorem areLetters_of_mem_nameWords {raw : String} {word : List Char}
    (found : word ∈ nameWords raw) : AreLetters word :=
  mem_of_mem_cutRuns (fun _ absent => absurd absent List.not_mem_nil) (List.mem_filter.mp found).1

theorem areLetters_flatten {words : List (List Char)} (each : ∀ word ∈ words, AreLetters word) :
    AreLetters words.flatten := by
  intro char member
  obtain ⟨word, found, holds⟩ := List.mem_flatten.mp member
  exact each word found char holds

/-- The blanks between words are gone once the words are cut again. -/
theorem areLetters_of_mem_words {raw : String} {word : List Char}
    (found : word ∈ Text.words (spaced raw)) : AreLetters word := by
  have known : ∀ char ∈ spaced raw, char.isAlphanum = true ∨ char = ' ' := by
    intro char member
    rcases Text.mem_joinWith member with between | ⟨other, inside, holds⟩
    · exact Or.inr (List.mem_singleton.mp between)
    · exact Or.inl (areLetters_of_mem_nameWords inside char holds)
  have ascii : ∀ char ∈ spaced raw, char.toNat < 128 ∧ char ≠ '\r' := by
    intro char member
    rcases known char member with letter | blank
    · refine ⟨Text.toNat_of_isAlphanum letter, ?_⟩
      rintro rfl
      cases letter
    · subst blank
      decide
  intro char member
  obtain ⟨unit, inUnits, apart, holds⟩ := Text.mem_of_mem_words found member
  rw [Text.units_of_ascii ascii] at inUnits
  obtain ⟨own, inside, same⟩ := List.mem_map.mp inUnits
  subst same
  rw [List.mem_singleton.mp holds]
  rcases known own inside with letter | blank
  · exact letter
  · subst blank
    cases apart

theorem areLetters_lowered {word : List Char} (letters : AreLetters word) :
    AreLetters (word.map Char.toLower) := by
  intro char member
  obtain ⟨own, inside, same⟩ := List.mem_map.mp member
  exact same ▸ Text.isAlphanum_toLower (letters own inside)

theorem areLetters_capitalized {word : List Char} (letters : AreLetters word) :
    AreLetters (Text.capitalized word) := by
  cases word with
  | nil => exact letters
  | cons first rest =>
      obtain ⟨letter, others⟩ := List.forall_mem_cons.mp letters
      exact List.forall_mem_cons.mpr ⟨Text.isAlphanum_toUpper letter, areLetters_lowered others⟩

theorem areLetters_map_capitalized {words : List (List Char)}
    (each : ∀ word ∈ words, AreLetters word) :
    AreLetters (words.map Text.capitalized).flatten := by
  apply areLetters_flatten
  intro word member
  obtain ⟨own, inside, same⟩ := List.mem_map.mp member
  exact same ▸ areLetters_capitalized (each own inside)

theorem areLetters_pascalCase (raw : String) : AreLetters (Text.pascalCase (spaced raw)) :=
  areLetters_map_capitalized fun _ found => areLetters_of_mem_words found

theorem areLetters_camelCase (raw : String) : AreLetters (Text.camelCase (spaced raw)) := by
  have each : ∀ word ∈ Text.words (spaced raw), AreLetters word :=
    fun _ found => areLetters_of_mem_words found
  unfold Text.camelCase
  cases words : Text.words (spaced raw) with
  | nil => exact fun _ absent => absurd absent List.not_mem_nil
  | cons first rest =>
      rw [words] at each
      obtain ⟨letters, others⟩ := List.forall_mem_cons.mp each
      intro char member
      rcases List.mem_append.mp member with early | late
      · exact areLetters_lowered letters char early
      · exact areLetters_map_capitalized others char late

theorem areLetters_flatten_nameWords (raw : String) : AreLetters (nameWords raw).flatten :=
  areLetters_flatten fun _ found => areLetters_of_mem_nameWords found

/-! ### Names -/

theorem isIdentifier_of_letters {first : Char} {rest : List Char} (letter : first.isAlpha = true)
    (letters : AreLetters rest) : IsIdentifier (String.ofList (first :: rest)) := by
  rw [IsIdentifier, String.toList_ofList, isName, letter]
  exact List.all_eq_true.mpr fun char member => isWordChar_of_isAlphanum (letters char member)

/-- Letters and digits of ASCII, of which the first is a letter. -/
structure IsProper (name : String) : Prop where
  letters : AreLetters name.toList
  begins : name.toList.head?.any Char.isAlpha = true

theorem IsProper.ne_empty {name : String} (proper : IsProper name) : name ≠ "" := by
  rintro rfl
  cases proper.begins

theorem IsProper.exists_cons {name : String} (proper : IsProper name) :
    ∃ first rest, name.toList = first :: rest ∧ first.isAlpha = true := by
  obtain ⟨_, begins⟩ := proper
  cases chars : name.toList with
  | nil =>
      rw [chars] at begins
      cases begins
  | cons first rest =>
      rw [chars] at begins
      exact ⟨first, rest, rfl, begins⟩

theorem IsProper.isIdentifier {name : String} (proper : IsProper name) : IsIdentifier name := by
  obtain ⟨first, rest, chars, alpha⟩ := proper.exists_cons
  have letters := proper.letters
  rw [chars] at letters
  have spelled : String.ofList (first :: rest) = name := by rw [← chars, String.ofList_toList]
  exact spelled ▸ isIdentifier_of_letters alpha (List.forall_mem_cons.mp letters).2

/-- A completed name begins with a letter. -/
theorem isProper_complete {substitute : String} {letter : Char} {name : List Char}
    (usual : IsProper substitute) (isLetter : letter.isAlpha = true) (letters : AreLetters name) :
    IsProper (complete substitute letter name) := by
  cases name with
  | nil => exact usual
  | cons first rest =>
      have known : first.isAlphanum = true := letters first List.mem_cons_self
      rw [complete]
      split
      case isTrue =>
        refine ⟨?_, ?_⟩
        · rw [String.toList_ofList]
          refine List.forall_mem_cons.mpr ⟨?_, letters⟩
          rw [Char.isAlphanum, isLetter]
          rfl
        · rw [String.toList_ofList]
          exact isLetter
      case isFalse noDigit =>
        have alpha : first.isAlpha = true := by
          rw [Char.isAlphanum, Bool.or_eq_true] at known
          exact known.resolve_right noDigit
        refine ⟨?_, ?_⟩
        · rw [String.toList_ofList]
          exact letters
        · rw [String.toList_ofList]
          exact alpha

theorem isProper_className (raw : String) (normalize : Bool) :
    IsProper (className raw normalize) := by
  have usual : ∀ char ∈ "Widget".toList, char.isAlphanum = true := List.all_eq_true.mp rfl
  refine isProper_complete ⟨usual, rfl⟩ rfl ?_
  split
  · exact areLetters_pascalCase raw
  · exact areLetters_flatten_nameWords raw

theorem isProper_identifier (raw : String) (normalize : Bool) :
    IsProper (identifier raw normalize) := by
  have usual : ∀ char ∈ "value".toList, char.isAlphanum = true := List.all_eq_true.mp rfl
  refine isProper_complete ⟨usual, rfl⟩ rfl ?_
  split
  · exact areLetters_camelCase raw
  · exact areLetters_flatten_nameWords raw

theorem isIdentifier_className (raw : String) (normalize : Bool) :
    IsIdentifier (className raw normalize) :=
  (isProper_className raw normalize).isIdentifier

theorem isIdentifier_identifier (raw : String) (normalize : Bool) :
    IsIdentifier (identifier raw normalize) :=
  (isProper_identifier raw normalize).isIdentifier

/-- The prefix of class names is empty or a name itself. -/
theorem isIdentifier_widgetClassName {α : Type} (layer : LayerInfo α) {settings : Settings}
    (isPrefix : settings.widgetPrefix = "" ∨ IsIdentifier settings.widgetPrefix) :
    IsIdentifier (widgetClassName layer settings) := by
  unfold widgetClassName
  split
  · exact isIdentifier_className _ _
  · have name := isIdentifier_className layer.name settings.normalizeNameCase
    rcases isPrefix with empty | whole
    · rw [empty, String.empty_append]
      exact name
    · exact whole.append name.every

/-! ### Names that stay -/

theorem cutRuns_of_letters {chars : List Char} (letters : AreLetters chars) (begun : List Char) :
    cutRuns begun chars = [begun ++ chars] := by
  induction chars generalizing begun with
  | nil => rw [cutRuns, List.append_nil]
  | cons char rest ih =>
      obtain ⟨letter, others⟩ := List.forall_mem_cons.mp letters
      rw [cutRuns, if_pos letter, ih others, List.append_assoc, List.singleton_append]

/-- Nothing is cut out of a name of letters and digits. -/
theorem flatten_nameWords_of_letters {raw : String} (letters : AreLetters raw.toList) :
    (nameWords raw).flatten = raw.toList := by
  rw [nameWords, List.flatten_filter_not_isEmpty, cutRuns_of_letters letters, List.nil_append,
    List.flatten_singleton]

theorem complete_of_isProper {name : String} (proper : IsProper name) (substitute : String)
    (letter : Char) : complete substitute letter name.toList = name := by
  obtain ⟨first, rest, chars, alpha⟩ := proper.exists_cons
  have ascii : first.toNat < 128 :=
    Text.toNat_of_isAlphanum (proper.letters first (chars ▸ List.mem_cons_self))
  have noDigit : first.isDigit = false :=
    Text.of_ascii (fun char => char.isAlpha = true → char.isDigit = false) (by decide) ascii alpha
  rw [chars, complete, noDigit, if_neg Bool.false_ne_true, ← chars, String.ofList_toList]

theorem className_eq_self_iff {name : String} : className name false = name ↔ IsProper name := by
  constructor
  · intro same
    rw [← same]
    exact isProper_className name false
  · intro proper
    rw [className, if_neg Bool.false_ne_true, flatten_nameWords_of_letters proper.letters,
      complete_of_isProper proper]

theorem identifier_eq_self_iff {name : String} : identifier name false = name ↔ IsProper name := by
  constructor
  · intro same
    rw [← same]
    exact isProper_identifier name false
  · intro proper
    rw [identifier, if_neg Bool.false_ne_true, flatten_nameWords_of_letters proper.letters,
      complete_of_isProper proper]

/-! ### Files -/

def isStemChar (char : Char) : Bool :=
  char.isLower || char.isDigit

/-- Small letters and digits, with at most one underscore between neighbours. -/
inductive IsStem : List Char → Prop where
  | last {char : Char} (letter : isStemChar char = true) : IsStem [char]
  | more {char : Char} {rest : List Char} (letter : isStemChar char = true) (stem : IsStem rest) :
      IsStem (char :: rest)
  | score {char : Char} {rest : List Char} (letter : isStemChar char = true) (stem : IsStem rest) :
      IsStem (char :: '_' :: rest)

namespace IsStem

variable {word stem : List Char}

/-- A word may stand in front of a stem. -/
theorem join (later : IsStem stem) (letters : ∀ char ∈ word, isStemChar char = true)
    (filled : word ≠ []) : IsStem (word ++ '_' :: stem) := by
  induction word with
  | nil => exact absurd rfl filled
  | cons char rest ih =>
      obtain ⟨letter, others⟩ := List.forall_mem_cons.mp letters
      cases rest with
      | nil => exact .score letter later
      | cons next rest => exact .more letter (ih others (List.cons_ne_nil _ _))

theorem ofWord (letters : ∀ char ∈ word, isStemChar char = true) (filled : word ≠ []) :
    IsStem word := by
  induction word with
  | nil => exact absurd rfl filled
  | cons char rest ih =>
      obtain ⟨letter, others⟩ := List.forall_mem_cons.mp letters
      cases rest with
      | nil => exact .last letter
      | cons next rest => exact .more letter (ih others (List.cons_ne_nil _ _))

theorem joinWith : ∀ {words : List (List Char)}, words ≠ [] →
    (∀ word ∈ words, word ≠ [] ∧ ∀ char ∈ word, isStemChar char = true) →
      IsStem (Text.joinWith ['_'] words)
  | [], nonempty, _ => absurd rfl nonempty
  | [word], _, each => by
      obtain ⟨filled, letters⟩ := each word List.mem_cons_self
      exact ofWord letters filled
  | word :: next :: rest, _, each => by
      obtain ⟨⟨filled, letters⟩, others⟩ := List.forall_mem_cons.mp each
      have later : IsStem (Text.joinWith ['_'] (next :: rest)) :=
        joinWith (List.cons_ne_nil _ _) others
      rw [Text.joinWith, List.append_assoc]
      · exact later.join letters filled
      · exact List.cons_ne_nil _ _

end IsStem

theorem ne_score_of_isStemChar {char : Char} (letter : isStemChar char = true) : char ≠ '_' := by
  rintro rfl
  cases letter

/-- Without the underscores a stem is its words behind each other. -/
theorem filter_joinWith : ∀ {words : List (List Char)},
    (∀ word ∈ words, ∀ char ∈ word, isStemChar char = true) →
      (Text.joinWith ['_'] words).filter (· ≠ '_') = words.flatten
  | [], _ => rfl
  | [word], letters => by
      rw [Text.joinWith, List.flatten_singleton, List.filter_eq_self]
      intro char member
      exact decide_eq_true (ne_score_of_isStemChar (letters word List.mem_cons_self char member))
  | word :: next :: rest, letters => by
      obtain ⟨own, others⟩ := List.forall_mem_cons.mp letters
      have kept : word.filter (· ≠ '_') = word :=
        List.filter_eq_self.mpr fun char member => decide_eq_true (ne_score_of_isStemChar (own char member))
      rw [Text.joinWith, List.filter_append, List.filter_append, kept, filter_joinWith others,
        List.flatten_cons]
      · simp
      · exact List.cons_ne_nil _ _

theorem flatten_cutWords {units : List Text.WrittenUnit}
    (apart : ∀ unit ∈ units, Text.isWordSeparator unit = false) :
    ∀ (previous : Option Text.WrittenUnit) (begun : List Char),
      (Text.cutWords previous begun units).flatten = begun ++ units.flatten := by
  induction units with
  | nil =>
      intro previous begun
      rw [Text.cutWords, List.flatten_singleton, List.flatten_nil, List.append_nil]
  | cons unit rest ih =>
      intro previous begun
      obtain ⟨own, others⟩ := List.forall_mem_cons.mp apart
      rw [Text.cutWords, own, if_neg Bool.false_ne_true]
      split
      · rw [List.flatten_cons, ih others, List.flatten_cons]
      · rw [ih others, List.flatten_cons, List.append_assoc]

/-- The words of a name of letters and digits hold all of it in its order. -/
theorem flatten_words_of_letters {name : List Char} (letters : AreLetters name) :
    (Text.words name).flatten = name := by
  have ascii : ∀ char ∈ name, char.toNat < 128 ∧ char ≠ '\r' := by
    intro char member
    refine ⟨Text.toNat_of_isAlphanum (letters char member), ?_⟩
    rintro rfl
    cases letters '\r' member
  have apart : ∀ unit ∈ Text.units name, Text.isWordSeparator unit = false := by
    rw [Text.units_of_ascii ascii]
    intro unit found
    obtain ⟨char, member, rfl⟩ := List.mem_map.mp found
    exact Text.of_ascii (fun char => char.isAlphanum = true → Text.isWordSeparator [char] = false)
      (by decide) (ascii char member).1 (letters char member)
  rw [Text.words, List.flatten_filter_not_isEmpty, flatten_cutWords apart, Text.units_flatten,
    List.nil_append]

theorem isStemChar_toLower {char : Char} (letter : char.isAlphanum = true) :
    isStemChar char.toLower = true :=
  Text.of_ascii (fun char => char.isAlphanum = true → isStemChar char.toLower = true)
    (by decide) (Text.toNat_of_isAlphanum letter) letter

/-- The file of a class: the words of its name in lower case. -/
theorem fileName_of_isProper {name : String} (proper : IsProper name) :
    ∃ stem, fileName name = String.ofList stem ++ ".dart" ∧ IsStem stem ∧
      stem.filter (· ≠ '_') = name.toList.map Char.toLower := by
  have whole := flatten_words_of_letters proper.letters
  have inName : ∀ word ∈ Text.words name.toList, AreLetters word := by
    intro word found char member
    exact proper.letters char (whole ▸ List.mem_flatten_of_mem found member)
  have lowered : (Text.words name.toList).map Text.lower =
      (Text.words name.toList).map (List.map Char.toLower) :=
    List.map_congr_left fun word found =>
      Text.lower_of_ascii fun char member => Text.toNat_of_isAlphanum (inName word found char member)
  have letters : ∀ word ∈ (Text.words name.toList).map (List.map Char.toLower),
      ∀ char ∈ word, isStemChar char = true := by
    intro word found char member
    obtain ⟨own, inWords, rfl⟩ := List.mem_map.mp found
    obtain ⟨before, inside, rfl⟩ := List.mem_map.mp member
    exact isStemChar_toLower (inName own inWords before inside)
  refine ⟨Text.joinWith ['_'] ((Text.words name.toList).map (List.map Char.toLower)), ?_, ?_, ?_⟩
  · rw [fileName, Text.snakeCase, lowered]
  · refine IsStem.joinWith ?_ fun word found => ⟨?_, letters word found⟩
    · intro none
      rw [List.map_eq_nil_iff.mp none] at whole
      exact proper.ne_empty (String.toList_eq_nil_iff.mp whole.symm)
    · obtain ⟨own, inWords, rfl⟩ := List.mem_map.mp found
      have filled : own ≠ [] := by simpa using (List.mem_filter.mp inWords).2
      exact mt List.map_eq_nil_iff.mp filled
  · rw [filter_joinWith letters, ← List.map_flatten, whole]

/-- Names are proper, their files are named in lower case, and making a proper name of a
proper name without a change of case leaves it as it is. -/
theorem names_spelled :
    (∀ (raw : String) (normalize : Bool),
      IsProper (className raw normalize) ∧ IsProper (identifier raw normalize) ∧
        ∃ stem, fileName (className raw normalize) = String.ofList stem ++ ".dart" ∧ IsStem stem ∧
          stem.filter (· ≠ '_') = (className raw normalize).toList.map Char.toLower) ∧
      (∀ raw : String, className (className raw false) false = className raw false ∧
        identifier (identifier raw false) false = identifier raw false) ∧
      ∀ name : String, (className name false = name ↔ IsProper name) ∧
        (identifier name false = name ↔ IsProper name) := by
  refine ⟨fun raw normalize => ⟨isProper_className raw normalize, isProper_identifier raw normalize,
    fileName_of_isProper (isProper_className raw normalize)⟩, fun raw => ⟨?_, ?_⟩, fun name =>
    ⟨className_eq_self_iff, identifier_eq_self_iff⟩⟩
  · exact className_eq_self_iff.mpr (isProper_className raw false)
  · exact identifier_eq_self_iff.mpr (isProper_identifier raw false)

end DesignExport.Naming
