import DesignExport.Proofs.Text.Plain
import DesignExport.Shape.Markup
import Mathlib.Data.List.Nodup
set_option autoImplicit false

/-! Reading markup character by character. A tag has a name and attributes, none of them
twice, with their values in double quotes. An element that is opened is closed by its own
name, and there is nothing between tags. -/

namespace DesignExport.Markup

open DesignExport.Text (Every)

structure Tag where
  name : String
  attributes : List (String × String)

inductive Element where
  | mk (tag : Tag) (children : List Element)

/-- What the next character belongs to. -/
inductive Place where
  | content
  /-- Directly behind an angle bracket. -/
  | opened
  | named (name : List Char)
  /-- In a tag, behind a blank. -/
  | between (tag : Tag)
  | keyed (tag : Tag) (key : List Char)
  /-- Behind the sign between a key and its value. -/
  | assigned (tag : Tag) (key : String)
  | quoted (tag : Tag) (key : String) (value : List Char)
  /-- Directly behind a value. -/
  | valued (tag : Tag)
  /-- Behind the slash of a tag without content. -/
  | ending (tag : Tag)
  | closing (name : List Char)

structure Reader where
  place : Place
  /-- The elements so far in the innermost element that is open. -/
  siblings : List Element
  /-- The elements that are open, from the inside out, each with what stands before it. -/
  around : List (Tag × List Element)

def isNameChar (char : Char) : Bool :=
  char.isAlphanum || char = '-'

/-- Values hold no angle brackets. -/
def isValueChar (char : Char) : Bool :=
  !(char = '<' || char = '>' || char = '"')

/-- A letter, and letters, digits and hyphens behind it. -/
def isName : List Char → Bool
  | [] => false
  | first :: rest => first.isAlpha && rest.all isNameChar

def keys (attributes : List (String × String)) : List String :=
  attributes.map Prod.fst

namespace Tag

def adding (tag : Tag) (attributes : List (String × String)) : Tag :=
  { tag with attributes := tag.attributes ++ attributes }

def value? (tag : Tag) (key : String) : Option String :=
  tag.attributes.lookup key

end Tag

namespace Reader

def start : Reader :=
  ⟨.content, [], []⟩

def move (reader : Reader) (place : Place) : Reader :=
  { reader with place := place }

def enter (reader : Reader) (tag : Tag) : Reader :=
  ⟨.content, [], (tag, reader.siblings) :: reader.around⟩

def leave (reader : Reader) (name : String) : Option Reader :=
  match reader.around with
  | [] => none
  | (tag, before) :: around =>
      if tag.name = name then some ⟨.content, before ++ [.mk tag reader.siblings], around⟩ else none

/-- Behind the name of a tag or a value in it. -/
def stepTag (reader : Reader) (tag : Tag) (char : Char) : Option Reader :=
  if char = ' ' then some (reader.move (.between tag))
  else if char = '/' then some (reader.move (.ending tag))
  else if char = '>' then some (reader.enter tag)
  else none

def stepValue (reader : Reader) (tag : Tag) (key : String) (value : List Char) (char : Char) :
    Option Reader :=
  if char = '"' then
    if key ∈ keys tag.attributes then none
    else some (reader.move (.valued (tag.adding [(key, String.ofList value)])))
  else if isValueChar char then some (reader.move (.quoted tag key (value ++ [char])))
  else none

def step (reader : Reader) (char : Char) : Option Reader :=
  match reader.place with
  | .content => if char = '<' then some (reader.move .opened) else none
  | .opened =>
      if char = '/' then some (reader.move (.closing []))
      else if char.isAlpha then some (reader.move (.named [char]))
      else none
  | .named name =>
      if isNameChar char then some (reader.move (.named (name ++ [char])))
      else reader.stepTag ⟨String.ofList name, []⟩ char
  | .between tag =>
      if char.isAlpha then some (reader.move (.keyed tag [char])) else reader.stepTag tag char
  | .keyed tag key =>
      if isNameChar char then some (reader.move (.keyed tag (key ++ [char])))
      else if char = '=' then some (reader.move (.assigned tag (String.ofList key)))
      else none
  | .assigned tag key => if char = '"' then some (reader.move (.quoted tag key [])) else none
  | .quoted tag key value => reader.stepValue tag key value char
  | .valued tag => reader.stepTag tag char
  | .ending tag =>
      if char = '>' then some ⟨.content, reader.siblings ++ [.mk tag []], reader.around⟩ else none
  | .closing name =>
      if isNameChar char then some (reader.move (.closing (name ++ [char])))
      else if char = '>' then reader.leave (String.ofList name)
      else none

/-- Reads a text. `none`: it cannot be read on from here. -/
def scan (reader : Reader) : List Char → Option Reader
  | [] => some reader
  | char :: text => (reader.step char).bind fun next => next.scan text

theorem scan_append (reader : Reader) (front back : List Char) :
    reader.scan (front ++ back) = (reader.scan front).bind fun next => next.scan back := by
  induction front generalizing reader with
  | nil => rfl
  | cons char front ih =>
      rw [List.cons_append, scan, scan]
      cases reader.step char with
      | none => rfl
      | some next => exact ih next

end Reader

/-- The only element of a text. -/
def read? (text : String) : Option Element :=
  match Reader.start.scan text.toList with
  | some ⟨.content, [element], []⟩ => some element
  | _ => none

/-- A text leads from one place to another. -/
def Reads (text : String) (before after : Reader) : Prop :=
  before.scan text.toList = some after

variable {siblings : List Element} {around : List (Tag × List Element)} {tag : Tag}

namespace Reads

variable {before between after : Reader}

theorem append {front back : String} (start : Reads front before between)
    (rest : Reads back between after) : Reads (front ++ back) before after := by
  unfold Reads at *
  rw [String.toList_append, Reader.scan_append, start]
  exact rest

theorem empty (reader : Reader) : Reads "" reader reader :=
  rfl

end Reads

/-- A place that collects characters keeps all of a text that it allows. -/
theorem scan_collecting {place : List Char → Place} {allowed : Char → Bool}
    (stays : ∀ begun char, allowed char = true →
      (⟨place begun, siblings, around⟩ : Reader).step char =
        some ⟨place (begun ++ [char]), siblings, around⟩)
    {text begun : List Char} (each : ∀ char ∈ text, allowed char = true) :
    (⟨place begun, siblings, around⟩ : Reader).scan text =
      some ⟨place (begun ++ text), siblings, around⟩ := by
  induction text generalizing begun with
  | nil => rw [List.append_nil]; rfl
  | cons char text ih =>
      obtain ⟨first, others⟩ := List.forall_mem_cons.mp each
      rw [Reader.scan, stays begun char first, Option.bind_some, ih others, List.append_assoc,
        List.singleton_append]

/-! ### Attributes -/

theorem keys_append (first second : List (String × String)) :
    keys (first ++ second) = keys first ++ keys second :=
  List.map_append

theorem reads_key {key : String} (name : isName key.toList = true) :
    Reads (key ++ "=\"") ⟨.between tag, siblings, around⟩ ⟨.quoted tag key [], siblings, around⟩ := by
  have stays (begun : List Char) (char : Char) (letter : isNameChar char = true) :
      (⟨.keyed tag begun, siblings, around⟩ : Reader).step char =
        some ⟨.keyed tag (begun ++ [char]), siblings, around⟩ := by
    simp [Reader.step, letter, Reader.move]
  have named : Reads key ⟨.between tag, siblings, around⟩ ⟨.keyed tag key.toList, siblings, around⟩ := by
    unfold Reads
    cases chars : key.toList with
    | nil => rw [chars] at name; cases name
    | cons first rest =>
        rw [chars, isName, Bool.and_eq_true] at name
        rw [Reader.scan, Reader.step]
        simp only [name.1, if_true, Option.bind_some, Reader.move]
        exact scan_collecting stays (List.all_eq_true.mp name.2)
  have assigned : Reads "=\"" ⟨.keyed tag key.toList, siblings, around⟩
      ⟨.quoted tag (String.ofList key.toList) [], siblings, around⟩ := rfl
  rw [String.ofList_toList] at assigned
  exact named.append assigned

theorem reads_value {key value : String} (unused : key ∉ keys tag.attributes)
    (plain : Every isValueChar value) :
    Reads (value ++ "\"") ⟨.quoted tag key [], siblings, around⟩
      ⟨.valued (tag.adding [(key, value)]), siblings, around⟩ := by
  have stays (begun : List Char) (char : Char) (allowed : isValueChar char = true) :
      (⟨.quoted tag key begun, siblings, around⟩ : Reader).step char =
        some ⟨.quoted tag key (begun ++ [char]), siblings, around⟩ := by
    have inside : char ≠ '"' := by
      rintro rfl
      cases allowed
    simp [Reader.step, Reader.stepValue, inside, allowed, Reader.move]
  have quoted : Reads value ⟨.quoted tag key [], siblings, around⟩
      ⟨.quoted tag key value.toList, siblings, around⟩ :=
    scan_collecting stays plain
  have closed : (⟨.quoted tag key value.toList, siblings, around⟩ : Reader).step '"' =
      some ⟨.valued (tag.adding [(key, value)]), siblings, around⟩ := by
    simp [Reader.step, Reader.stepValue, unused, Reader.move]
  refine quoted.append ?_
  change ((⟨.quoted tag key value.toList, siblings, around⟩ : Reader).step '"').bind _ = _
  rw [closed]
  rfl

/-- Attributes with blanks between them, read from a place in a tag that has none of them yet.
Behind a value the first attribute has a blank in front of it as well. -/
def IsAttributes (place : Tag → Place) (text : String) (attributes : List (String × String)) : Prop :=
  ∀ (tag : Tag) (siblings : List Element) (around : List (Tag × List Element)),
    (keys (tag.attributes ++ attributes)).Nodup →
      Reads text ⟨place tag, siblings, around⟩ ⟨.valued (tag.adding attributes), siblings, around⟩

namespace IsAttributes

theorem attr {key value : String} (name : isName key.toList = true) (plain : Every isValueChar value) :
    IsAttributes .between (attr key value) [(key, value)] := by
  intro tag siblings around distinct
  have unused : key ∉ keys tag.attributes := by
    intro used
    rw [keys_append] at distinct
    exact (List.nodup_append.mp distinct).2.2 key used key (List.mem_singleton_self key) rfl
  have split : Markup.attr key value = (key ++ "=\"") ++ (value ++ "\"") := String.append_assoc ..
  rw [split]
  exact (reads_key name).append (reads_value unused plain)

theorem append {place : Tag → Place} {front back : String} {first second : List (String × String)}
    (start : IsAttributes place front first) (rest : IsAttributes .valued back second) :
    IsAttributes place (front ++ back) (first ++ second) := by
  intro tag siblings around distinct
  -- Keys that are distinct among all attributes are so among those read first.
  have early : (keys (tag.attributes ++ first)).Nodup := by
    rw [← List.append_assoc, keys_append] at distinct
    exact (List.nodup_append.mp distinct).1
  have whole : (tag.adding first).adding second = tag.adding (first ++ second) := by
    simp only [Tag.adding, List.append_assoc]
  have later := rest (tag.adding first) siblings around (by
    rw [Tag.adding, List.append_assoc]
    exact distinct)
  rw [whole] at later
  exact (start tag siblings around early).append later

theorem empty : IsAttributes .valued "" [] := by
  intro tag siblings around _
  have same : tag.adding [] = tag := by rw [Tag.adding, List.append_nil]
  rw [same]
  exact Reads.empty _

theorem more {text : String} {attributes : List (String × String)}
    (isAttributes : IsAttributes .between text attributes) :
    IsAttributes .valued (" " ++ text) attributes := by
  intro tag siblings around distinct
  have blank : Reads " " ⟨.valued tag, siblings, around⟩ ⟨.between tag, siblings, around⟩ := rfl
  exact blank.append (isAttributes tag siblings around distinct)

end IsAttributes

/-! ### Elements -/

/-- A text of whole elements. -/
def IsContent (text : String) (elements : List Element) : Prop :=
  ∀ (siblings : List Element) (around : List (Tag × List Element)),
    Reads text ⟨.content, siblings, around⟩ ⟨.content, siblings ++ elements, around⟩

/-- A text that opens an element. -/
def IsOpening (text : String) (tag : Tag) : Prop :=
  ∀ (siblings : List Element) (around : List (Tag × List Element)),
    Reads text ⟨.content, siblings, around⟩ ⟨.content, [], (tag, siblings) :: around⟩

theorem IsContent.empty : IsContent "" [] := by
  intro siblings around
  rw [List.append_nil]
  exact Reads.empty _

theorem IsContent.append {front back : String} {first second : List Element}
    (start : IsContent front first) (rest : IsContent back second) :
    IsContent (front ++ back) (first ++ second) := by
  intro siblings around
  have later := rest (siblings ++ first) around
  rw [List.append_assoc] at later
  exact (start siblings around).append later

/-- A text that ends with the blank behind the name of a tag or behind a value in it. -/
def Begins (text : String) (tag : Tag) : Prop :=
  ∀ (siblings : List Element) (around : List (Tag × List Element)),
    Reads text ⟨.content, siblings, around⟩ ⟨.between tag, siblings, around⟩

theorem Begins.isOpening {begun text : String} {attributes : List (String × String)}
    (begins : Begins begun tag) (isAttributes : IsAttributes .between text attributes)
    (distinct : (keys (tag.attributes ++ attributes)).Nodup) :
    IsOpening (begun ++ text ++ ">") (tag.adding attributes) := by
  intro siblings around
  have entered : Reads ">" ⟨.valued (tag.adding attributes), siblings, around⟩
      ⟨.content, [], (tag.adding attributes, siblings) :: around⟩ := rfl
  exact ((begins siblings around).append (isAttributes tag siblings around distinct)).append entered

/-- A tag that ends itself. -/
theorem Begins.isContent {begun text : String} {attributes : List (String × String)}
    (begins : Begins begun tag) (isAttributes : IsAttributes .between text attributes)
    (distinct : (keys (tag.attributes ++ attributes)).Nodup) :
    IsContent (begun ++ text ++ " />") [.mk (tag.adding attributes) []] := by
  intro siblings around
  have ended : Reads " />" ⟨.valued (tag.adding attributes), siblings, around⟩
      ⟨.content, siblings ++ [.mk (tag.adding attributes) []], around⟩ := rfl
  exact ((begins siblings around).append (isAttributes tag siblings around distinct)).append ended

theorem reads_closing (letters : Every isNameChar tag.name) (before : List Element) :
    Reads ("</" ++ tag.name ++ ">") ⟨.content, siblings, (tag, before) :: around⟩
      ⟨.content, before ++ [.mk tag siblings], around⟩ := by
  have slash : Reads "</" ⟨.content, siblings, (tag, before) :: around⟩
      ⟨.closing [], siblings, (tag, before) :: around⟩ := rfl
  have stays (begun : List Char) (char : Char) (letter : isNameChar char = true) :
      (⟨.closing begun, siblings, (tag, before) :: around⟩ : Reader).step char =
        some ⟨.closing (begun ++ [char]), siblings, (tag, before) :: around⟩ := by
    simp [Reader.step, letter, Reader.move]
  have named : Reads tag.name ⟨.closing [], siblings, (tag, before) :: around⟩
      ⟨.closing tag.name.toList, siblings, (tag, before) :: around⟩ := scan_collecting stays letters
  have left : (⟨.closing tag.name.toList, siblings, (tag, before) :: around⟩ : Reader).step '>' =
      some ⟨.content, before ++ [.mk tag siblings], around⟩ := by
    have outside : isNameChar '>' = false := rfl
    simp [Reader.step, outside, Reader.leave]
  refine (slash.append named).append ?_
  change ((⟨.closing tag.name.toList, siblings, (tag, before) :: around⟩ : Reader).step '>').bind _ = _
  rw [left]
  rfl

theorem IsOpening.isContent {opening body : String} {children : List Element}
    (opens : IsOpening opening tag) (inside : IsContent body children)
    (letters : Every isNameChar tag.name) :
    IsContent (opening ++ body ++ ("</" ++ tag.name ++ ">")) [.mk tag children] := by
  intro siblings around
  have content := inside [] ((tag, siblings) :: around)
  exact ((opens siblings around).append content).append (reads_closing letters siblings)

/-- A text of one element and nothing else. -/
theorem read?_of_isContent {text : String} {element : Element} (content : IsContent text [element]) :
    read? text = some element := by
  have scanned : Reader.start.scan text.toList = some ⟨.content, [element], []⟩ := content [] []
  rw [read?, scanned]

/-! ### Elements of one name -/

mutual

/-- The tags of the elements with a name, in order, each behind the tags that are around it
from the outside in. -/
def Element.named (name : String) (around : List Tag) : Element → List (List Tag × Tag)
  | .mk tag children =>
      (if tag.name = name then [(around, tag)] else []) ++ namedAmong name (around ++ [tag]) children

def namedAmong (name : String) (around : List Tag) : List Element → List (List Tag × Tag)
  | [] => []
  | element :: rest => element.named name around ++ namedAmong name around rest

end

theorem namedAmong_append (name : String) (around : List Tag) (first second : List Element) :
    namedAmong name around (first ++ second) =
      namedAmong name around first ++ namedAmong name around second := by
  induction first with
  | nil => rfl
  | cons element rest ih => rw [List.cons_append, namedAmong, namedAmong, ih, List.append_assoc]

theorem namedAmong_singleton (name : String) (around : List Tag) (element : Element) :
    namedAmong name around [element] = element.named name around :=
  List.append_nil _

end DesignExport.Markup
