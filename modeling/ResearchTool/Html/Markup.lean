import Mathlib.Data.List.Nodup
import ResearchTool.Html.Tokenizer

/-!
# Markup that is read as it was meant

Trees of elements, the texts they are written as and the tokens they stand for.
Data are written in content and between double quotes only, and escaped.
`tokenize_sources` is the round trip: whatever the data are, the text of a tree
is read as the tokens of the tree.
-/

namespace ResearchTool.Html

open Python

/-! ## Escaping -/

def escapeChar (c : Char) : Text :=
  if c = '&' then "&amp;".toList
  else if c = '<' then "&lt;".toList
  else if c = '>' then "&gt;".toList
  else if c = '"' then "&quot;".toList
  else [c]

def escape (text : Text) : Text :=
  text.flatMap escapeChar

@[simp]
theorem escape_nil : escape [] = [] :=
  rfl

theorem escape_cons (c : Char) (text : Text) : escape (c :: text) = escapeChar c ++ escape text :=
  rfl

@[simp]
theorem escape_append (first second : Text) :
    escape (first ++ second) = escape first ++ escape second :=
  List.flatMap_append

theorem escapeChar_of_plain {c : Char} (amp : c ≠ '&') (lt : c ≠ '<') (gt : c ≠ '>')
    (quot : c ≠ '"') :
    escapeChar c = [c] := by
  rw [escapeChar, if_neg amp, if_neg lt, if_neg gt, if_neg quot]

/-- A character outside the syntax. -/
def isPlainChar (c : Char) : Bool :=
  c != '&' && c != '<' && c != '>' && c != '"'

/-- A text without the syntax's characters is written as it is. -/
theorem escape_of_plain {text : Text} (plain : text.all isPlainChar = true) :
    escape text = text := by
  induction text with
  | nil => rfl
  | cons c text ih =>
      obtain ⟨letter, letters⟩ := Bool.and_eq_true_iff.mp plain
      simp only [isPlainChar, Bool.and_eq_true, bne_iff_ne] at letter
      rw [escape_cons, ih letters,
        escapeChar_of_plain letter.1.1.1 letter.1.1.2 letter.1.2 letter.2]
      rfl

/-- The reference a character of the syntax is written as. -/
theorem escapeChar_of_reference {reference : Char × Text} (listed : reference ∈ syntaxReferences) :
    escapeChar reference.1 = '&' :: (reference.2 ++ [';']) := by
  simp only [syntaxReferences, List.mem_cons, List.not_mem_nil, or_false] at listed
  rcases listed with rfl | rfl | rfl | rfl <;> rfl

/-- A character is written as a reference or as itself. -/
theorem escapeChar_cases (c : Char) :
    (∃ reference ∈ syntaxReferences, reference.1 = c) ∨
      (c ≠ '&' ∧ c ≠ '<' ∧ c ≠ '>' ∧ c ≠ '"') := by
  by_cases listed : c ∈ syntaxReferences.map Prod.fst
  · obtain ⟨reference, member, same⟩ := List.mem_map.mp listed
    exact .inl ⟨reference, member, same⟩
  · simp only [syntaxReferences, List.map_cons, List.map_nil, List.mem_cons, List.not_mem_nil,
      or_false, not_or] at listed
    exact .inr listed

/-! ## Reading in parts -/

variable {references : References}

@[simp]
theorem read_nil (state : State) : read references state [] = (state, []) :=
  rfl

theorem read_cons (state : State) (c : Char) (rest : Text) :
    read references state (c :: rest) =
      ((read references (step references state c).1 rest).1,
        (step references state c).2 ++ (read references (step references state c).1 rest).2) :=
  rfl

theorem read_append (state : State) (first second : Text) :
    read references state (first ++ second) =
      ((read references (read references state first).1 second).1,
        (read references state first).2 ++
          (read references (read references state first).1 second).2) := by
  induction first generalizing state with
  | nil => simp
  | cons c rest ih => simp [read_cons, ih]

/-- `second` is read from where `first` ends. -/
theorem read_of_parts {state middle last : State} (first : Text) {second : Text}
    {before after : List Token} (begins : read references state first = (middle, before))
    (ends : read references middle second = (last, after)) :
    read references state (first ++ second) = (last, before ++ after) := by
  rw [read_append, begins, ends]

/-- A reference is read up to its semicolon. -/
theorem read_reference (context : Context) (name rest : Text)
    (letters : ∀ c ∈ rest, isReferenceChar c = true) :
    read references (.reference context name) (rest ++ [';']) =
      (.within (context.put (references.resolve context.inValue (name ++ rest) (some ';'))).1,
        (context.put (references.resolve context.inValue (name ++ rest) (some ';'))).2) := by
  induction rest generalizing name with
  | nil =>
      simp only [List.nil_append, List.append_nil, read_cons, read_nil]
      rfl
  | cons c rest ih =>
      have letter : isReferenceChar c = true := letters c List.mem_cons_self
      have moved : step references (.reference context name) c =
          (.reference context (name ++ [c]), []) := by
        simp [step, referenceStep, letter]
      rw [List.cons_append, read_cons, moved,
        ih _ fun d member => letters d (List.mem_cons_of_mem _ member)]
      simp

/-- What a value is read as. -/
def keepText (text : Text) : Text :=
  text.map keepChar

@[simp]
theorem keepText_append (first second : Text) :
    keepText (first ++ second) = keepText first ++ keepText second :=
  List.map_append

theorem letters_of_reference {reference : Char × Text} (listed : reference ∈ syntaxReferences) :
    (∀ c ∈ reference.2, isReferenceChar c = true) ∧ keepChar reference.1 = reference.1 := by
  simp only [syntaxReferences, List.mem_cons, List.not_mem_nil, or_false] at listed
  rcases listed with rfl | rfl | rfl | rfl <;> decide

/-- An escaped character in content. -/
theorem read_escapeChar_content (c : Char) :
    read references content (escapeChar c) = (content, [.character c]) := by
  rcases escapeChar_cases c with ⟨reference, listed, rfl⟩ | ⟨amp, lt, gt, quot⟩
  · have opened : step references content '&' = (.reference .content [], []) := rfl
    rw [escapeChar_of_reference listed, read_cons, opened,
      read_reference .content [] _ (letters_of_reference listed).1, List.nil_append,
      references.documented reference listed]
    rfl
  · rw [escapeChar_of_plain amp lt gt quot, read_cons, read_nil]
    simp [step, contextStep, amp, lt]

/-- An escaped character between double quotes. -/
theorem read_escapeChar_quoted (tag : Tag) (name value : Text) (c : Char) :
    read references (.within (.quoted tag name '"' value)) (escapeChar c) =
      (.within (.quoted tag name '"' (value ++ [keepChar c])), []) := by
  rcases escapeChar_cases c with ⟨reference, listed, rfl⟩ | ⟨amp, lt, gt, quot⟩
  · have opened : step references (.within (.quoted tag name '"' value)) '&' =
        (.reference (.quoted tag name '"' value) [], []) := rfl
    rw [escapeChar_of_reference listed, read_cons, opened,
      read_reference (.quoted tag name '"' value) [] _ (letters_of_reference listed).1,
      List.nil_append, references.documented reference listed, (letters_of_reference listed).2]
    rfl
  · rw [escapeChar_of_plain amp lt gt quot, read_cons, read_nil]
    simp [step, contextStep, amp, quot]

/-- Escaped data are read as text. -/
theorem read_escape_content (text : Text) :
    read references content (escape text) = (content, text.map .character) := by
  induction text with
  | nil => rfl
  | cons c text ih =>
      rw [escape_cons, read_of_parts _ (read_escapeChar_content c) ih]
      rfl

theorem read_escape_quoted (tag : Tag) (name value text : Text) :
    read references (.within (.quoted tag name '"' value)) (escape text) =
      (.within (.quoted tag name '"' (value ++ keepText text)), []) := by
  induction text generalizing value with
  | nil => simp [keepText]
  | cons c text ih =>
      rw [escape_cons, read_of_parts _ (read_escapeChar_quoted tag name value c) (ih _)]
      simp [keepText]

/-! ## Tags -/

/-- An attribute and the white space before it. -/
structure Attribute where
  lead : Text
  name : Text
  value : Text

/-- A letter of a tag's name. -/
def isTagChar (c : Char) : Bool :=
  !isBlank c && c != '/' && c != '>' && c != '\r'

/-- A letter of an attribute's name. -/
def isAttributeChar (c : Char) : Bool :=
  isTagChar c && c != '='

def isTagName : Text → Bool
  | [] => false
  | first :: rest => isAsciiAlpha first && rest.all isTagChar

/-- A name as it is read. -/
def keepName (name : Text) : Text :=
  name.map nameChar

namespace Attribute

def source (given : Attribute) : Text :=
  given.lead ++ (given.name ++ ('=' :: '"' :: (escape given.value ++ ['"'])))

/-- The attribute as it is read. -/
def pair (given : Attribute) : Text × Text :=
  (keepName given.name, keepText given.value)

structure WellFormed (given : Attribute) : Prop where
  spaced : given.lead ≠ []
  blank : ∀ c ∈ given.lead, isBlank c = true
  named : given.name ≠ []
  letters : ∀ c ∈ given.name, isAttributeChar c = true

end Attribute

/-- The states in which a tag may go on or end. -/
inductive Rests (tag : Tag) : State → Prop where
  | name : Rests tag (.tagName tag)
  | value : Rests tag (.afterQuoted tag)

theorem not_blank_of_attributeChar {c : Char} (letter : isAttributeChar c = true) :
    isBlank c = false ∧ c ≠ '/' ∧ c ≠ '>' ∧ c ≠ '=' := by
  simp only [isAttributeChar, isTagChar, Bool.and_eq_true, Bool.not_eq_true', bne_iff_ne] at letter
  exact ⟨letter.1.1.1.1, letter.1.1.1.2, letter.1.1.2, letter.2⟩

theorem read_tagName (tag : Tag) (name : Text) (letters : ∀ c ∈ name, isTagChar c = true) :
    read references (.tagName tag) name =
      (.tagName { tag with name := tag.name ++ keepName name }, []) := by
  induction name generalizing tag with
  | nil => simp [keepName]
  | cons c rest ih =>
      have letter := letters c List.mem_cons_self
      simp only [isTagChar, Bool.and_eq_true, Bool.not_eq_true', bne_iff_ne] at letter
      have moved : step references (.tagName tag) c =
          (.tagName { tag with name := tag.name ++ [nameChar c] }, []) := by
        simp [step, tagNameStep, letter.1.1.1, letter.1.1.2, letter.1.2]
      rw [read_cons, moved, ih _ fun d member => letters d (List.mem_cons_of_mem _ member)]
      simp [keepName]

theorem read_blanks (tag : Tag) (lead : Text) (blank : ∀ c ∈ lead, isBlank c = true) :
    read references (.beforeName tag) lead = (.beforeName tag, []) := by
  induction lead with
  | nil => rfl
  | cons c rest ih =>
      have moved : step references (.beforeName tag) c = (.beforeName tag, []) := by
        simp [step, beforeNameStep, blank c List.mem_cons_self]
      rw [read_cons, moved, ih fun d member => blank d (List.mem_cons_of_mem _ member)]
      rfl

/-- White space ends a tag's name or a value. -/
theorem Rests.read_lead {tag : Tag} {state : State} (rests : Rests tag state) {lead : Text}
    (spaced : lead ≠ []) (blank : ∀ c ∈ lead, isBlank c = true) :
    read references state lead = (.beforeName tag, []) := by
  obtain ⟨c, rest, rfl⟩ := List.exists_cons_of_ne_nil spaced
  have blankHead : isBlank c = true := blank c List.mem_cons_self
  have moved : step references state c = (.beforeName tag, []) := by
    cases rests with
    | name => simp [step, tagNameStep, blankHead]
    | value => simp [step, beforeNameStep, blankHead]
  rw [read_cons, moved,
    read_blanks tag rest fun d member => blank d (List.mem_cons_of_mem _ member)]
  rfl

theorem read_attributeName (tag : Tag) (name rest : Text)
    (letters : ∀ c ∈ rest, isAttributeChar c = true) :
    read references (.attributeName tag name) rest =
      (.attributeName tag (name ++ keepName rest), []) := by
  induction rest generalizing name with
  | nil => simp [keepName]
  | cons c rest ih =>
      obtain ⟨blank, slash, greater, equals⟩ :=
        not_blank_of_attributeChar (letters c List.mem_cons_self)
      have moved : step references (.attributeName tag name) c =
          (.attributeName tag (name ++ [nameChar c]), []) := by
        simp [step, nameStep, blank, slash, greater, equals]
      rw [read_cons, moved, ih _ fun d member => letters d (List.mem_cons_of_mem _ member)]
      simp [keepName]

theorem read_beforeName (tag : Tag) {name : Text} (named : name ≠ [])
    (letters : ∀ c ∈ name, isAttributeChar c = true) :
    read references (.beforeName tag) name = (.attributeName tag (keepName name), []) := by
  obtain ⟨c, rest, rfl⟩ := List.exists_cons_of_ne_nil named
  obtain ⟨blank, slash, greater, equals⟩ :=
    not_blank_of_attributeChar (letters c List.mem_cons_self)
  have moved : step references (.beforeName tag) c = (.attributeName tag [nameChar c], []) := by
    simp [step, beforeNameStep, nameStep, blank, slash, greater, equals]
  rw [read_cons, moved,
    read_attributeName tag _ rest fun d member => letters d (List.mem_cons_of_mem _ member)]
  rfl

theorem Rests.read_attribute {tag : Tag} {state : State} (rests : Rests tag state)
    {given : Attribute} (formed : given.WellFormed) :
    read references state given.source =
      (.afterQuoted (tag.add given.pair.1 given.pair.2), []) := by
  have quoted := @read_escape_quoted references tag (keepName given.name) []
    given.value
  have closed : read references
      (.within (.quoted tag (keepName given.name) '"' (keepText given.value))) ['"'] =
        (.afterQuoted (tag.add given.pair.1 given.pair.2), []) := rfl
  apply read_of_parts _ (rests.read_lead formed.spaced formed.blank)
  apply read_of_parts _ (read_beforeName tag formed.named formed.letters)
  exact read_of_parts ['=', '"'] rfl (read_of_parts _ quoted closed)

/-- A tag with further attributes. -/
def Tag.extend (tag : Tag) (attributes : List Attribute) : Tag :=
  attributes.foldl (fun tag given => tag.add given.pair.1 given.pair.2) tag

theorem Rests.read_attributes {tag : Tag} {state : State} (rests : Rests tag state)
    (attributes : List Attribute) (formed : ∀ given ∈ attributes, given.WellFormed) :
    ∃ last, read references state (attributes.flatMap Attribute.source) = (last, []) ∧
      Rests (tag.extend attributes) last := by
  induction attributes generalizing tag state with
  | nil => exact ⟨state, rfl, rests⟩
  | cons given attributes ih =>
      obtain ⟨last, ends, rested⟩ :=
        ih (@Rests.value (tag.add given.pair.1 given.pair.2))
          fun other member => formed other (List.mem_cons_of_mem _ member)
      refine ⟨last, ?_, rested⟩
      rw [List.flatMap_cons]
      exact read_of_parts _ (rests.read_attribute (formed given List.mem_cons_self)) ends

/-- No name occurs twice, so no attribute is dropped. -/
theorem Tag.extend_attributes (tag : Tag) (attributes : List Attribute)
    (distinct : (tag.attributes.map Prod.fst ++
      attributes.map fun given => given.pair.1).Nodup) :
    tag.extend attributes =
      { tag with attributes := tag.attributes ++ attributes.map Attribute.pair } := by
  induction attributes generalizing tag with
  | nil => simp [extend]
  | cons given attributes ih =>
      have fresh : given.pair.1 ∉ tag.attributes.map Prod.fst := by
        intro member
        exact (List.disjoint_of_nodup_append distinct) member (by simp)
      have added : tag.add given.pair.1 given.pair.2 =
          { tag with attributes := tag.attributes ++ [given.pair] } := by
        rw [add, if_neg]
        intro found
        obtain ⟨other, member, same⟩ := List.any_eq_true.mp found
        exact fresh (List.mem_map.mpr ⟨other, member, of_decide_eq_true same⟩)
      rw [extend, List.foldl_cons, ← extend, added, ih]
      · simp
      · simpa using distinct

/-! ## Trees -/

inductive Node where
  | text (data : Text)
  | comment (data : Text)
  /-- A tag without an end tag; `closed` tells whether it ends in a slash. -/
  | single (name : Text) (attributes : List Attribute) (closed : Bool)
  | element (name : Text) (attributes : List Attribute) (children : List Node)

/-- A start tag up to its end. -/
def opening (name : Text) (attributes : List Attribute) : Text :=
  '<' :: (name ++ attributes.flatMap Attribute.source)

def closing (closed : Bool) : Text :=
  if closed then "/>".toList else ">".toList

/-- No attribute of a tag occurs twice. -/
structure IsTag (name : Text) (attributes : List Attribute) : Prop where
  named : isTagName name = true
  formed : ∀ given ∈ attributes, given.WellFormed
  distinct : (attributes.map fun given => given.pair.1).Nodup

/-- A letter of a comment that cannot end it. -/
def isCommentChar (c : Char) : Bool :=
  c != '-' && c != '>' && c != '\r'

namespace Node

mutual

/-- The text a node is written as. -/
def source : Node → Text
  | .text data => escape data
  | .comment data => '<' :: '!' :: '-' :: '-' :: (data ++ ['-', '-', '>'])
  | .single name attributes closed => opening name attributes ++ closing closed
  | .element name attributes children =>
      opening name attributes ++ ('>' :: (sources children ++ ('<' :: '/' :: (name ++ ['>']))))

def sources : List Node → Text
  | [] => []
  | node :: rest => source node ++ sources rest

end

mutual

/-- The tokens of a node. -/
def tokens : Node → List Token
  | .text data => data.map .character
  | .comment data => [.comment (keepText data)]
  | .single name attributes closed =>
      [.startTag (keepName name) (attributes.map Attribute.pair) closed]
  | .element name attributes children =>
      .startTag (keepName name) (attributes.map Attribute.pair) false ::
        (tokensOf children ++ [.endTag (keepName name)])

def tokensOf : List Node → List Token
  | [] => []
  | node :: rest => tokens node ++ tokensOf rest

end

def isText : Node → Bool
  | .text _ => true
  | _ => false

mutual

def WellFormed : Node → Prop
  | .text _ => True
  | .comment data => ∀ c ∈ data, isCommentChar c = true
  | .single name attributes _ => IsTag name attributes
  | .element name attributes children => IsTag name attributes ∧ AllWellFormed children

/-- No text follows a text. -/
def AllWellFormed : List Node → Prop
  | [] => True
  | node :: rest =>
      WellFormed node ∧ (node.isText = true → ∀ next ∈ rest.head?, next.isText = false) ∧
        AllWellFormed rest

end

/-- Whatever follows, it does not follow a text. -/
def Sealed (nodes : List Node) : Prop :=
  ∀ last ∈ nodes.getLast?, last.isText = false

theorem sources_append (first second : List Node) :
    sources (first ++ second) = sources first ++ sources second := by
  induction first with
  | nil => rfl
  | cons node rest ih => simp [sources, ih]

theorem allWellFormed_append {first second : List Node} (formed : AllWellFormed first)
    (isSealed : Sealed first) (others : AllWellFormed second) :
    AllWellFormed (first ++ second) := by
  induction first with
  | nil => exact others
  | cons node rest ih =>
      obtain ⟨one, apart, more⟩ := formed
      cases rest with
      | nil =>
          refine ⟨one, ?_, others⟩
          intro isText
          rw [isSealed node rfl] at isText
          cases isText
      | cons next later =>
          exact ⟨one, apart, ih more fun last found => isSealed last (by simpa using found)⟩

theorem allWellFormed_flatMap {α : Type} {nodesOf : α → List Node} (items : List α)
    (formed : ∀ item, AllWellFormed (nodesOf item)) (isSealed : ∀ item, Sealed (nodesOf item)) :
    AllWellFormed (items.flatMap nodesOf) := by
  induction items with
  | nil => exact trivial
  | cons item rest ih => exact allWellFormed_append (formed item) (isSealed item) ih

end Node

/-! ## The round trip -/

/-- The name of a tag is read from its first letter. -/
theorem read_name {name : Text} (named : isTagName name = true) :
    read references .tagOpen name =
        (.tagName { isEnd := false, name := keepName name, attributes := [] }, []) ∧
      read references .endTagOpen name =
        (.tagName { isEnd := true, name := keepName name, attributes := [] }, []) := by
  cases name with
  | nil => cases named
  | cons c rest =>
      obtain ⟨letter, letters⟩ := Bool.and_eq_true_iff.mp named
      have kept : keepChar c = c := by
        rw [keepChar, if_neg]
        rintro rfl
        exact absurd letter (by decide)
      have other : c ≠ '!' ∧ c ≠ '/' := by
        constructor <;> rintro rfl <;> exact absurd letter (by decide)
      have following := @read_tagName references
      constructor
      · have moved : step references .tagOpen c =
            (.tagName { isEnd := false, name := [nameChar c], attributes := [] }, []) := by
          simp [step, tagOpenStep, other.1, other.2, letter, nameChar, kept]
        rw [read_cons, moved, following _ rest (List.all_eq_true.mp letters)]
        rfl
      · have moved : step references .endTagOpen c =
            (.tagName { isEnd := true, name := [nameChar c], attributes := [] }, []) := by
          simp [step, endTagOpenStep, letter, nameChar, kept]
        rw [read_cons, moved, following _ rest (List.all_eq_true.mp letters)]
        rfl

/-- A start tag is read up to its end. -/
theorem read_opening {name : Text} {attributes : List Attribute} (isTag : IsTag name attributes) :
    ∃ last, read references content (opening name attributes) = (last, []) ∧
      Rests { isEnd := false, name := keepName name, attributes := attributes.map Attribute.pair }
        last := by
  obtain ⟨last, ends, rests⟩ :=
    (@Rests.name { isEnd := false, name := keepName name, attributes := [] }).read_attributes
      attributes isTag.formed
  have distinct : (([] : List (Text × Text)).map Prod.fst ++
      attributes.map fun given => given.pair.1).Nodup := isTag.distinct
  rw [Tag.extend_attributes _ _ distinct] at rests
  refine ⟨last, ?_, rests⟩
  exact read_of_parts ['<'] rfl (read_of_parts _ (read_name isTag.named).1 ends)

theorem Rests.read_closing {tag : Tag} {state : State} (rests : Rests tag state) (closed : Bool) :
    read references state (closing closed) = (content, [tag.token closed]) := by
  cases rests <;> cases closed <;> rfl

theorem read_commentText (text data : Text) (letters : ∀ c ∈ data, isCommentChar c = true) :
    read references (.comment text) data = (.comment (text ++ keepText data), []) := by
  induction data generalizing text with
  | nil => simp [keepText]
  | cons c rest ih =>
      have letter := letters c List.mem_cons_self
      simp only [isCommentChar, Bool.and_eq_true, bne_iff_ne] at letter
      have moved : step references (.comment text) c = (.comment (text ++ [keepChar c]), []) := by
        simp [step, commentStep, letter.1.1]
      rw [read_cons, moved, ih _ fun d member => letters d (List.mem_cons_of_mem _ member)]
      simp [keepText]

theorem read_comment (data : Text) (letters : ∀ c ∈ data, isCommentChar c = true) :
    read references content ('<' :: '!' :: '-' :: '-' :: (data ++ ['-', '-', '>'])) =
      (content, [.comment (keepText data)]) := by
  have opened : read references content ['<', '!', '-', '-'] = (.commentStart, []) := rfl
  apply read_of_parts _ opened
  cases data with
  | nil => rfl
  | cons c rest =>
      have letter := letters c List.mem_cons_self
      simp only [isCommentChar, Bool.and_eq_true, bne_iff_ne] at letter
      have begins : read references .commentStart [c] = (.comment [keepChar c], []) := by
        simp [read_cons, step, commentStep, letter.1.1, letter.1.2]
      have middle := @read_commentText references [keepChar c] rest
        fun d member => letters d (List.mem_cons_of_mem _ member)
      exact read_of_parts [c] begins (read_of_parts _ middle rfl)

mutual

/-- A well-formed tree is read as its tokens. -/
theorem read_source : (node : Node) → node.WellFormed →
    read references content node.source = (content, node.tokens)
  | .text data, _ => read_escape_content data
  | .comment data, formed => read_comment data formed
  | .single name attributes closed, isTag => by
      obtain ⟨last, opened, rests⟩ := @read_opening references _ _ isTag
      exact read_of_parts _ opened (rests.read_closing closed)
  | .element name attributes children, ⟨isTag, formed⟩ => by
      obtain ⟨last, opened, rests⟩ := @read_opening references _ _ isTag
      have inner := read_sources children formed
      have ended : read references content ('<' :: '/' :: (name ++ ['>'])) =
          (content, [.endTag (keepName name)]) :=
        read_of_parts ['<', '/'] rfl (read_of_parts _ (read_name isTag.named).2 rfl)
      exact read_of_parts _ opened
        (read_of_parts ['>'] (rests.read_closing false) (read_of_parts _ inner ended))

theorem read_sources : (nodes : List Node) → Node.AllWellFormed nodes →
    read references content (Node.sources nodes) = (content, Node.tokensOf nodes)
  | [], _ => rfl
  | node :: rest, ⟨formed, _, others⟩ =>
      read_of_parts _ (read_source node formed) (read_sources rest others)

end

/-! ## Newlines -/

/-- The flag of `normalizeFrom` behind a text. -/
def returnedAfter : Bool → Text → Bool
  | returned, [] => returned
  | _, c :: rest => returnedAfter (c = '\r') rest

theorem normalizeFrom_append (returned : Bool) (first second : Text) :
    normalizeFrom returned (first ++ second) =
      normalizeFrom returned first ++ normalizeFrom (returnedAfter returned first) second := by
  induction first generalizing returned with
  | nil => rfl
  | cons c rest ih =>
      by_cases isReturn : c = '\r'
      · simp [normalizeFrom, returnedAfter, isReturn, ih]
      · by_cases skipped : returned = true ∧ c = '\n'
        · simp [normalizeFrom, returnedAfter, skipped, ih]
        · simp [normalizeFrom, returnedAfter, isReturn, skipped, ih]

theorem returnedAfter_append (returned : Bool) (first second : Text) :
    returnedAfter returned (first ++ second) =
      returnedAfter (returnedAfter returned first) second := by
  induction first generalizing returned with
  | nil => rfl
  | cons c rest ih => exact ih _

theorem normalizeFrom_of_ne (returned : Bool) {c : Char} (other : c ≠ '\n') (rest : Text) :
    normalizeFrom returned (c :: rest) = normalizeFrom false (c :: rest) := by
  simp [normalizeFrom, other]

/-- A text without carriage returns is left as it is. -/
theorem normalize_plain {text : Text} (plain : ∀ c ∈ text, c ≠ '\r') :
    normalizeFrom false text = text ∧ returnedAfter false text = false := by
  induction text with
  | nil => exact ⟨rfl, rfl⟩
  | cons c rest ih =>
      have isOther : c ≠ '\r' := plain c List.mem_cons_self
      obtain ⟨same, settled⟩ := ih fun d member => plain d (List.mem_cons_of_mem _ member)
      constructor
      · simp [normalizeFrom, isOther, same]
      · simpa [returnedAfter, isOther] using settled

/-- No newline is written as a reference. -/
theorem normalize_escapeChar (returned : Bool) (c : Char) :
    normalizeFrom returned (escapeChar c) = escape (normalizeFrom returned [c]) ∧
      returnedAfter returned (escapeChar c) = returnedAfter returned [c] := by
  rcases escapeChar_cases c with ⟨reference, listed, rfl⟩ | ⟨amp, lt, gt, quot⟩
  · simp only [syntaxReferences, List.mem_cons, List.not_mem_nil, or_false] at listed
    rcases listed with rfl | rfl | rfl | rfl <;> cases returned <;> decide
  · rw [escapeChar_of_plain amp lt gt quot]
    refine ⟨?_, rfl⟩
    by_cases isReturn : c = '\r'
    · subst isReturn
      rfl
    · by_cases skipped : returned = true ∧ c = '\n'
      · simp [normalizeFrom, skipped]
      · simp [normalizeFrom, isReturn, skipped, escape_cons, escapeChar_of_plain amp lt gt quot]

theorem normalize_escape (returned : Bool) (text : Text) :
    normalizeFrom returned (escape text) = escape (normalizeFrom returned text) ∧
      returnedAfter returned (escape text) = returnedAfter returned text := by
  induction text generalizing returned with
  | nil => exact ⟨rfl, rfl⟩
  | cons c rest ih =>
      obtain ⟨first, flag⟩ := normalize_escapeChar returned c
      obtain ⟨others, settled⟩ := ih (returnedAfter returned [c])
      have parts : normalizeFrom returned (c :: rest) =
          normalizeFrom returned [c] ++ normalizeFrom (returnedAfter returned [c]) rest :=
        normalizeFrom_append returned [c] rest
      constructor
      · rw [escape_cons, normalizeFrom_append, first, flag, others, parts, escape_append]
      · rw [escape_cons, returnedAfter_append, flag, settled]
        rfl

/-- `before` becomes `after`, and no newline is open behind it. -/
structure Normalizes (returned : Bool) (before after : Text) : Prop where
  becomes : normalizeFrom returned before = after
  settled : returnedAfter returned before = false

namespace Normalizes

theorem append {returned : Bool} {first second before after : Text}
    (begins : Normalizes returned first before) (ends : Normalizes false second after) :
    Normalizes returned (first ++ second) (before ++ after) where
  becomes := by rw [normalizeFrom_append, begins.becomes, begins.settled, ends.becomes]
  settled := by rw [returnedAfter_append, begins.settled, ends.settled]

theorem plain (text : Text) (plain : ∀ c ∈ text, c ≠ '\r') : Normalizes false text text :=
  ⟨(normalize_plain plain).1, (normalize_plain plain).2⟩

/-- A text that does not begin with a line feed closes what is open. -/
theorem cons {c : Char} {rest after : Text} (other : c ≠ '\n')
    (normalizes : Normalizes false (c :: rest) after) (returned : Bool) :
    Normalizes returned (c :: rest) after where
  becomes := (normalizeFrom_of_ne returned other rest).trans normalizes.becomes
  settled := normalizes.settled

/-- Data before a text that closes what they leave open. -/
theorem escaped {returned : Bool} (data : Text) {rest after : Text}
    (closes : ∀ flag, Normalizes flag rest after) :
    Normalizes returned (escape data ++ rest) (escape (normalizeFrom returned data) ++ after) where
  becomes := by
    rw [normalizeFrom_append, (normalize_escape returned data).1, (closes _).becomes]
  settled := by rw [returnedAfter_append, (closes _).settled]

end Normalizes

def Attribute.normalized (given : Attribute) : Attribute :=
  { given with value := normalizeNewlines given.value }

namespace Node

mutual

/-- The node with the newlines of its data normalized. -/
def normalized : Node → Node
  | .text data => .text (normalizeNewlines data)
  | .comment data => .comment data
  | .single name attributes closed => .single name (attributes.map Attribute.normalized) closed
  | .element name attributes children =>
      .element name (attributes.map Attribute.normalized) (allNormalized children)

def allNormalized : List Node → List Node
  | [] => []
  | node :: rest => normalized node :: allNormalized rest

end

@[simp]
theorem isText_normalized (node : Node) : node.normalized.isText = node.isText := by
  cases node <;> rfl

end Node

theorem Attribute.WellFormed.normalized {given : Attribute} (formed : given.WellFormed) :
    given.normalized.WellFormed :=
  ⟨formed.spaced, formed.blank, formed.named, formed.letters⟩

theorem IsTag.normalized {name : Text} {attributes : List Attribute}
    (isTag : IsTag name attributes) :
    IsTag name (attributes.map Attribute.normalized) where
  named := isTag.named
  formed := by
    intro given member
    obtain ⟨original, listed, rfl⟩ := List.mem_map.mp member
    exact (isTag.formed original listed).normalized
  distinct := by
    rw [List.map_map]
    exact isTag.distinct

mutual

theorem wellFormed_normalized : (node : Node) → node.WellFormed → node.normalized.WellFormed
  | .text _, _ => trivial
  | .comment _, formed => formed
  | .single _ _ _, isTag => IsTag.normalized isTag
  | .element _ _ children, ⟨isTag, formed⟩ =>
      ⟨isTag.normalized, allWellFormed_normalized children formed⟩

theorem allWellFormed_normalized : (nodes : List Node) → Node.AllWellFormed nodes →
    Node.AllWellFormed (Node.allNormalized nodes)
  | [], _ => trivial
  | node :: rest, ⟨formed, apart, others⟩ => by
      refine ⟨wellFormed_normalized node formed, ?_, allWellFormed_normalized rest others⟩
      intro isText next found
      rw [Node.isText_normalized] at isText
      cases rest with
      | nil => cases found
      | cons following later =>
          cases found
          rw [Node.isText_normalized]
          exact apart isText following rfl

end

theorem Attribute.WellFormed.normalizes {given : Attribute} (formed : given.WellFormed) :
    Normalizes false given.source given.normalized.source := by
  have lead : ∀ c ∈ given.lead, c ≠ '\r' := by
    rintro c member rfl
    exact absurd (formed.blank _ member) (by decide)
  have name : ∀ c ∈ given.name, c ≠ '\r' := by
    rintro c member rfl
    exact absurd (formed.letters _ member) (by decide)
  have quote : ∀ flag, Normalizes flag ['"'] ['"'] :=
    Normalizes.cons (by decide) (.plain _ (by decide))
  apply (Normalizes.plain _ lead).append
  apply (Normalizes.plain _ name).append
  exact (Normalizes.plain ['=', '"'] (by decide)).append (.escaped given.value quote)

theorem normalizes_attributes (attributes : List Attribute)
    (formed : ∀ given ∈ attributes, given.WellFormed) :
    Normalizes false (attributes.flatMap Attribute.source)
      ((attributes.map Attribute.normalized).flatMap Attribute.source) := by
  induction attributes with
  | nil => exact ⟨rfl, rfl⟩
  | cons given attributes ih =>
      exact (formed given List.mem_cons_self).normalizes.append
        (ih fun other member => formed other (List.mem_cons_of_mem _ member))

theorem isTagName_plain {name : Text} (named : isTagName name = true) : ∀ c ∈ name, c ≠ '\r' := by
  cases name with
  | nil => cases named
  | cons first rest =>
      obtain ⟨letter, letters⟩ := Bool.and_eq_true_iff.mp named
      rintro c member rfl
      rcases List.mem_cons.mp member with rfl | later
      · exact absurd letter (by decide)
      · exact absurd (List.all_eq_true.mp letters _ later) (by decide)

theorem IsTag.normalizes {name : Text} {attributes : List Attribute}
    (isTag : IsTag name attributes)
    (returned : Bool) :
    Normalizes returned (opening name attributes)
      (opening name (attributes.map Attribute.normalized)) := by
  apply Normalizes.cons (by decide)
  apply (Normalizes.plain ['<'] (by decide)).append
  exact (Normalizes.plain _ (isTagName_plain isTag.named)).append
    (normalizes_attributes attributes isTag.formed)

theorem normalizes_closing (closed : Bool) :
    Normalizes false (closing closed) (closing closed) := by
  apply Normalizes.plain _
  cases closed <;> decide

mutual

theorem normalizes_source : (node : Node) → node.WellFormed → node.isText = false → (flag : Bool) →
    Normalizes flag node.source node.normalized.source
  | .comment data, formed, _, flag => by
      have letters : ∀ c ∈ data, c ≠ '\r' := by
        rintro c member rfl
        exact absurd (formed _ member) (by decide)
      apply Normalizes.cons (by decide)
      apply (Normalizes.plain ['<', '!', '-', '-'] (by decide)).append
      exact (Normalizes.plain _ letters).append (.plain _ (by decide))
  | .single name attributes closed, isTag, _, flag =>
      (IsTag.normalizes isTag flag).append (normalizes_closing closed)
  | .element name attributes children, ⟨isTag, formed⟩, _, flag => by
      have ended : ∀ flag, Normalizes flag ('<' :: '/' :: (name ++ ['>']))
          ('<' :: '/' :: (name ++ ['>'])) := by
        apply Normalizes.cons (by decide)
        apply (Normalizes.plain ['<', '/'] (by decide)).append
        exact (Normalizes.plain _ (isTagName_plain isTag.named)).append (.plain _ (by decide))
      have inner : Normalizes false
          (Node.sources children ++ ('<' :: '/' :: (name ++ ['>'])))
          (Node.sources (Node.allNormalized children) ++ ('<' :: '/' :: (name ++ ['>']))) := by
        constructor
        · rw [normalizeFrom_append, normalize_sources children formed, (ended _).becomes]
        · rw [returnedAfter_append, (ended _).settled]
      exact (isTag.normalizes flag).append
        ((Normalizes.plain ['>'] (by decide)).append inner)

/-- Newlines are normalized in the data of each node. -/
theorem normalize_sources : (nodes : List Node) → Node.AllWellFormed nodes →
    normalizeFrom false (Node.sources nodes) = Node.sources (Node.allNormalized nodes)
  | [], _ => rfl
  | .text data :: rest, ⟨_, apart, others⟩ => by
      have begins : ∀ flag, normalizeFrom flag (Node.sources rest) =
          normalizeFrom false (Node.sources rest) := by
        intro flag
        cases rest with
        | nil => cases flag <;> rfl
        | cons next later =>
            have other := apart rfl next rfl
            cases next with
            | text => cases other
            | _ => exact normalizeFrom_of_ne flag (by decide) _
      have split : Node.sources (.text data :: rest) = escape data ++ Node.sources rest := rfl
      rw [split, normalizeFrom_append, (normalize_escape false data).1, begins,
        normalize_sources rest others]
      rfl
  | .comment data :: rest, ⟨formed, _, others⟩ => by
      have first := normalizes_source (.comment data) formed rfl false
      rw [Node.sources, normalizeFrom_append, first.becomes, first.settled,
        normalize_sources rest others]
      rfl
  | .single name attributes closed :: rest, ⟨formed, _, others⟩ => by
      have first := normalizes_source (.single name attributes closed) formed rfl false
      rw [Node.sources, normalizeFrom_append, first.becomes, first.settled,
        normalize_sources rest others]
      rfl
  | .element name attributes children :: rest, ⟨formed, _, others⟩ => by
      have first := normalizes_source (.element name attributes children) formed rfl false
      rw [Node.sources, normalizeFrom_append, first.becomes, first.settled,
        normalize_sources rest others]
      rfl

end

/-- Whatever the data are, the text of a well-formed tree is read as the tree. -/
theorem tokenize_sources (references : References) {nodes : List Node}
    (formed : Node.AllWellFormed nodes) :
    tokenize references (Node.sources nodes) = Node.tokensOf (Node.allNormalized nodes) := by
  rw [tokenize, normalizeNewlines, normalize_sources nodes formed,
    read_sources _ (allWellFormed_normalized nodes formed)]
  exact List.append_nil _

end ResearchTool.Html
