import ResearchTool.Python.Text

/-!
# Tokens of a markup text

The tokenizer that reads a fragment of HTML, as a machine that takes one
character at a time.  `Reads` is a text that is read from content to content;
such texts compose.  A doctype or a CDATA section is read as a comment.
-/

namespace ResearchTool.Html

open Python

inductive Token where
  | startTag (name : Text) (attributes : List (Text × Text)) (selfClosing : Bool)
  | endTag (name : Text)
  | comment (text : Text)
  | character (c : Char)
  deriving DecidableEq

/-- The references that stand for the characters of the syntax. -/
def syntaxReferences : List (Char × Text) :=
  [('&', "amp".toList), ('<', "lt".toList), ('>', "gt".toList), ('"', "quot".toList)]

/-- The character references.  `resolve` tells what an ampersand and the letters,
digits and number signs behind it stand for, in an attribute value or in
content, and before which character; a semicolon belongs to the reference. -/
structure References where
  resolve : (inValue : Bool) → (name : Text) → (next : Option Char) → Text
  documented : ∀ reference ∈ syntaxReferences, ∀ inValue,
    resolve inValue reference.2 (some ';') = [reference.1]

/-- The references of the syntax and no others. -/
def References.onlySyntax : References where
  resolve _ name next :=
    match syntaxReferences.find? (fun reference => reference.2 = name), next with
    | some reference, some ';' => [reference.1]
    | _, next => '&' :: (name ++ (next.filter (· = ';')).toList)
  documented := by
    intro reference listed inValue
    simp only [syntaxReferences, List.mem_cons, List.not_mem_nil, or_false] at listed
    rcases listed with rfl | rfl | rfl | rfl <;> decide

/-- A tag that is being read. -/
structure Tag where
  isEnd : Bool
  name : Text
  attributes : List (Text × Text)
  deriving DecidableEq

namespace Tag

/-- The second attribute of a name is dropped. -/
def add (tag : Tag) (name value : Text) : Tag :=
  if tag.attributes.any fun given => given.1 = name then tag
  else { tag with attributes := tag.attributes ++ [(name, value)] }

def token (tag : Tag) (selfClosing : Bool) : Token :=
  if tag.isEnd then .endTag tag.name else .startTag tag.name tag.attributes selfClosing

end Tag

/-- Where a reference stands. -/
inductive Context where
  | content
  | quoted (tag : Tag) (name : Text) (quote : Char) (value : Text)
  | unquoted (tag : Tag) (name value : Text)
  deriving DecidableEq

inductive State where
  | within (context : Context)
  | reference (context : Context) (name : Text)
  | tagOpen
  | endTagOpen
  | tagName (tag : Tag)
  | selfClosing (tag : Tag)
  | beforeName (tag : Tag)
  | attributeName (tag : Tag) (name : Text)
  | afterName (tag : Tag) (name : Text)
  | beforeValue (tag : Tag) (name : Text)
  | afterQuoted (tag : Tag)
  | declaration
  | declarationDash
  | bogusComment (text : Text)
  | commentStart
  | commentStartDash
  | comment (text : Text)
  | commentEndDash (text : Text)
  | commentEnd (text : Text)
  | commentEndBang (text : Text)
  deriving DecidableEq

abbrev content : State :=
  .within .content

/-! ## The steps -/

/-- White space once carriage returns are gone. -/
def isBlank (c : Char) : Bool :=
  c = '\t' || c = '\n' || c = '\x0c' || c = ' '

/-- A null character is replaced wherever it is kept. -/
def keepChar (c : Char) : Char :=
  if c = '\x00' then '\uFFFD' else c

def nameChar (c : Char) : Char :=
  asciiLower (keepChar c)

def isReferenceChar (c : Char) : Bool :=
  isAsciiAlpha c || isAsciiDigit c || c = '#'

def emit (tag : Tag) (selfClosing : Bool) : State × List Token :=
  (content, [tag.token selfClosing])

def nameStep (tag : Tag) (name : Text) (c : Char) : State × List Token :=
  if isBlank c then (.afterName tag name, [])
  else if c = '/' then (.selfClosing (tag.add name []), [])
  else if c = '>' then emit (tag.add name []) false
  else if c = '=' then (.beforeValue tag name, [])
  else (.attributeName tag (name ++ [nameChar c]), [])

def beforeNameStep (tag : Tag) (c : Char) : State × List Token :=
  if isBlank c then (.beforeName tag, [])
  else if c = '/' then (.selfClosing tag, [])
  else if c = '>' then emit tag false
  else if c = '=' then (.attributeName tag ['='], [])
  else nameStep tag [] c

def afterNameStep (tag : Tag) (name : Text) (c : Char) : State × List Token :=
  if isBlank c then (.afterName tag name, [])
  else if c = '/' then (.selfClosing (tag.add name []), [])
  else if c = '=' then (.beforeValue tag name, [])
  else if c = '>' then emit (tag.add name []) false
  else nameStep (tag.add name []) [] c

/-- A character in content or in a value, outside references. -/
def contextStep : Context → Char → State × List Token
  | .content, c =>
      if c = '&' then (.reference .content [], [])
      else if c = '<' then (.tagOpen, [])
      else (content, [.character c])
  | .quoted tag name quote value, c =>
      if c = quote then (.afterQuoted (tag.add name value), [])
      else if c = '&' then (.reference (.quoted tag name quote value) [], [])
      else (.within (.quoted tag name quote (value ++ [keepChar c])), [])
  | .unquoted tag name value, c =>
      if isBlank c then (.beforeName (tag.add name value), [])
      else if c = '&' then (.reference (.unquoted tag name value) [], [])
      else if c = '>' then emit (tag.add name value) false
      else (.within (.unquoted tag name (value ++ [keepChar c])), [])

/-- What a reference stands for goes where the reference was. -/
def Context.put (text : Text) : Context → Context × List Token
  | .content => (.content, text.map .character)
  | .quoted tag name quote value => (.quoted tag name quote (value ++ text), [])
  | .unquoted tag name value => (.unquoted tag name (value ++ text), [])

def Context.inValue : Context → Bool
  | .content => false
  | _ => true

def referenceStep (references : References) (context : Context) (name : Text) (c : Char) :
    State × List Token :=
  if isReferenceChar c then
    (.reference context (name ++ [c]), [])
  else
    let put := context.put (references.resolve context.inValue name (some c))
    if c = ';' then
      (.within put.1, put.2)
    else
      let next := contextStep put.1 c
      (next.1, put.2 ++ next.2)

def tagOpenStep (c : Char) : State × List Token :=
  if c = '!' then (.declaration, [])
  else if c = '/' then (.endTagOpen, [])
  else if isAsciiAlpha c then
    (.tagName { isEnd := false, name := [asciiLower c], attributes := [] }, [])
  else if c = '?' then (.bogusComment ['?'], [])
  else
    let next := contextStep .content c
    (next.1, .character '<' :: next.2)

def bogusStep (text : Text) (c : Char) : State × List Token :=
  if c = '>' then (content, [.comment text]) else (.bogusComment (text ++ [keepChar c]), [])

def endTagOpenStep (c : Char) : State × List Token :=
  if isAsciiAlpha c then (.tagName { isEnd := true, name := [asciiLower c], attributes := [] }, [])
  else if c = '>' then (content, [])
  else bogusStep [] c

def tagNameStep (tag : Tag) (c : Char) : State × List Token :=
  if isBlank c then (.beforeName tag, [])
  else if c = '/' then (.selfClosing tag, [])
  else if c = '>' then emit tag false
  else (.tagName { tag with name := tag.name ++ [nameChar c] }, [])

def beforeValueStep (tag : Tag) (name : Text) (c : Char) : State × List Token :=
  if isBlank c then (.beforeValue tag name, [])
  else if c = '"' ∨ c = '\'' then (.within (.quoted tag name c []), [])
  else if c = '>' then emit (tag.add name []) false
  else contextStep (.unquoted tag name []) c

def commentStep (text : Text) (c : Char) : State × List Token :=
  if c = '-' then (.commentEndDash text, []) else (.comment (text ++ [keepChar c]), [])

def commentEndStep (text : Text) (c : Char) : State × List Token :=
  if c = '>' then (content, [.comment text])
  else if c = '!' then (.commentEndBang text, [])
  else if c = '-' then (.commentEnd (text ++ ['-']), [])
  else commentStep (text ++ "--".toList) c

/-- One character is read. -/
def step (references : References) : State → Char → State × List Token
  | .within context, c => contextStep context c
  | .reference context name, c => referenceStep references context name c
  | .tagOpen, c => tagOpenStep c
  | .endTagOpen, c => endTagOpenStep c
  | .tagName tag, c => tagNameStep tag c
  | .selfClosing tag, c => if c = '>' then emit tag true else beforeNameStep tag c
  | .beforeName tag, c => beforeNameStep tag c
  | .attributeName tag name, c => nameStep tag name c
  | .afterName tag name, c => afterNameStep tag name c
  | .beforeValue tag name, c => beforeValueStep tag name c
  | .afterQuoted tag, c => beforeNameStep tag c
  | .declaration, c => if c = '-' then (.declarationDash, []) else bogusStep [] c
  | .declarationDash, c => if c = '-' then (.commentStart, []) else bogusStep ['-'] c
  | .bogusComment text, c => bogusStep text c
  | .commentStart, c =>
      if c = '-' then (.commentStartDash, [])
      else if c = '>' then (content, [.comment []])
      else commentStep [] c
  | .commentStartDash, c =>
      if c = '-' then (.commentEnd [], [])
      else if c = '>' then (content, [.comment []])
      else commentStep ['-'] c
  | .comment text, c => commentStep text c
  | .commentEndDash text, c =>
      if c = '-' then (.commentEnd text, []) else commentStep (text ++ ['-']) c
  | .commentEnd text, c => commentEndStep text c
  | .commentEndBang text, c =>
      if c = '-' then (.commentEndDash (text ++ "--!".toList), [])
      else if c = '>' then (content, [.comment text])
      else commentStep (text ++ "--!".toList) c

/-- The characters of a text are read one after the other. -/
def read (references : References) : State → Text → State × List Token
  | state, [] => (state, [])
  | state, c :: rest =>
      let next := step references state c
      let final := read references next.1 rest
      (final.1, next.2 ++ final.2)

/-- What is left to emit at the end of the text; an unfinished tag is dropped. -/
def finish (references : References) : State → List Token
  | .reference .content name =>
      (references.resolve false name none).map .character
  | .tagOpen => [.character '<']
  | .endTagOpen => [.character '<', .character '/']
  | .declaration => [.comment []]
  | .declarationDash => [.comment ['-']]
  | .bogusComment text => [.comment text]
  | .commentStart => [.comment []]
  | .commentStartDash => [.comment []]
  | .comment text => [.comment text]
  | .commentEndDash text => [.comment text]
  | .commentEnd text => [.comment text]
  | .commentEndBang text => [.comment text]
  | _ => []

/-- A carriage return, with or without a line feed, becomes a line feed. -/
def normalizeFrom : Bool → Text → Text
  | _, [] => []
  | returned, c :: rest =>
      if c = '\r' then '\n' :: normalizeFrom true rest
      else if returned ∧ c = '\n' then normalizeFrom false rest
      else c :: normalizeFrom false rest

def normalizeNewlines (text : Text) : Text :=
  normalizeFrom false text

/-- The tokens of a fragment. -/
def tokenize (references : References) (text : Text) : List Token :=
  let final := read references content (normalizeNewlines text)
  final.2 ++ finish references final.1

end ResearchTool.Html
