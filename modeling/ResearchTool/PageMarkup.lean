import ResearchTool.Html.Markup
import ResearchTool.CommitChart
import ResearchTool.Dashboard
import ResearchTool.Log

/-!
# The markup that the dashboard writes

Every text that the script of `research.html` assigns to an `innerHTML`, and the
tree it means.  Whatever the server sends, a browser reads the text as the tree:
data can neither open a tag nor leave the attribute they stand in.
-/

namespace ResearchTool

open Html Python

/-- `escHtml`. -/
def escHtml (s : Text) : Text :=
  replaceChar '"' "&quot;".toList (replaceChar '>' "&gt;".toList
    (replaceChar '<' "&lt;".toList (replaceChar '&' "&amp;".toList s)))

/-- The four replacements do not meet each other's results. -/
theorem escHtml_eq_escape (s : Text) : escHtml s = escape s := by
  induction s with
  | nil => rfl
  | cons c s ih =>
      have parts : escHtml ([c] ++ s) = escHtml [c] ++ escHtml s := by
        simp only [escHtml, replaceChar, List.flatMap_append]
      rw [← List.singleton_append, parts, ih, List.singleton_append, escape_cons]
      congr 1
      rcases escapeChar_cases c with ⟨reference, listed, rfl⟩ | ⟨amp, lt, gt, quot⟩
      · simp only [syntaxReferences, List.mem_cons, List.not_mem_nil, or_false] at listed
        rcases listed with rfl | rfl | rfl | rfl <;> decide
      · rw [escapeChar_of_plain amp lt gt quot]
        simp only [escHtml, replaceChar, List.flatMap_cons, List.flatMap_nil, List.append_nil,
          if_neg amp, if_neg lt, if_neg gt, if_neg quot]

/-- The characters of a printed number. -/
def isNumberChar (c : Char) : Bool :=
  isAsciiDigit c || isAsciiAlpha c || c = '+' || c = '-' || c = '.'

/-- How a template literal prints a number. -/
structure NumberFormat where
  str : PyFloat → Text
  letters : ∀ value, ∀ c ∈ str value, isNumberChar c = true

/-- The characters of a float that a number is printed with. -/
def NumberFormat.plain : NumberFormat where
  str value := value.text.toList.filter isNumberChar
  letters _ _ member := (List.mem_filter.mp member).2

theorem escape_number (numbers : NumberFormat) (value : PyFloat) :
    escape (numbers.str value) = numbers.str value := by
  apply escape_of_plain
  apply List.all_eq_true.mpr
  intro c member
  have letter := numbers.letters value c member
  simp only [isPlainChar, Bool.and_eq_true, bne_iff_ne]
  refine ⟨⟨⟨?_, ?_⟩, ?_⟩, ?_⟩ <;>
    rintro rfl <;> exact absurd letter (by decide)

/-! ## The texts -/

section

variable (numbers : NumberFormat)

/-- The attribute that `addTermLine` gives a coloured line. -/
def termStyle : LineType → Text
  | .error => " style=\"color:var(--warning-yellow)\"".toList
  | .success => " style=\"color:var(--success-green)\"".toList
  | .plain => []

def termLineHtml (text : Text) (type : LineType) : Text :=
  "<span class=\"term-prompt\"".toList ++ termStyle type ++ ">&gt;</span> <span".toList ++
    termStyle type ++ ">".toList ++ escHtml text ++ "</span>".toList

def cursorHtml : Text :=
  "<span class=\"cursor\"></span>".toList

/-- `parts.slice(0, -1).join('/')` and `parts[parts.length - 1]`. -/
def repoParts (name : Text) : Text × Text :=
  let parts := name.splitOn '/'
  (if parts.length > 1 then join ['/'] parts.dropLast else [], parts.getLastD [])

def repoNameHtml (name : Text) : Text :=
  let parts := repoParts name
  if parts.1 ≠ [] then
    escHtml parts.1 ++ " / <span>".toList ++ escHtml parts.2 ++ "</span>".toList
  else
    "<span>".toList ++ escHtml parts.2 ++ "</span>".toList

def topicHtml (topic : Text) : Text :=
  "<span class=\"pill\" style=\"font-size:0.8rem;\">".toList ++ escHtml topic ++ "</span>".toList

/-- `l.color || '#8b949e'`. -/
def languageColor (language : LanguageEntry) : Text :=
  (orDefault language.color "#8b949e").toList

def languageBarHtml (language : LanguageEntry) : Text :=
  "<div style=\"width:".toList ++ numbers.str language.percentage ++ "%;background:".toList ++
    escHtml (languageColor language) ++ ";height:100%;\"></div>".toList

/-- A new line and an indentation. -/
def indent (width : Nat) : Text :=
  '\n' :: List.replicate width ' '

def languageItemHtml (language : LanguageEntry) : Text :=
  indent 24 ++ "<div class=\"lang-item\">".toList ++
    indent 28 ++ "<span class=\"flex items-center\">".toList ++
    indent 32 ++ "<span class=\"lang-dot\" style=\"background:".toList ++
      escHtml (languageColor language) ++ (";\"></span>".toList ++ indent 32) ++
      escHtml language.name.toList ++
      (indent 28 ++ "</span>".toList ++ indent 28 ++ "<span>".toList) ++
      numbers.str language.percentage ++ ("%</span>".toList ++ indent 24 ++ "</div>".toList)

def pillHtml (technology : Text) : Text :=
  "<span class=\"pill\">".toList ++ escHtml technology ++ "</span>".toList

/-- The three lists of advice, by the colour and the path of their icons. -/
inductive AdviceList where
  | limitations
  | findings
  | recommendations
  deriving DecidableEq

def AdviceList.color : AdviceList → String
  | recommendations => "var(--success-green)"
  | _ => "var(--warning-yellow)"

def AdviceList.icon : AdviceList → String
  | limitations => "M1 21h22L12 2 1 21zm12-3h-2v-2h2v2zm0-4h-2v-4h2v4z"
  | findings =>
      "M12 2C6.48 2 2 6.48 2 12s4.48 10 10 10 10-4.48 10-10S17.52 2 12 2" ++
        "zm1 15h-2v-2h2v2zm0-4h-2V7h2v6z"
  | recommendations => "M9 16.17L4.83 12l-1.42 1.41L9 19 21 7l-1.41-1.41L9 16.17z"

def adviceHtml (list : AdviceList) (advice : Text) : Text :=
  "<div class=\"recommendation\"><svg viewBox=\"0 0 ".toList ++
    "24 24\" width=\"16\" height=\"16\" ".toList ++ "style=\"flex-shrink:0;fill:".toList ++
    list.color.toList ++ "\"><path d=\"".toList ++
    list.icon.toList ++ "\"/></svg>".toList ++ escHtml advice ++ "</div>".toList

end

/-- A title, a line break and a smaller text. -/
def noticeHtml (title text : Text) : Text :=
  "<strong>".toList ++ title ++ "</strong><br><span ".toList ++
    "style=\"font-size:0.9rem;opacity:0.8\">".toList ++ text ++ "</span>".toList

def failureText : Text :=
  "Repository metadata was collected successfully ".toList ++
    "but AI-powered insights could not be generated ".toList ++ "at this time.".toList

def fallbackText : Text :=
  "Repository metadata was collected successfully, ".toList ++
    "but AI-powered insights could not be generated ".toList ++ "at this time. ".toList ++
    "The full report below is still available.".toList

/-- The notice of a failed analysis. -/
def failureHtml : Text :=
  noticeHtml "AI analysis failed".toList failureText

/-- The notice of `renderResults` and `updateAiInsights` for a fallback. -/
def fallbackHtml : Text :=
  noticeHtml "AI analysis unavailable".toList fallbackText

def loadingStyle : Text :=
  "display:inline-flex;align-items:center;".toList ++
    "gap:10px;color:var(--text-secondary);".toList

def pulseStyle : Text :=
  "display:inline-block;width:8px;height:8px;".toList ++
    "border-radius:50%;background:var(--accent-blue);".toList ++
    "animation:pulseDot 1.4s ease-in-out infinite;".toList ++ "flex-shrink:0;".toList

def loadingText : Text :=
  "AI is analyzing this repository in the background… ".toList ++
    "insights will appear here automatically.".toList

/-- The notice of `renderStaticData`. -/
def loadingHtml : Text :=
  "<span style=\"".toList ++ loadingStyle ++ "\"><span style=\"".toList ++ pulseStyle ++
    "\"></span>".toList ++ loadingText ++ "</span>".toList

/-! ## The trees -/

/-- A tag whose attributes stand behind one space each. -/
def attributesOf (attributes : List (String × Text)) : List Attribute :=
  attributes.map fun given => { lead := [' '], name := given.1.toList, value := given.2 }

def element (name : String) (attributes : List (String × Text)) (children : List Node) : Node :=
  .element name.toList (attributesOf attributes) children

def LineType.attributes : LineType → List (String × Text)
  | error => [("style", "color:var(--warning-yellow)".toList)]
  | success => [("style", "color:var(--success-green)".toList)]
  | plain => []

def termLineNodes (text : Text) (type : LineType) : List Node :=
  [element "span" (("class", "term-prompt".toList) :: type.attributes) [.text ['>']], .text [' '],
    element "span" type.attributes [.text text]]

def repoNameNodes (name : Text) : List Node :=
  let parts := repoParts name
  if parts.1 ≠ [] then
    [.text (parts.1 ++ " / ".toList), element "span" [] [.text parts.2]]
  else
    [element "span" [] [.text parts.2]]

def topicNodes (topic : Text) : List Node :=
  [element "span" [("class", "pill".toList), ("style", "font-size:0.8rem;".toList)] [.text topic]]

def languageBarNodes (numbers : NumberFormat) (language : LanguageEntry) : List Node :=
  [.element "div".toList [{
    lead := [' ']
    name := "style".toList
    value := "width:".toList ++ (numbers.str language.percentage ++
      ("%;background:".toList ++ (languageColor language ++ ";height:100%;".toList))) }] []]

def pillNodes (technology : Text) : List Node :=
  [element "span" [("class", "pill".toList)] [.text technology]]

/-- An icon with one path. -/
def iconNode (list : AdviceList) : Node :=
  element "svg" [("viewBox", "0 0 24 24".toList), ("width", "16".toList), ("height", "16".toList),
      ("style", "flex-shrink:0;fill:".toList ++ list.color.toList)]
    [.single "path".toList (attributesOf [("d", list.icon.toList)]) true]

def adviceNodes (list : AdviceList) (advice : Text) : List Node :=
  [element "div" [("class", "recommendation".toList)] [iconNode list, .text advice]]

/-! ## The texts are those of the trees -/

/-- Data at the end of an element. -/
theorem sources_of_hole {start finish : Text} (before inner : List Node) (name : String)
    (attributes : List (String × Text)) (data : Text)
    (starts : start = Node.sources before ++
      (opening name.toList (attributesOf attributes) ++ ('>' :: Node.sources inner)))
    (ends : finish = '<' :: '/' :: (name.toList ++ ['>'])) :
    start ++ escHtml data ++ finish =
      Node.sources (before ++ [element name attributes (inner ++ [.text data])]) := by
  rw [starts, ends, escHtml_eq_escape, Node.sources_append]
  simp [element, Node.sources, Node.source, Node.sources_append]

theorem termLineHtml_eq (text : Text) (type : LineType) :
    termLineHtml text type = Node.sources (termLineNodes text type) := by
  have starts : "<span class=\"term-prompt\"".toList ++ termStyle type ++
      ">&gt;</span> <span".toList ++ termStyle type ++ ">".toList =
        Node.sources [element "span" (("class", "term-prompt".toList) :: type.attributes)
          [.text ['>']], .text [' ']] ++
          (opening "span".toList (attributesOf type.attributes) ++ ('>' :: Node.sources [])) := by
    cases type <;> decide +kernel
  exact sources_of_hole _ [] "span" type.attributes text starts (by decide +kernel)

theorem topicHtml_eq (topic : Text) : topicHtml topic = Node.sources (topicNodes topic) :=
  sources_of_hole [] [] "span" _ topic (by decide +kernel) (by decide +kernel)

theorem pillHtml_eq (technology : Text) :
    pillHtml technology = Node.sources (pillNodes technology) :=
  sources_of_hole [] [] "span" _ technology (by decide +kernel) (by decide +kernel)

theorem adviceHtml_eq (list : AdviceList) (advice : Text) :
    adviceHtml list advice = Node.sources (adviceNodes list advice) :=
  sources_of_hole [] [iconNode list] "div" _ advice (by cases list <;> decide +kernel)
    (by decide +kernel)

theorem repoNameHtml_eq (name : Text) : repoNameHtml name = Node.sources (repoNameNodes name) := by
  have plain : "<span>".toList ++ escHtml (repoParts name).2 ++ "</span>".toList =
      Node.sources [element "span" [] [.text (repoParts name).2]] :=
    sources_of_hole [] [] "span" [] _ (by decide +kernel) (by decide +kernel)
  have separator : " / <span>".toList = escape " / ".toList ++ "<span>".toList := by decide +kernel
  by_cases owned : (repoParts name).1 = []
  · simpa [repoNameHtml, repoNameNodes, owned] using plain
  · have parts : Node.sources (repoNameNodes name) =
        escape ((repoParts name).1 ++ " / ".toList) ++
          Node.sources [element "span" [] [.text (repoParts name).2]] := by
      simp only [repoNameNodes, ne_eq, owned, not_false_iff, if_true]
      rfl
    rw [parts, ← plain, escape_append, repoNameHtml, if_pos owned, separator, escHtml_eq_escape]
    simp only [List.append_assoc]

/-- A number and data in the only attribute of an element. -/
theorem sources_of_value {start middle finish name key first second third number : Text}
    (data : Text)
    (starts : start = '<' :: (name ++ (' ' :: (key ++ ('=' :: '"' :: escape first)))))
    (goes : middle = escape second)
    (ends : finish = escape third ++ '"' :: '>' :: '<' :: '/' :: (name ++ ['>']))
    (plain : escape number = number) :
    start ++ number ++ middle ++ escHtml data ++ finish =
      Node.sources [.element name [{
        lead := [' ']
        name := key
        value := first ++ (number ++ (second ++ (data ++ third))) }] []] := by
  subst starts goes ends
  rw [escHtml_eq_escape]
  simp [Node.sources, Node.source, opening, Attribute.source, plain]

theorem languageBarHtml_eq (numbers : NumberFormat) (language : LanguageEntry) :
    languageBarHtml numbers language = Node.sources (languageBarNodes numbers language) :=
  sources_of_value (languageColor language) (by decide +kernel) (by decide +kernel)
    (by decide +kernel) (escape_number numbers language.percentage)

def languageItemNodes (numbers : NumberFormat) (language : LanguageEntry) : List Node :=
  [.text (indent 24),
    .element "div".toList (attributesOf [("class", "lang-item".toList)])
      [.text (indent 28),
        .element "span".toList (attributesOf [("class", "flex items-center".toList)])
          [.text (indent 32),
            .element "span".toList (attributesOf [("class", "lang-dot".toList)] ++ [{
              lead := [' ']
              name := "style".toList
              value := "background:".toList ++ (languageColor language ++ ";".toList) }]) [],
            .text (indent 32 ++ (language.name.toList ++ indent 28))],
        .text (indent 28),
        .element "span".toList [] [.text (numbers.str language.percentage ++ "%".toList)],
        .text (indent 24)]]

/-- The two data and the number of an item in the list of languages. -/
theorem sources_of_item {start dotted named finish div span key outer inner deep first second unit
    number : Text}
    {item row dot : List Attribute} (color name : Text)
    (starts : start = escape outer ++ (opening div item ++ '>' :: (escape inner ++
      (opening span row ++ '>' :: (escape deep ++ (opening span dot ++
        (' ' :: (key ++ ('=' :: '"' :: escape first)))))))))
    (goes : dotted = escape second ++ '"' :: '>' :: '<' :: '/' :: (span ++ '>' :: escape deep))
    (continues : named = escape inner ++ '<' :: '/' :: (span ++ '>' :: (escape inner ++
      '<' :: (span ++ ['>']))))
    (ends : finish = escape unit ++ '<' :: '/' :: (span ++ '>' :: (escape outer ++
      '<' :: '/' :: (div ++ ['>']))))
    (plain : escape number = number) :
    start ++ escHtml color ++ dotted ++ escHtml name ++ named ++ number ++ finish =
      Node.sources [.text outer, .element div item
        [.text inner, .element span row
          [.text deep,
            .element span
              (dot ++ [{ lead := [' '], name := key, value := first ++ (color ++ second) }]) [],
            .text (deep ++ (name ++ inner))],
          .text inner, .element span [] [.text (number ++ unit)], .text outer]] := by
  subst starts goes continues ends
  rw [escHtml_eq_escape, escHtml_eq_escape]
  simp [Node.sources, Node.source, opening, Attribute.source, plain]

theorem languageItemHtml_eq (numbers : NumberFormat) (language : LanguageEntry) :
    languageItemHtml numbers language = Node.sources (languageItemNodes numbers language) :=
  sources_of_item (languageColor language) language.name.toList (by decide +kernel)
    (by decide +kernel) (by decide +kernel) (by decide +kernel)
    (escape_number numbers language.percentage)

/-! ## The page -/

/-- An assignment to an `innerHTML`, with the data of its template. -/
inductive PageMarkup where
  | termLine (text : String) (type : LineType)
  | cursor
  | repoName (name : String)
  | topics (names : List String)
  | languageBar (languages : List LanguageEntry)
  | languageList (languages : List LanguageEntry)
  | techStack (technologies : List String)
  | advice (list : AdviceList) (items : List String)
  | failureNotice
  | fallbackNotice
  | loadingNotice

def noticeNodes (title text : Text) : List Node :=
  [element "strong" [] [.text title], .single "br".toList [] false,
    element "span" [("style", "font-size:0.9rem;opacity:0.8".toList)] [.text text]]

def loadingNodes : List Node :=
  [element "span" [("style", loadingStyle)] [element "span" [("style", pulseStyle)] [],
    .text loadingText]]

namespace PageMarkup

/-- The text that is assigned. -/
def html (numbers : NumberFormat) : PageMarkup → Text
  | termLine text type => termLineHtml text.toList type
  | cursor => cursorHtml
  | repoName name => repoNameHtml name.toList
  | topics names => names.flatMap fun topic => topicHtml topic.toList
  | languageBar languages => languages.flatMap (languageBarHtml numbers)
  | languageList languages => languages.flatMap (languageItemHtml numbers)
  | techStack technologies => technologies.flatMap fun technology => pillHtml technology.toList
  | advice list items => items.flatMap fun item => adviceHtml list item.toList
  | failureNotice => failureHtml
  | fallbackNotice => fallbackHtml
  | loadingNotice => loadingHtml

/-- What it means. -/
def nodes (numbers : NumberFormat) : PageMarkup → List Node
  | termLine text type => termLineNodes text.toList type
  | cursor => [element "span" [("class", "cursor".toList)] []]
  | repoName name => repoNameNodes name.toList
  | topics names => names.flatMap fun topic => topicNodes topic.toList
  | languageBar languages => languages.flatMap (languageBarNodes numbers)
  | languageList languages => languages.flatMap (languageItemNodes numbers)
  | techStack technologies => technologies.flatMap fun technology => pillNodes technology.toList
  | advice list items => items.flatMap fun item => adviceNodes list item.toList
  | failureNotice => noticeNodes "AI analysis failed".toList failureText
  | fallbackNotice => noticeNodes "AI analysis unavailable".toList fallbackText
  | loadingNotice => loadingNodes

end PageMarkup

theorem sources_flatMap {α : Type} {text : α → Text} {nodesOf : α → List Node}
    (same : ∀ item, text item = Node.sources (nodesOf item)) (items : List α) :
    items.flatMap text = Node.sources (items.flatMap nodesOf) := by
  induction items with
  | nil => rfl
  | cons item rest ih => simp [ih, same, Node.sources_append]

theorem notices_eq :
    cursorHtml = Node.sources [element "span" [("class", "cursor".toList)] []] ∧
      failureHtml = Node.sources (noticeNodes "AI analysis failed".toList failureText) ∧
      fallbackHtml = Node.sources (noticeNodes "AI analysis unavailable".toList fallbackText) ∧
      loadingHtml = Node.sources loadingNodes := by
  refine ⟨?_, ?_, ?_, ?_⟩ <;> decide +kernel

/-- Every text is the one its tree is written as. -/
theorem PageMarkup.html_eq (numbers : NumberFormat) (markup : PageMarkup) :
    markup.html numbers = Node.sources (markup.nodes numbers) := by
  cases markup with
  | termLine text type => exact termLineHtml_eq text.toList type
  | cursor => exact notices_eq.1
  | repoName name => exact repoNameHtml_eq name.toList
  | topics names =>
      have same : ∀ topic : String,
          topicHtml topic.toList = Node.sources (topicNodes topic.toList) :=
        fun topic => topicHtml_eq topic.toList
      rw [html, nodes, sources_flatMap same]
  | languageBar languages => rw [html, nodes, sources_flatMap (languageBarHtml_eq numbers)]
  | languageList languages => rw [html, nodes, sources_flatMap (languageItemHtml_eq numbers)]
  | techStack technologies =>
      have same : ∀ technology : String,
          pillHtml technology.toList = Node.sources (pillNodes technology.toList) :=
        fun technology => pillHtml_eq technology.toList
      rw [html, nodes, sources_flatMap same]
  | advice list items =>
      have same : ∀ item : String,
          adviceHtml list item.toList = Node.sources (adviceNodes list item.toList) :=
        fun item => adviceHtml_eq list item.toList
      rw [html, nodes, sources_flatMap same]
  | failureNotice => exact notices_eq.2.1
  | fallbackNotice => exact notices_eq.2.2.1
  | loadingNotice => exact notices_eq.2.2.2

/-! ## The trees are well formed -/

def isAttributeName (name : Text) : Bool :=
  !name.isEmpty && name.all isAttributeChar

/-- What `IsTag` asks of the names. -/
def areTagNames (name : Text) (names : List Text) : Bool :=
  isTagName name && names.all isAttributeName && decide (names.map keepName).Nodup

theorem isTag_of_names {name : Text} {attributes : List Attribute}
    (spaced : ∀ given ∈ attributes, given.lead = [' '])
    (checked : areTagNames name (attributes.map Attribute.name) = true) :
    IsTag name attributes := by
  simp only [areTagNames, Bool.and_eq_true, decide_eq_true_eq, List.map_map] at checked
  obtain ⟨⟨named, formed⟩, distinct⟩ := checked
  refine ⟨named, ?_, distinct⟩
  intro given member
  have lettered := List.all_eq_true.mp formed given.name (List.mem_map_of_mem member)
  simp only [isAttributeName, Bool.and_eq_true, Bool.not_eq_true', List.isEmpty_eq_false_iff,
    List.all_eq_true] at lettered
  refine ⟨?_, ?_, lettered.1, lettered.2⟩
  · rw [spaced given member]
    exact List.cons_ne_nil _ _
  · rw [spaced given member]
    decide

theorem spaced_attributesOf (attributes : List (String × Text)) :
    ∀ given ∈ attributesOf attributes, given.lead = [' '] := by
  intro given member
  obtain ⟨pair, -, rfl⟩ := List.mem_map.mp member
  rfl

theorem isTag_attributesOf {name : String} {attributes : List (String × Text)}
    (checked : areTagNames name.toList (attributes.map fun given => given.1.toList) = true) :
    IsTag name.toList (attributesOf attributes) := by
  apply isTag_of_names (spaced_attributesOf attributes)
  rw [attributesOf, List.map_map]
  exact checked

/-- An element behind whose tag nothing but its children is to be checked. -/
theorem formed_element {name : String} {attributes : List (String × Text)} {children : List Node}
    (checked : areTagNames name.toList (attributes.map fun given => given.1.toList) = true)
    (formed : Node.AllWellFormed children) : (element name attributes children).WellFormed :=
  ⟨isTag_attributesOf checked, formed⟩

/-- One node is well formed on its own. -/
theorem formed_one {node : Node} (formed : node.WellFormed) : Node.AllWellFormed [node] :=
  ⟨formed, fun _ _ found => (by cases found), trivial⟩

theorem formed_text (data : Text) : Node.AllWellFormed [.text data] :=
  formed_one trivial

/-- A node that is no text may stand before anything. -/
theorem formed_before {node : Node} {rest : List Node} (formed : node.WellFormed)
    (other : node.isText = false) (others : Node.AllWellFormed rest) :
    Node.AllWellFormed (node :: rest) :=
  ⟨formed, fun isText => absurd (other.symm.trans isText) Bool.false_ne_true, others⟩

/-- A text may stand before a node that is none. -/
theorem formed_behind (data : Text) {node : Node} {rest : List Node} (other : node.isText = false)
    (others : Node.AllWellFormed (node :: rest)) :
    Node.AllWellFormed (.text data :: node :: rest) :=
  ⟨trivial, fun _ _ found => by cases found; exact other, others⟩

theorem span_names : areTagNames "span".toList [] = true ∧
    areTagNames "span".toList ["class".toList] = true ∧
    areTagNames "span".toList ["style".toList] = true ∧
    areTagNames "span".toList ["class".toList, "style".toList] = true := by
  decide +kernel

theorem div_names : areTagNames "div".toList ["class".toList] = true ∧
    areTagNames "div".toList ["style".toList] = true := by
  decide +kernel

theorem formed_termLine (text : Text) (type : LineType) :
    Node.AllWellFormed (termLineNodes text type) := by
  have prompt : areTagNames "span".toList (((("class", "term-prompt".toList) ::
      type.attributes).map fun given => given.1.toList)) = true := by
    cases type with
    | plain => exact span_names.2.1
    | _ => exact span_names.2.2.2
  have line : areTagNames "span".toList (type.attributes.map fun given => given.1.toList) =
      true := by
    cases type with
    | plain => exact span_names.1
    | _ => exact span_names.2.2.1
  apply formed_before (formed_element prompt (formed_text _)) rfl
  exact formed_behind _ rfl (formed_one (formed_element line (formed_text _)))

theorem formed_repoName (name : Text) : Node.AllWellFormed (repoNameNodes name) := by
  have repo : Node.AllWellFormed [element "span" [] [.text (repoParts name).2]] :=
    formed_one (formed_element span_names.1 (formed_text _))
  rw [repoNameNodes]
  split
  · exact formed_behind _ rfl repo
  · exact repo

theorem formed_topic (topic : Text) : Node.AllWellFormed (topicNodes topic) :=
  formed_one (formed_element span_names.2.2.2 (formed_text topic))

theorem formed_pill (technology : Text) : Node.AllWellFormed (pillNodes technology) :=
  formed_one (formed_element span_names.2.1 (formed_text technology))

theorem formed_languageBar (numbers : NumberFormat) (language : LanguageEntry) :
    Node.AllWellFormed (languageBarNodes numbers language) :=
  formed_one ⟨isTag_of_names (by simp) div_names.2, trivial⟩

theorem formed_languageItem (numbers : NumberFormat) (language : LanguageEntry) :
    Node.AllWellFormed (languageItemNodes numbers language) := by
  have dot : IsTag "span".toList (attributesOf [("class", "lang-dot".toList)] ++ [{
      lead := [' ']
      name := "style".toList
      value := "background:".toList ++ (languageColor language ++ ";".toList) }]) :=
    isTag_of_names (by simp [attributesOf]) span_names.2.2.2
  have row : IsTag "span".toList (attributesOf [("class", "flex items-center".toList)]) :=
    isTag_attributesOf span_names.2.1
  have item : IsTag "div".toList (attributesOf [("class", "lang-item".toList)]) :=
    isTag_attributesOf div_names.1
  have share : IsTag "span".toList [] := isTag_of_names (by simp) span_names.1
  refine formed_behind _ rfl (formed_one ⟨item, ?_⟩)
  refine formed_behind _ rfl (formed_before ⟨row, ?_⟩ rfl ?_)
  · exact formed_behind _ rfl (formed_before ⟨dot, trivial⟩ rfl (formed_text _))
  · exact formed_behind _ rfl (formed_before ⟨share, formed_text _⟩ rfl (formed_text _))

theorem formed_advice (list : AdviceList) (advice : Text) :
    Node.AllWellFormed (adviceNodes list advice) := by
  have path : Node.AllWellFormed
      [.single "path".toList (attributesOf [("d", list.icon.toList)]) true] := by
    refine formed_one (isTag_attributesOf ?_)
    show areTagNames "path".toList ["d".toList] = true
    decide +kernel
  have icon : (iconNode list).WellFormed := by
    refine formed_element ?_ path
    show areTagNames "svg".toList
      ["viewBox".toList, "width".toList, "height".toList, "style".toList] = true
    decide +kernel
  exact formed_one (formed_element div_names.1 (formed_before icon rfl (formed_text advice)))

theorem formed_notice (title text : Text) : Node.AllWellFormed (noticeNodes title text) := by
  have strong : (element "strong" [] [.text title]).WellFormed := by
    refine formed_element ?_ (formed_text _)
    show areTagNames "strong".toList [] = true
    decide +kernel
  have lineBreak : (Node.single "br".toList [] false).WellFormed := by
    refine isTag_of_names (by simp) ?_
    show areTagNames "br".toList [] = true
    decide +kernel
  apply formed_before strong rfl
  apply formed_before lineBreak rfl
  exact formed_one (formed_element span_names.2.2.1 (formed_text _))

theorem formed_loading : Node.AllWellFormed loadingNodes := by
  refine formed_one (formed_element span_names.2.2.1 ?_)
  exact formed_before (formed_element span_names.2.2.1 trivial) rfl (formed_text _)

/-- Every item of a list ends in an element. -/
theorem PageMarkup.formed (numbers : NumberFormat) (markup : PageMarkup) :
    Node.AllWellFormed (markup.nodes numbers) := by
  cases markup with
  | termLine text type => exact formed_termLine text.toList type
  | cursor => exact formed_one (formed_element span_names.2.1 trivial)
  | repoName name => exact formed_repoName name.toList
  | topics names =>
      exact Node.allWellFormed_flatMap names (fun topic => formed_topic topic.toList)
        fun _ _ found => by cases found; rfl
  | languageBar languages =>
      exact Node.allWellFormed_flatMap languages (formed_languageBar numbers)
        fun _ _ found => by cases found; rfl
  | languageList languages =>
      exact Node.allWellFormed_flatMap languages (formed_languageItem numbers)
        fun _ _ found => by cases found; rfl
  | techStack technologies =>
      exact Node.allWellFormed_flatMap technologies
        (fun technology => formed_pill technology.toList)
        fun _ _ found => by cases found; rfl
  | advice list items =>
      exact Node.allWellFormed_flatMap items (fun item => formed_advice list item.toList)
        fun _ _ found => by cases found; rfl
  | failureNotice => exact formed_notice _ _
  | fallbackNotice => exact formed_notice _ _
  | loadingNotice => exact formed_loading

/-- Whatever the server sends, a browser reads every text that the script
assigns as the script's own elements, with the data as texts and values. -/
theorem page_markup_inert (references : References) (numbers : NumberFormat)
    (markup : PageMarkup) :
    tokenize references (markup.html numbers) =
      Node.tokensOf (Node.allNormalized (markup.nodes numbers)) := by
  rw [markup.html_eq numbers]
  exact tokenize_sources references (markup.formed numbers)

example : tokenize .onlySyntax ((PageMarkup.techStack ["<b>"]).html .plain) =
    [.startTag "span".toList [("class".toList, "pill".toList)] false, .character '<',
      .character 'b', .character '>', .endTag "span".toList] := by
  decide +kernel

end ResearchTool
