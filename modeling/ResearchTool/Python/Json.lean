import Mathlib.Data.List.Infix
import ResearchTool.Python.Format

/-!
# JSON values in Python

What Python code that was written for dictionaries does with an arbitrary
decoded value: attribute calls, subscripts, slices, loops and truth tests, with
the exceptions of the interpreter.  How a float is read is a parameter.
-/

namespace ResearchTool

/-- A JSON value; a float is kept as the text of its number token. -/
inductive Json where
  | null
  | bool (value : Bool)
  | int (value : Int)
  | float (token : String)
  | string (value : String)
  | array (items : List Json)
  | object (entries : List (String × Json))

namespace Python

/-- A float as `str` prints it. -/
structure PyFloat where
  text : String
  oneLine : '\n' ∉ text.toList
  deriving DecidableEq, Repr

/-- The float arithmetic of the interpreter, on the tokens of numbers. -/
structure FloatArithmetic where
  isZero : String → Bool
  isPositive : String → Bool
  /-- `round(size / total * 100, 1)` for two numbers, the second one positive. -/
  percentage : Json → Json → Except PyError PyFloat

def typeError (message : String) : PyError where
  className := "TypeError"
  message := message

def attributeError (message : String) : PyError where
  className := "AttributeError"
  message := message

/-- A computation that raises no exception. -/
def Succeeds {α : Type} (computation : Except PyError α) : Prop :=
  ∃ value, computation = .ok value

theorem exists_ok_iff {α : Type} {computation : Except PyError α} :
    (∃ value, computation = .ok value) ↔ Succeeds computation :=
  Iff.rfl

@[simp]
theorem succeeds_ok {α : Type} (value : α) : Succeeds (.ok value) :=
  ⟨value, rfl⟩

@[simp]
theorem succeeds_pure {α : Type} (value : α) : Succeeds (pure value) :=
  ⟨value, rfl⟩

@[simp]
theorem not_succeeds_error {α : Type} (error : PyError) :
    ¬ Succeeds (.error error : Except PyError α) := by
  rintro ⟨value, equal⟩
  cases equal

theorem pure_eq_ok_iff {α : Type} {value result : α} :
    (pure value : Except PyError α) = .ok result ↔ value = result :=
  Except.ok.injEq value result ▸ Iff.rfl

theorem bind_eq_ok_iff {α β : Type} {computation : Except PyError α} {next : α → Except PyError β}
    {result : β} :
    computation >>= next = .ok result ↔
      ∃ value, computation = .ok value ∧ next value = .ok result := by
  cases computation with
  | ok value => simp [bind, Except.bind]
  | error error => simp [bind, Except.bind]

theorem succeeds_bind_iff {α β : Type} {computation : Except PyError α}
    {next : α → Except PyError β} :
    Succeeds (computation >>= next) ↔
      ∃ value, computation = .ok value ∧ Succeeds (next value) := by
  cases computation with
  | ok value => simp [bind, Except.bind]
  | error error => simp [bind, Except.bind]

/-! ## Loops -/

/-- A comprehension with a condition: what `next` yields for the items, in
their order. -/
def collect {α β : Type} (next : α → Except PyError (Option β)) :
    List α → Except PyError (List β)
  | [] => pure []
  | item :: rest => do
      let found ← next item
      let later ← collect next rest
      pure (found.toList ++ later)

/-- A comprehension returns the values of its items if each of them has one. -/
theorem collect_eq_ok_iff {α β : Type} {next : α → Except PyError (Option β)}
    {fine : α → Prop} {value : α → Option β}
    (returns : ∀ item found, next item = .ok found ↔ fine item ∧ value item = found)
    (items : List α) (results : List β) :
    collect next items = .ok results ↔
      (∀ item ∈ items, fine item) ∧ items.filterMap value = results := by
  induction items generalizing results with
  | nil => simp [collect, pure, Except.pure]
  | cons item rest ih =>
      simp only [collect, bind_eq_ok_iff, returns, ih, List.forall_mem_cons, List.filterMap_cons]
      constructor
      · rintro ⟨found, ⟨first, rfl⟩, later, ⟨others, rfl⟩, joined⟩
        refine ⟨⟨first, others⟩, ?_⟩
        cases joined
        cases value item <;> rfl
      · rintro ⟨⟨first, others⟩, joined⟩
        refine ⟨value item, ⟨first, rfl⟩, rest.filterMap value, ⟨others, rfl⟩, ?_⟩
        rw [← joined]
        cases value item <;> rfl

theorem succeeds_collect_iff {α β : Type} {next : α → Except PyError (Option β)} (items : List α) :
    Succeeds (collect next items) ↔ ∀ item ∈ items, Succeeds (next item) := by
  induction items with
  | nil => simp [collect]
  | cons item rest ih =>
      rw [collect, List.forall_mem_cons, ← ih, succeeds_bind_iff]
      simp only [succeeds_bind_iff, succeeds_pure, and_true]
      constructor
      · rintro ⟨found, first, later, others⟩
        exact ⟨⟨found, first⟩, later, others⟩
      · rintro ⟨⟨found, first⟩, later, others⟩
        exact ⟨found, first, later, others⟩

end Python

namespace Json

open Python

/-! ## Values -/

def typeName : Json → String
  | null => "NoneType"
  | bool _ => "bool"
  | int _ => "int"
  | float _ => "float"
  | string _ => "str"
  | array _ => "list"
  | object _ => "dict"

mutual

/-- How many arrays and dictionaries stand one inside the other. -/
def depth : Json → Nat
  | array items => depthItems items + 1
  | object entries => depthEntries entries + 1
  | _ => 0

def depthItems : List Json → Nat
  | [] => 0
  | item :: rest => max (depth item) (depthItems rest)

def depthEntries : List (String × Json) → Nat
  | [] => 0
  | (_, value) :: rest => max (depth value) (depthEntries rest)

end

/-- The value is a dictionary. -/
def IsObject : Json → Prop
  | object _ => True
  | _ => False

/-- The value is a number; `bool` is a subclass of `int`. -/
def IsNumber : Json → Prop
  | bool _ => True
  | int _ => True
  | float _ => True
  | _ => False

instance (value : Json) : Decidable value.IsObject := by
  cases value <;> simp only [IsObject] <;> infer_instance

instance (value : Json) : Decidable value.IsNumber := by
  cases value <;> simp only [IsNumber] <;> infer_instance

/-- The entry of a dictionary, or the default. -/
def field (value : Json) (key : String) (default : Json) : Json :=
  match value with
  | object entries => (entries.lookup key).getD default
  | _ => default

/-- The entry of a dictionary, if there is one. -/
def lookup? (value : Json) (key : String) : Option Json :=
  match value with
  | object entries => entries.lookup key
  | _ => none

/-- `value.get(key, default)`. -/
def get (value : Json) (key : String) (default : Json) : Except PyError Json :=
  if value.IsObject then pure (value.field key default)
  else .error (attributeError ("'" ++ value.typeName ++ "' object has no attribute 'get'"))

/-- `value[key]` for a text. -/
def item (value : Json) (key : String) : Except PyError Json :=
  match value with
  | object entries =>
      match entries.lookup key with
      | some found => pure found
      | none => .error { className := "KeyError", message := "'" ++ key ++ "'" }
  | array _ => .error (typeError "list indices must be integers or slices, not str")
  | string _ => .error (typeError "string indices must be integers, not 'str'")
  | other => .error (typeError ("'" ++ other.typeName ++ "' object is not subscriptable"))

/-- `value[0]`. -/
def first (value : Json) : Except PyError Json :=
  match value with
  | array (found :: _) => pure found
  | array [] => .error { className := "IndexError", message := "list index out of range" }
  | string text =>
      match text.toList with
      | c :: _ => pure (string (String.ofList [c]))
      | [] => .error { className := "IndexError", message := "string index out of range" }
  | object _ => .error { className := "KeyError", message := "0" }
  | other => .error (typeError ("'" ++ other.typeName ++ "' object is not subscriptable"))

/-- How many items `[:bound]` keeps. -/
def sliceLength (length : Nat) (bound : Int) : Nat :=
  (if bound < 0 then length + bound else bound).toNat

/-- `value[:bound]`. -/
def sliceTo (value : Json) (bound : Int) : Except PyError Json :=
  match value with
  | array items => pure (array (items.take (sliceLength items.length bound)))
  | string text =>
      pure (string (String.ofList (text.toList.take (sliceLength text.toList.length bound))))
  | object _ =>
      .error { className := "KeyError", message := "slice(None, " ++ toString bound ++ ", None)" }
  | other => .error (typeError ("'" ++ other.typeName ++ "' object is not subscriptable"))

/-- What a loop over the value visits. -/
def items? : Json → Option (List Json)
  | array items => some items
  | object entries => some (entries.map fun entry => string entry.1)
  | string text => some (text.toList.map fun c => string (String.ofList [c]))
  | _ => none

/-- `iter(value)`. -/
def items (value : Json) : Except PyError (List Json) :=
  match value.items? with
  | some found => pure found
  | none => .error (typeError ("'" ++ value.typeName ++ "' object is not iterable"))

/-- `needle in value`. -/
def contains (value : Json) (needle : String) : Except PyError Bool :=
  match value with
  | string text => pure (decide (needle.toList <:+: text.toList))
  | array items => pure (items.any fun
      | string text => text == needle
      | _ => false)
  | object entries => pure ((entries.lookup needle).isSome)
  | other => .error (typeError ("argument of type '" ++ other.typeName ++ "' is not iterable"))

/-- The loop visits only values that meet the condition. -/
def ForEach (value : Json) (condition : Json → Prop) : Prop :=
  ∃ found, value.items? = some found ∧ ∀ item ∈ found, condition item

section Truth

variable (arithmetic : FloatArithmetic)

/-- `bool(value)`. -/
def truthy : Json → Bool
  | null => false
  | bool value => value
  | int value => value != 0
  | float token => !arithmetic.isZero token
  | string text => text != ""
  | array items => !items.isEmpty
  | object entries => !entries.isEmpty

/-- `value or other`. -/
def orElse (value other : Json) : Json :=
  if value.truthy arithmetic then value else other

/-- The value is greater than zero. -/
def isPositive : Json → Bool
  | bool value => value
  | int value => decide (0 < value)
  | float token => arithmetic.isPositive token
  | _ => false

/-- `value > 0`. -/
def greaterThanZero (value : Json) : Except PyError Bool :=
  if value.IsNumber then pure (value.isPositive arithmetic)
  else .error (typeError
    ("'>' not supported between instances of '" ++ value.typeName ++ "' and 'int'"))

/-- `round(size / total * 100, 1)` for a positive total. -/
def percentageOf (size total : Json) : Except PyError PyFloat :=
  if size.IsNumber then arithmetic.percentage size total
  else .error (typeError ("unsupported operand type(s) for /: '" ++ size.typeName ++ "' and '" ++
    total.typeName ++ "'"))

end Truth

/-! ## What succeeds -/

theorem get_eq_ok_iff {value result : Json} {key : String} {default : Json} :
    value.get key default = .ok result ↔ value.IsObject ∧ value.field key default = result := by
  unfold get
  by_cases object : value.IsObject
  · simp [object, pure, Except.pure]
  · simp [object]

theorem item_eq_ok_iff {value result : Json} {key : String} :
    value.item key = .ok result ↔ value.lookup? key = some result := by
  cases value with
  | object entries =>
      cases found : entries.lookup key with
      | none => simp [item, lookup?, found]
      | some found' => simp [item, lookup?, found, pure, Except.pure]
  | _ => simp [item, lookup?]

theorem items_eq_ok_iff {value : Json} {found : List Json} :
    value.items = .ok found ↔ value.items? = some found := by
  unfold items
  cases value.items? <;> simp [pure, Except.pure]

theorem greaterThanZero_eq_ok_iff {arithmetic : FloatArithmetic} {value : Json} {positive : Bool} :
    value.greaterThanZero arithmetic = .ok positive ↔
      value.IsNumber ∧ value.isPositive arithmetic = positive := by
  unfold greaterThanZero
  by_cases number : value.IsNumber
  · simp [number, pure, Except.pure]
  · simp [number]

/-- An entry that differs from the default has been looked up. -/
theorem lookup?_of_field_ne {value default : Json} {key : String}
    (given : value.field key default ≠ default) :
    value.lookup? key = some (value.field key default) := by
  cases value with
  | object entries =>
      simp only [field, lookup?] at given ⊢
      cases found : entries.lookup key with
      | none => simp [found] at given
      | some entry => rfl
  | _ => simp [field] at given

end Json

end ResearchTool
