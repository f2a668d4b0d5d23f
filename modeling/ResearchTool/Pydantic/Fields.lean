import ResearchTool.Python.JsonReader

/-!
# Models and their JSON forms

Codecs for the annotations of a Pydantic model: `model_dump(mode="json")` in
one direction, validation in the other.  A model is a list of named fields that
forbids any other key.  A codec is lawful on a domain if it reads back what it
writes there.
-/

namespace ResearchTool.Pydantic

open Python

variable {α β : Type}

/-- How the values of an annotation are dumped and validated. -/
structure Codec (α : Type) where
  dump : α → Json
  validate : Json → Option α

/-- The values of the domain are read back from the JSON values they are dumped
to. -/
structure Codec.Lawful (codec : Codec α) (domain : α → Prop) : Prop where
  reads : ∀ value, domain value → codec.validate (codec.dump value) = some value
  written : ∀ value, domain value → (codec.dump value).WellFormed

theorem Codec.Lawful.mono {codec : Codec α} {domain smaller : α → Prop}
    (lawful : codec.Lawful domain) (within : ∀ value, smaller value → domain value) :
    codec.Lawful smaller where
  reads value inside := lawful.reads value (within value inside)
  written value inside := lawful.written value (within value inside)

/-! ## Annotations -/

/-- `T | None`. -/
def optional (codec : Codec α) : Codec (Option α) where
  dump
    | none => .null
    | some value => codec.dump value
  validate
    | .null => some none
    | json => (codec.validate json).map some

/-- `list[T]`. -/
def list (codec : Codec α) : Codec (List α) where
  dump items := .array (items.map codec.dump)
  validate
    | .array items => items.mapM codec.validate
    | _ => none

/-- `Literal[...]`: the values in their order, and how each is spelled. -/
def literal (values : List α) (spelling : α → String) : Codec α where
  dump value := .string (spelling value)
  validate
    | .string text => values.find? fun value => spelling value == text
    | _ => none

/-- `dict[str, Any]`. -/
def dictionary : Codec (List (String × Json)) where
  dump entries := .object entries
  validate
    | .object entries => some entries
    | _ => none

/-- `Annotated[T, Field(...)]`: a value of the annotation that meets a
constraint. -/
def constrained (codec : Codec α) (constraint : α → Prop) [DecidablePred constraint] :
    Codec { value : α // constraint value } where
  dump value := codec.dump value.1
  validate json := (codec.validate json).bind fun value =>
    if met : constraint value then some ⟨value, met⟩ else none

/-- A codec never dumps a value to `null`. -/
def Codec.Present (codec : Codec α) : Prop :=
  ∀ value, codec.dump value ≠ .null

theorem optional_lawful {codec : Codec α} {domain : α → Prop} (lawful : codec.Lawful domain)
    (present : codec.Present) :
    (optional codec).Lawful fun value => ∀ inner ∈ value, domain inner where
  reads value inside := by
    cases value with
    | none => rfl
    | some inner =>
        have read := lawful.reads inner (inside inner rfl)
        have plain : ∀ json, json ≠ Json.null →
            (optional codec).validate json = (codec.validate json).map some := by
          intro json other
          cases json <;> first | rfl | exact absurd rfl other
        exact (plain _ (present inner)).trans (congrArg (Option.map some) read)
  written value inside := by
    cases value with
    | none => exact trivial
    | some inner => exact lawful.written inner (inside inner rfl)

theorem mapM_map_eq_some {write : α → β} {read : β → Option α} {items : List α}
    (reads : ∀ item ∈ items, read (write item) = some item) :
    (items.map write).mapM read = some items := by
  induction items with
  | nil => rfl
  | cons item items ih =>
      rw [List.forall_mem_cons] at reads
      rw [List.map_cons, List.mapM_cons, reads.1, ih reads.2]
      rfl

theorem wellFormedItems_iff (items : List Json) :
    Json.WellFormedItems items ↔ ∀ item ∈ items, item.WellFormed := by
  induction items with
  | nil => simp [Json.WellFormedItems]
  | cons item items ih => rw [Json.WellFormedItems, ih, List.forall_mem_cons]

theorem wellFormedEntries_iff (entries : List (String × Json)) :
    Json.WellFormedEntries entries ↔ ∀ entry ∈ entries, entry.2.WellFormed := by
  induction entries with
  | nil => simp [Json.WellFormedEntries]
  | cons entry entries ih => rw [Json.WellFormedEntries, ih, List.forall_mem_cons]

theorem list_lawful {codec : Codec α} {domain : α → Prop} (lawful : codec.Lawful domain) :
    (list codec).Lawful fun items => ∀ item ∈ items, domain item where
  reads items inside := mapM_map_eq_some fun item member => lawful.reads item (inside item member)
  written items inside := by
    refine (wellFormedItems_iff _).mpr fun json dumped => ?_
    obtain ⟨item, member, rfl⟩ := List.mem_map.mp dumped
    exact lawful.written item (inside item member)

theorem literal_lawful {values : List α} {spelling : α → String}
    (spelled : Function.Injective spelling) (complete : ∀ value, value ∈ values) :
    (literal values spelling).Lawful fun _ => True where
  reads value _ := by
    have spelt : ∃ other ∈ values, (spelling other == spelling value) = true :=
      ⟨value, complete value, beq_self_eq_true _⟩
    obtain ⟨found, read⟩ := Option.isSome_iff_exists.mp (List.find?_isSome.mpr spelt)
    have spelling_eq := List.find?_some (p := fun other => spelling other == spelling value) read
    have same : found = value := spelled (beq_iff_eq.mp spelling_eq)
    exact read.trans (congrArg some same)
  written _ _ := trivial

/-- The entries are those of a dictionary of JSON values. -/
def IsDictionary (entries : List (String × Json)) : Prop :=
  (Json.object entries).WellFormed

theorem dictionary_lawful : dictionary.Lawful IsDictionary where
  reads _ _ := rfl
  written _ wellFormed := wellFormed

theorem constrained_lawful {codec : Codec α} {domain constraint : α → Prop}
    [DecidablePred constraint] (lawful : codec.Lawful domain) :
    (constrained codec constraint).Lawful fun value => domain value.1 where
  reads value inside := by
    have read := lawful.reads value.1 inside
    simp only [constrained, read, Option.bind_some, dif_pos value.2]
  written value inside := lawful.written value.1 inside

/-! ## Fields -/

/-- Some fields of a model: their names, the entries they are dumped to, and
how they are validated from the entries of a dictionary. -/
structure Fields (α : Type) where
  names : List String
  dump : α → List (String × Json)
  validate : List (String × Json) → Option α

/-- `name: T`. -/
def required (name : String) (codec : Codec α) : Fields α where
  names := [name]
  dump value := [(name, codec.dump value)]
  validate entries := (entries.lookup name).bind codec.validate

/-- `name: T = default`. -/
def defaulted (name : String) (default : α) (codec : Codec α) : Fields α where
  names := [name]
  dump value := [(name, codec.dump value)]
  validate entries :=
    match entries.lookup name with
    | some json => codec.validate json
    | none => some default

/-- The fields of both. -/
def Fields.and (first : Fields α) (second : Fields β) : Fields (α × β) where
  names := first.names ++ second.names
  dump value := first.dump value.1 ++ second.dump value.2
  validate entries := do
    let left ← first.validate entries
    let right ← second.validate entries
    pure (left, right)

/-- A model with `extra="forbid"`, from the values of its fields. -/
def model (fields : Fields α) (make : α → β) (values : β → α) : Codec β where
  dump value := .object (fields.dump (values value))
  validate
    | .object entries =>
        if ∀ entry ∈ entries, entry.1 ∈ fields.names then (fields.validate entries).map make
        else none
    | _ => none

@[simp]
theorem names_required (name : String) (codec : Codec α) : (required name codec).names = [name] :=
  rfl

@[simp]
theorem names_defaulted (name : String) (default : α) (codec : Codec α) :
    (defaulted name default codec).names = [name] :=
  rfl

@[simp]
theorem names_and (first : Fields α) (second : Fields β) :
    (first.and second).names = first.names ++ second.names :=
  rfl

/-- The fields are read back from any dictionary that has their entries. -/
structure Fields.Lawful (fields : Fields α) (domain : α → Prop) : Prop where
  keys : ∀ value, (fields.dump value).map Prod.fst = fields.names
  reads : ∀ value, domain value → ∀ entries : List (String × Json),
    (∀ entry ∈ fields.dump value, entries.lookup entry.1 = some entry.2) →
    fields.validate entries = some value
  written : ∀ value, domain value → ∀ entry ∈ fields.dump value, entry.2.WellFormed

theorem required_lawful {codec : Codec α} {domain : α → Prop} (name : String)
    (lawful : codec.Lawful domain) : (required name codec).Lawful domain where
  keys _ := rfl
  reads value inside entries given := by
    have found := given _ (List.mem_singleton_self _)
    exact (congrArg (Option.bind · codec.validate) found).trans (lawful.reads value inside)
  written value inside entry member := by
    cases List.mem_singleton.mp member
    exact lawful.written value inside

theorem defaulted_lawful {codec : Codec α} {domain : α → Prop} (name : String) (default : α)
    (lawful : codec.Lawful domain) : (defaulted name default codec).Lawful domain where
  keys _ := rfl
  reads value inside entries given := by
    have found : entries.lookup name = some (codec.dump value) :=
      given _ (List.mem_singleton_self _)
    have read := lawful.reads value inside
    simp only [defaulted, found, read]
  written value inside entry member := by
    cases List.mem_singleton.mp member
    exact lawful.written value inside

theorem Fields.Lawful.and {first : Fields α} {second : Fields β} {left : α → Prop}
    {right : β → Prop} (firstLawful : first.Lawful left) (secondLawful : second.Lawful right) :
    (first.and second).Lawful fun value => left value.1 ∧ right value.2 where
  keys value := by
    simp only [Fields.and, List.map_append, firstLawful.keys, secondLawful.keys]
  reads value inside entries given := by
    have readFirst := firstLawful.reads value.1 inside.1 entries fun entry member =>
      given entry (List.mem_append_left _ member)
    have readSecond := secondLawful.reads value.2 inside.2 entries fun entry member =>
      given entry (List.mem_append_right _ member)
    simp only [Fields.and, readFirst, readSecond, Option.bind_eq_bind, Option.bind_some,
      Option.pure_def, Prod.mk.eta]
  written value inside entry member := by
    rcases List.mem_append.mp member with before | behind
    · exact firstLawful.written value.1 inside.1 entry before
    · exact secondLawful.written value.2 inside.2 entry behind

/-- In a dictionary every entry is found under its key. -/
theorem lookup_of_mem {entries : List (String × Json)} (distinct : (entries.map Prod.fst).Nodup)
    {entry : String × Json} (member : entry ∈ entries) :
    entries.lookup entry.1 = some entry.2 := by
  induction entries with
  | nil => cases member
  | cons first entries ih =>
      rw [List.map_cons, List.nodup_cons] at distinct
      rcases List.mem_cons.mp member with rfl | later
      · exact List.lookup_cons_self
      · have other : entry.1 ≠ first.1 := by
          intro same
          exact distinct.1 (same ▸ List.mem_map_of_mem later)
        rw [List.lookup_cons, beq_false_of_ne other]
        exact ih distinct.2 later

theorem model_lawful {fields : Fields α} {domain : α → Prop} (lawful : fields.Lawful domain)
    (distinct : fields.names.Nodup) {make : α → β} {values : β → α}
    (made : ∀ value, make (values value) = value) :
    (model fields make values).Lawful fun value => domain (values value) where
  reads value inside := by
    have keys := lawful.keys (values value)
    have read :=
      lawful.reads (values value) inside (fields.dump (values value)) fun entry member =>
      lookup_of_mem (keys ▸ distinct) member
    have known : ∀ entry ∈ fields.dump (values value), entry.1 ∈ fields.names := by
      intro entry member
      rw [← keys]
      exact List.mem_map_of_mem member
    simp only [model, if_pos known, read, Option.map_some, made]
  written value inside :=
    ⟨lawful.keys (values value) ▸ distinct,
      (wellFormedEntries_iff _).mpr (lawful.written (values value) inside)⟩

theorem model_present (fields : Fields α) (make : α → β) (values : β → α) :
    (model fields make values).Present :=
  fun _ => Json.noConfusion

end ResearchTool.Pydantic
