import StarPlan.Config

/-!
# The configuration in force

Whether a source is valid shows late: its text has to be a document, the document has to fit the
settings, and the dialect that comes of it has to be supported. `ConfigSource.IsValid` says this of
a source by itself, without the search for the configuration in force.

The search stops at the first valid source and takes its configuration whole. Of the sources
before and behind it nothing is kept, be it for a setting that the valid one leaves out
(`Config.firstValid_of_isFirstValid`), and whatever is found can be used
(`Config.dialect_firstValid`).
-/

namespace StarPlan

/-- The dialect of a configuration, blanks around it and letter case aside, is supported. -/
def Config.NamesSupported (c : Config) : Prop :=
  c.plainDialect = "postgres" ∨ c.plainDialect = "postgresql"

/-- A source holds a text, the text is a document of settings, and the dialect is supported. -/
inductive ConfigSource.IsValid : ConfigSource → Prop
  | text {text : String} {document : List (String × Toml.Value)} {c : Config}
    (parses : Toml.ofText? text = some document) (fits : Config.ofDocument? document = some c)
    (supported : c.NamesSupported) : IsValid (.text text)

/-- A text is that of a valid source, and the sources of higher rank are not valid. -/
structure IsFirstValid (sources : List ConfigSource) (text : String) : Prop where
  valid : (ConfigSource.text text).IsValid
  first : ∃ before after, sources = before ++ .text text :: after ∧ ∀ s ∈ before, ¬ s.IsValid

namespace Config

variable {c : Config} {source : ConfigSource} {sources : List ConfigSource} {text : String}

theorem dialect_of_namesSupported (supported : c.NamesSupported) :
    c.dialect = .ok Sql.postgres :=
  if_pos supported

theorem ofText_eq_ok_iff :
    ofText text = .ok c ↔
      ∃ document, Toml.ofText? text = some document ∧ ofDocument? document = some c ∧
        c.NamesSupported := by
  have checked : ofText text = .ok c ↔
      (Toml.ofText? text).bind ofDocument? = some c ∧ c.NamesSupported := by
    rw [ofText, NamesSupported]
    cases (Toml.ofText? text).bind ofDocument? with
    | none => simp
    | some found =>
        by_cases supported : found.plainDialect = "postgres" ∨ found.plainDialect = "postgresql"
        · simp only [dialect, if_pos supported, Except.ok.injEq, Option.some.injEq]
          exact ⟨fun same => ⟨same, same ▸ supported⟩, And.left⟩
        · simp only [dialect, if_neg supported, Option.some.injEq, reduceCtorEq, false_iff]
          rintro ⟨rfl, named⟩
          exact supported named
  rw [checked, Option.bind_eq_some_iff]
  constructor
  · rintro ⟨⟨document, parses, fits⟩, supported⟩
    exact ⟨document, parses, fits, supported⟩
  · rintro ⟨document, parses, fits, supported⟩
    exact ⟨⟨document, parses, fits⟩, supported⟩

theorem toOption_ofSource_eq_some_iff :
    (ofSource source).toOption = some c ↔ ∃ text, source = .text text ∧ ofText text = .ok c := by
  cases source with
  | missing | unreadable => simp [ofSource, Except.toOption]
  | text text => cases read : ofText text <;> simp [ofSource, read, Except.toOption]

theorem isValid_iff : source.IsValid ↔ ∃ c, (ofSource source).toOption = some c := by
  simp only [toOption_ofSource_eq_some_iff, ofText_eq_ok_iff]
  constructor
  · rintro ⟨parses, fits, supported⟩
    exact ⟨_, _, rfl, _, parses, fits, supported⟩
  · rintro ⟨c, text, rfl, document, parses, fits, supported⟩
    exact .text parses fits supported

theorem not_isValid_iff : ¬ source.IsValid ↔ (ofSource source).toOption = none := by
  rw [isValid_iff, not_exists, Option.eq_none_iff_forall_ne_some]

/-- The search as a search: the first configuration that a source has, or else the default. -/
theorem firstValid_eq (sources : List ConfigSource) :
    firstValid sources = (sources.findSome? fun s => (ofSource s).toOption).getD standard := by
  induction sources with
  | nil => rfl
  | cons source rest ih =>
      rw [firstValid, List.findSome?_cons]
      cases ofSource source with
      | ok c => rfl
      | error fault => exact ih

theorem firstValid_of_isFirstValid (first : IsFirstValid sources text) :
    ofText text = .ok (firstValid sources) := by
  obtain ⟨valid, before, after, rfl, rejected⟩ := first
  obtain ⟨c, found⟩ := isValid_iff.1 valid
  have skipped : before.findSome? (fun s => (ofSource s).toOption) = none :=
    List.findSome?_eq_none_iff.2 fun s listed => not_isValid_iff.1 (rejected s listed)
  have inForce : firstValid (before ++ .text text :: after) = c := by
    rw [firstValid_eq, List.findSome?_append, skipped, Option.none_or, List.findSome?_cons, found]
    rfl
  obtain ⟨_, ⟨⟩, read⟩ := toOption_ofSource_eq_some_iff.1 found
  rw [inForce, read]

theorem firstValid_of_rejected (rejected : ∀ s ∈ sources, ¬ s.IsValid) :
    firstValid sources = standard := by
  have none : sources.findSome? (fun s => (ofSource s).toOption) = none :=
    List.findSome?_eq_none_iff.2 fun s listed => not_isValid_iff.1 (rejected s listed)
  rw [firstValid_eq, none]
  rfl

/-- Either some source is the first valid one, or all are rejected. -/
theorem exists_isFirstValid_or (sources : List ConfigSource) :
    (∃ text, IsFirstValid sources text) ∨ ∀ s ∈ sources, ¬ s.IsValid := by
  cases found : sources.findSome? fun s => (ofSource s).toOption with
  | none =>
      exact .inr fun s listed => not_isValid_iff.2 (List.findSome?_eq_none_iff.1 found s listed)
  | some c =>
      obtain ⟨before, source, after, split, read, skipped⟩ := List.findSome?_eq_some_iff.1 found
      have rejected : ∀ s ∈ before, ¬ s.IsValid := fun s listed =>
        not_isValid_iff.2 (skipped s listed)
      have valid : source.IsValid := isValid_iff.2 ⟨c, read⟩
      obtain ⟨text, rfl, -⟩ := toOption_ofSource_eq_some_iff.1 read
      exact .inl ⟨text, valid, before, after, split, rejected⟩

theorem dialect_firstValid (sources : List ConfigSource) :
    (firstValid sources).dialect = .ok Sql.postgres := by
  rcases exists_isFirstValid_or sources with ⟨text, first⟩ | rejected
  · obtain ⟨document, -, -, supported⟩ := ofText_eq_ok_iff.1 (firstValid_of_isFirstValid first)
    exact dialect_of_namesSupported supported
  · rw [firstValid_of_rejected rejected]
    exact dialect_of_namesSupported (.inl (by decide))

/-- Whatever is found at the places for configurations, the one in force is the one that the first
valid source holds, as it would be read alone, and the default if no source is valid. Two states of
the places with the same first valid text, or without any, have the same configuration in force,
whatever else they hold, and its dialect is always one that can be used. -/
theorem discover_first_valid (places : ConfigPlaces) :
    (∀ text, IsFirstValid places.byRank text → ofText text = .ok (discover places)) ∧
      ((∀ s ∈ places.byRank, ¬ s.IsValid) → discover places = standard) ∧
      ((∃ text, IsFirstValid places.byRank text) ∨ ∀ s ∈ places.byRank, ¬ s.IsValid) ∧
      (∀ places' : ConfigPlaces,
        (∀ text, IsFirstValid places'.byRank text ↔ IsFirstValid places.byRank text) →
        discover places' = discover places) ∧
      (discover places).dialect = .ok Sql.postgres := by
  refine ⟨fun text => firstValid_of_isFirstValid, firstValid_of_rejected,
    exists_isFirstValid_or _, ?_, dialect_firstValid _⟩
  intro places' same
  rcases exists_isFirstValid_or places.byRank with ⟨text, first⟩ | rejected
  · have read := firstValid_of_isFirstValid ((same text).2 first)
    rw [firstValid_of_isFirstValid first] at read
    exact (Except.ok.inj read).symm
  · rcases exists_isFirstValid_or places'.byRank with ⟨text, first⟩ | rejected'
    · obtain ⟨valid, before, after, split, -⟩ := (same text).1 first
      have listed : .text text ∈ places.byRank := by
        rw [split]
        exact List.mem_append_right _ List.mem_cons_self
      exact absurd valid (rejected _ listed)
    · exact (firstValid_of_rejected rejected').trans (firstValid_of_rejected rejected).symm

/-- The first file names a dialect that is not supported, so the second one is in force, without the
switch of the first and without the directory of the third. -/
example :
    discover
        ⟨.text "[planner]\nservice_key_substitution = false\ndialect = \"oracle\"\n",
          .text "[planner]\ndialect = \" PostgreSQL\"\n", .text "[schema]\ndir = \"stars\"\n"⟩ =
      ⟨true, " PostgreSQL", none⟩ := by
  decide +kernel

end Config

end StarPlan
