import Apcos.Source.Bootstrap.ConfigLoader

/-!
# Exactness of the configuration loader

The defaults are merged before the shapes of the sections are checked, and the merge
puts the defaults in the place of a section that is no mapping: the check of the
shapes refuses nothing. The freeze passes a tuple of the document by, with the
mappings and lists in it. In all other documents with all sections the loader does
what it says.
-/
namespace Apcos.Guarantees.ConfigLoading

open Apcos.Lib
open Apcos.Source.Python
open Apcos.Source.Bootstrap

/-! ## What loading is to do -/

/-- The root mapping of a document. -/
structure Document where
  entries : Section
  distinct : (Yaml.mapping entries).distinct = true

def load (path : String) (d : Document) : Except Exc Frozen :=
  loadConfig path (.read (.mapping d.entries))

/-- Neither a mapping nor a list, and none inside. -/
def atomic : Yaml → Bool
  | .scalar _ => true
  | .sequence _ => false
  | .mapping _ => false
  | .set _ => true
  | .pair key value => atomic key && atomic value

mutual
/-- The content of a frozen value. -/
def thaw : Frozen → Yaml
  | .scalar s => .scalar s
  | .tuple items => .sequence (thawItems items)
  | .proxy entries => .mapping (thawEntries entries)
  | .set members => .set members
  | .pair key value => .pair key value

def thawItems : List Frozen → List Yaml
  | [] => []
  | item :: rest => thaw item :: thawItems rest

def thawEntries : List (Scalar × Frozen) → List (Scalar × Yaml)
  | [] => []
  | (key, value) :: rest => (key, thaw value) :: thawEntries rest
end

mutual
/-- No mapping and no list is left in a frozen value. -/
def readOnly : Frozen → Bool
  | .scalar _ => true
  | .tuple items => readOnlyItems items
  | .proxy entries => readOnlyEntries entries
  | .set _ => true
  | .pair key value => atomic key && atomic value

def readOnlyItems : List Frozen → Bool
  | [] => true
  | item :: rest => readOnly item && readOnlyItems rest

def readOnlyEntries : List (Scalar × Frozen) → Bool
  | [] => true
  | (_, value) :: rest => readOnly value && readOnlyEntries rest
end

/-- Read-only, with the same content. -/
def Counterpart (value : Yaml) (frozen : Frozen) : Prop :=
  thaw frozen = value ∧ readOnly frozen = true

/-- All five sections are there, each a mapping. -/
def WellFormed (d : Document) : Prop :=
  ∀ name ∈ requiredSections, ∃ section_, d.entries.lookup (.str name) = some (.mapping section_)

/-- A key of a section has the user's value, or else the default; other keys of the root
have theirs. -/
structure Merged (d : Document) (config : List (Scalar × Frozen)) : Prop where
  sections : ∀ section_ ∈ defaults, ∃ user block,
    d.entries.lookup (.str section_.1) = some (.mapping user) ∧
      config.lookup (.str section_.1) = some (.proxy block) ∧
      ∀ key, Option.Rel Counterpart
        ((user.lookup key).or ((defaultSection section_.2).lookup key)) (block.lookup key)
  others : ∀ key, (∀ section_ ∈ defaults, key ≠ .str section_.1) →
    Option.Rel Counterpart (d.entries.lookup key) (config.lookup key)

structure LoadsExactly (path : String) (d : Document) : Prop where
  returns : (∃ config, load path d = .ok config) ↔ WellFormed d
  merged : ∀ config, load path d = .ok config → ∃ entries, config = .proxy entries ∧ Merged d entries
  refused : ∀ exc, load path d = .error exc → ∃ message, exc = configError message

mutual
/-- No tuple of the document holds a mapping or a list. -/
def flat : Yaml → Bool
  | .scalar _ => true
  | .sequence items => flatItems items
  | .mapping entries => flatEntries entries
  | .set _ => true
  | .pair key value => atomic key && atomic value

def flatItems : List Yaml → Bool
  | [] => true
  | item :: rest => flat item && flatItems rest

def flatEntries : List (Scalar × Yaml) → Bool
  | [] => true
  | (_, value) :: rest => flat value && flatEntries rest
end

/-! ## Freezing -/

mutual
theorem thaw_deepFreeze : ∀ value : Yaml, thaw (deepFreeze value) = value
  | .scalar _ => rfl
  | .sequence items => by rw [deepFreeze, thaw, thawItems_freezeItems items]
  | .mapping entries => by rw [deepFreeze, thaw, thawEntries_freezeEntries entries]
  | .set _ => rfl
  | .pair _ _ => rfl

theorem thawItems_freezeItems : ∀ items : List Yaml, thawItems (freezeItems items) = items
  | [] => rfl
  | item :: rest => by
    rw [freezeItems, thawItems, thaw_deepFreeze item, thawItems_freezeItems rest]

theorem thawEntries_freezeEntries :
    ∀ entries : List (Scalar × Yaml), thawEntries (freezeEntries entries) = entries
  | [] => rfl
  | (_, value) :: rest => by
    rw [freezeEntries, thawEntries, thaw_deepFreeze value, thawEntries_freezeEntries rest]
end

mutual
theorem readOnly_eq_flat : ∀ frozen : Frozen, readOnly frozen = flat (thaw frozen)
  | .scalar _ => rfl
  | .tuple items => by rw [readOnly, thaw, flat, readOnlyItems_eq_flat items]
  | .proxy entries => by rw [readOnly, thaw, flat, readOnlyEntries_eq_flat entries]
  | .set _ => rfl
  | .pair _ _ => rfl

theorem readOnlyItems_eq_flat :
    ∀ items : List Frozen, readOnlyItems items = flatItems (thawItems items)
  | [] => rfl
  | item :: rest => by
    rw [readOnlyItems, thawItems, flatItems, readOnly_eq_flat item, readOnlyItems_eq_flat rest]

theorem readOnlyEntries_eq_flat :
    ∀ entries : List (Scalar × Frozen), readOnlyEntries entries = flatEntries (thawEntries entries)
  | [] => rfl
  | (_, value) :: rest => by
    rw [readOnlyEntries, thawEntries, flatEntries, readOnly_eq_flat value,
      readOnlyEntries_eq_flat rest]
end

theorem counterpart_deepFreeze {value : Yaml} (plain : flat value = true) :
    Counterpart value (deepFreeze value) :=
  ⟨thaw_deepFreeze value, by rw [readOnly_eq_flat, thaw_deepFreeze, plain]⟩

/-- Only a flat value has a read-only counterpart. -/
theorem Counterpart.flat {value : Yaml} {frozen : Frozen} (same : Counterpart value frozen) :
    flat value = true := by
  rw [← same.1, ← readOnly_eq_flat, same.2]

theorem rel_deepFreeze {found : Option Yaml} (plain : ∀ value, found = some value → flat value = true) :
    Option.Rel Counterpart found (found.map deepFreeze) := by
  cases found with
  | none => exact .none
  | some value => exact .some (counterpart_deepFreeze (plain value rfl))

theorem flat_of_rel {value : Yaml} {kept : Option Frozen}
    (related : Option.Rel Counterpart (some value) kept) : flat value = true := by
  cases related with
  | some same => exact same.flat

theorem lookup_freezeEntries (entries : List (Scalar × Yaml)) (key : Scalar) :
    (freezeEntries entries).lookup key = (entries.lookup key).map deepFreeze := by
  induction entries with
  | nil => rfl
  | cons entry rest ih =>
    obtain ⟨first, value⟩ := entry
    rw [freezeEntries, List.lookup_cons, List.lookup_cons, ih]
    cases key == first <;> rfl

theorem flatEntries_iff (entries : List (Scalar × Yaml)) :
    flatEntries entries = true ↔ ∀ key value, (key, value) ∈ entries → flat value = true := by
  induction entries with
  | nil => simp [flatEntries]
  | cons entry rest ih =>
    obtain ⟨first, value⟩ := entry
    rw [flatEntries, Bool.and_eq_true, ih]
    constructor
    · intro ⟨here, later⟩ key value' member
      rcases List.mem_cons.mp member with same | there
      · simp only [Prod.mk.injEq] at same
        rw [same.2]
        exact here
      · exact later key value' there
    · intro all
      exact ⟨all first value List.mem_cons_self, fun key value' there =>
        all key value' (List.mem_cons_of_mem _ there)⟩

/-! ## Merging -/

/-- The sections with defaults are the required ones. -/
theorem required_eq_defaults : requiredSections = defaults.map (·.1) := rfl

/-- The default sections of a merge, under their names. -/
def mergedSections (loaded : Section) : Section :=
  defaults.map fun section_ => (Scalar.str section_.1, Yaml.mapping (mergedSection loaded section_))

theorem lookup_mergedSections (loaded : Section) {section_ : String × List (String × Scalar)}
    (member : section_ ∈ defaults) :
    (mergedSections loaded).lookup (.str section_.1) =
      some (.mapping (mergedSection loaded section_)) := by
  refine lookup_of_mem ?_ (List.mem_map.mpr ⟨section_, member, rfl⟩)
  have names : (mergedSections loaded).map (·.1) = requiredSections.map Scalar.str := rfl
  rw [names]
  decide

theorem lookup_mergeDefaults (loaded : Section) {section_ : String × List (String × Scalar)}
    (member : section_ ∈ defaults) :
    (mergeDefaults loaded).lookup (.str section_.1) =
      some (.mapping (mergedSection loaded section_)) := by
  have found := lookup_mergedSections loaded member
  unfold mergeDefaults
  rw [List.lookup_append]
  change ((mergedSections loaded).lookup _).or _ = _
  rw [found, Option.some_or]

theorem lookup_mergeDefaults_other (loaded : Section) {key : Scalar}
    (other : ∀ section_ ∈ defaults, key ≠ .str section_.1) :
    (mergeDefaults loaded).lookup key = loaded.lookup key := by
  have absent : (mergedSections loaded).lookup key = none := by
    rw [List.lookup_eq_none_iff]
    intro entry member
    obtain ⟨section_, inDefaults, rfl⟩ := List.mem_map.mp member
    simpa using other section_ inDefaults
  unfold mergeDefaults
  rw [List.lookup_append]
  change ((mergedSections loaded).lookup key).or
    ((loaded.filter fun entry => ((mergedSections loaded).lookup entry.1).isNone).lookup key) = _
  rw [lookup_filter_keys loaded fun key => ((mergedSections loaded).lookup key).isNone, absent]
  simp

/-- After a merge the shapes of the sections are never refused. -/
theorem validateSectionShapes_merged (loaded : Section) :
    validateSectionShapes (mergeDefaults loaded) = .ok () := by
  have mappings : ∀ name ∈ requiredSections, ∃ section_,
      (mergeDefaults loaded).lookup (.str name) = some (.mapping section_) := by
    intro name member
    rw [required_eq_defaults] at member
    obtain ⟨section_, inDefaults, rfl⟩ := List.mem_map.mp member
    exact ⟨_, lookup_mergeDefaults loaded inDefaults⟩
  unfold validateSectionShapes
  rw [List.forM_eq_forM]
  generalize requiredSections = names at mappings
  induction names with
  | nil => rfl
  | cons name rest ih =>
    obtain ⟨section_, found⟩ := mappings name List.mem_cons_self
    rw [List.forM_cons, found]
    exact ih fun name member => mappings name (List.mem_cons_of_mem _ member)

theorem lookup_mergedSection {loaded user : Section} {section_ : String × List (String × Scalar)}
    (given : loaded.lookup (.str section_.1) = some (.mapping user)) (key : Scalar) :
    (mergedSection loaded section_).lookup key =
      (user.lookup key).or ((defaultSection section_.2).lookup key) := by
  rw [mergedSection, given, Option.getD_some, lookup_updateWith]

theorem flat_defaultSection {defaults : List (String × Scalar)} {key : Scalar} {value : Yaml}
    (found : (defaultSection defaults).lookup key = some value) : flat value = true := by
  obtain ⟨entry, _, same⟩ := List.mem_map.mp (mem_of_lookup found)
  simp only [Prod.mk.injEq] at same
  rw [← same.2, flat]

/-! ## Loading -/

def Present (d : Document) : Prop :=
  ∀ name ∈ requiredSections, d.entries.lookup (.str name) ≠ none

theorem load_eq (path : String) (d : Document) :
    load path d = do
      validateRequiredSections d.entries
      return deepFreeze (.mapping (mergeDefaults d.entries)) := by
  have root : (if (Yaml.mapping d.entries).truthy then Yaml.mapping d.entries else .mapping []) =
      .mapping d.entries := by
    cases d.entries <;> rfl
  rw [load, loadConfig, root]
  dsimp only
  rw [validateSectionShapes_merged]
  rfl

theorem load_present {d : Document} (present : Present d) (path : String) :
    load path d = .ok (.proxy (freezeEntries (mergeDefaults d.entries))) := by
  have none_missing : (requiredSections.filter fun section_ =>
      (d.entries.lookup (.str section_)).isNone) = [] := by
    rw [List.filter_eq_nil_iff]
    intro name member absent
    exact present name member (Option.isNone_iff_eq_none.mp absent)
  rw [load_eq, validateRequiredSections, if_pos none_missing]
  rfl

theorem load_missing {d : Document} {name : String} (required : name ∈ requiredSections)
    (missing : d.entries.lookup (.str name) = none) (path : String) :
    ∃ message, load path d = .error (configError message) := by
  have some_missing : ¬ (requiredSections.filter fun section_ =>
      (d.entries.lookup (.str section_)).isNone) = [] := by
    rw [List.filter_eq_nil_iff]
    intro all
    exact all name required (by rw [missing]; rfl)
  rw [load_eq, validateRequiredSections, if_neg some_missing]
  exact ⟨_, rfl⟩

theorem WellFormed.present {d : Document} (wellFormed : WellFormed d) : Present d := by
  intro name member absent
  obtain ⟨section_, found⟩ := wellFormed name member
  rw [absent] at found
  cases found

/-- A flat document is merged section by section. -/
theorem merged_of_flat {d : Document} (wellFormed : WellFormed d)
    (plain : flatEntries d.entries = true) :
    Merged d (freezeEntries (mergeDefaults d.entries)) where
  sections := by
    intro section_ member
    have required : section_.1 ∈ requiredSections := by
      rw [required_eq_defaults]
      exact List.mem_map.mpr ⟨section_, member, rfl⟩
    obtain ⟨user, given⟩ := wellFormed section_.1 required
    refine ⟨user, freezeEntries (mergedSection d.entries section_), given, ?_, ?_⟩
    · rw [lookup_freezeEntries, lookup_mergeDefaults d.entries member]
      rfl
    · intro key
      rw [lookup_freezeEntries, lookup_mergedSection given]
      refine rel_deepFreeze fun value found => ?_
      rcases Option.or_eq_some_iff.mp found with theirs | ⟨_, default_⟩
      · have plainUser : flatEntries user = true := by
          simpa only [flat] using (flatEntries_iff d.entries).mp plain _ _ (mem_of_lookup given)
        exact (flatEntries_iff user).mp plainUser key value (mem_of_lookup theirs)
      · exact flat_defaultSection default_
  others := by
    intro key other
    rw [lookup_freezeEntries, lookup_mergeDefaults_other d.entries other]
    exact rel_deepFreeze fun value found =>
      (flatEntries_iff d.entries).mp plain key value (mem_of_lookup found)

theorem distinctEntries_mem {entries : List (Scalar × Yaml)}
    (distinct : distinctEntries entries = true) {key : Scalar} {value : Yaml}
    (member : (key, value) ∈ entries) : value.distinct = true := by
  induction entries with
  | nil => cases member
  | cons entry rest ih =>
    obtain ⟨first, found⟩ := entry
    rw [distinctEntries, Bool.and_eq_true] at distinct
    rcases List.mem_cons.mp member with same | there
    · simp only [Prod.mk.injEq] at same
      rw [same.2]
      exact distinct.1
    · exact ih distinct.2 there

/-- Only flat documents are merged. -/
theorem flat_of_merged {d : Document} {config : List (Scalar × Frozen)} (merged : Merged d config) :
    flatEntries d.entries = true := by
  have distinct := d.distinct
  rw [Yaml.distinct, Bool.and_eq_true, decide_eq_true_eq] at distinct
  rw [flatEntries_iff]
  intro key value member
  have found := lookup_of_mem distinct.1 member
  by_cases default_ : ∃ section_ ∈ defaults, key = .str section_.1
  · obtain ⟨section_, inDefaults, rfl⟩ := default_
    obtain ⟨user, block, given, _, keys⟩ := merged.sections section_ inDefaults
    rw [found, Option.some.injEq] at given
    subst given
    have userDistinct : (user.map (·.1)).Nodup := by
      have nested := distinctEntries_mem distinct.2 member
      rw [Yaml.distinct, Bool.and_eq_true, decide_eq_true_eq] at nested
      exact nested.1
    rw [flat, flatEntries_iff]
    intro key' value' member'
    have related := keys key'
    rw [lookup_of_mem userDistinct member', Option.some_or] at related
    exact flat_of_rel related
  · have related := merged.others key fun section_ inDefaults same =>
      default_ ⟨section_, inDefaults, same⟩
    rw [found] at related
    exact flat_of_rel related

/-- A document is loaded exactly as it should be if and only if a required section is
missing, or all of them are mappings and no tuple of the document holds a mapping or a
list. -/
theorem loads_exactly_iff (path : String) (d : Document) :
    LoadsExactly path d ↔
      ¬ Present d ∨ (WellFormed d ∧ flat (.mapping d.entries) = true) := by
  constructor
  · intro exactly_
    by_cases present : Present d
    · have loaded := load_present present path
      have wellFormed := exactly_.returns.mp ⟨_, loaded⟩
      obtain ⟨entries, _, merged⟩ := exactly_.merged _ loaded
      rw [flat]
      exact Or.inr ⟨wellFormed, flat_of_merged merged⟩
    · exact Or.inl present
  · rintro (missing | ⟨wellFormed, plain⟩)
    · have absent : ∃ name ∈ requiredSections, d.entries.lookup (.str name) = none := by
        by_contra none_absent
        exact missing fun name member gone => none_absent ⟨name, member, gone⟩
      obtain ⟨name, member, gone⟩ := absent
      obtain ⟨message, refused⟩ := load_missing member gone path
      refine ⟨⟨?_, ?_⟩, ?_, ?_⟩
      · rintro ⟨config, loaded⟩
        rw [refused] at loaded
        cases loaded
      · exact fun wellFormed => absurd wellFormed.present missing
      · intro config loaded
        rw [refused] at loaded
        cases loaded
      · intro exc raised
        rw [refused, Except.error.injEq] at raised
        exact ⟨message, raised.symm⟩
    · have loaded := load_present wellFormed.present path
      rw [flat] at plain
      refine ⟨⟨fun _ => wellFormed, fun _ => ⟨_, loaded⟩⟩, ?_, ?_⟩
      · intro config same
        rw [loaded, Except.ok.injEq] at same
        exact ⟨_, same.symm, merged_of_flat wellFormed plain⟩
      · intro exc raised
        rw [loaded] at raised
        cases raised

/-- The five sections, with the given value for `calibration`, and one more key. -/
def withCalibration (calibration extra : Yaml) : Section :=
  [(.str "command_router", .mapping []), (.str "calibration", calibration),
    (.str "proactive", .mapping []), (.str "runtime", .mapping []),
    (.str "hardware", .mapping []), (.str "extra", extra)]

def emptyCalibration : Document :=
  ⟨withCalibration (.scalar .null) (.scalar .null), by decide⟩

/-- `extra: !!pairs [a: {b: 1}]`. -/
def pairedExtra : Document :=
  ⟨withCalibration (.mapping [])
    (.sequence [.pair (.scalar (.str "a")) (.mapping [(.str "b", .scalar (.int 1))])]), by decide⟩

/-- An empty section is replaced by its defaults instead of being refused, and a mapping in
a tuple stays a mapping. -/
theorem loads_inexactly :
    ((∃ config, load "c.yaml" emptyCalibration = .ok config) ∧ ¬ WellFormed emptyCalibration ∧
        ¬ LoadsExactly "c.yaml" emptyCalibration) ∧
      ¬ LoadsExactly "c.yaml" pairedExtra := by
  have present : Present emptyCalibration := by
    unfold Present
    decide
  have loaded := load_present present "c.yaml"
  have malformed : ¬ WellFormed emptyCalibration := by
    intro wellFormed
    obtain ⟨section_, found⟩ := wellFormed "calibration" (by decide)
    cases found
  refine ⟨⟨⟨_, loaded⟩, malformed, fun exactly_ => malformed (exactly_.returns.mp ⟨_, loaded⟩)⟩, ?_⟩
  intro exactly_
  have paired : Present pairedExtra := by
    unfold Present
    decide
  obtain ⟨entries, _, merged⟩ := exactly_.merged _ (load_present paired "c.yaml")
  exact absurd (flat_of_merged merged) (by decide)

end Apcos.Guarantees.ConfigLoading
