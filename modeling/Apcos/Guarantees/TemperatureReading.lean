import Apcos.Source.Hardware.SensorPayload

/-!
# The reported temperature

A sensor entry of psutil is a named tuple, which the sample extraction takes for a
sequence: the thresholds of an entry are samples beside its current value. What is
reported is the largest of all of them, which is the current temperature exactly if
no threshold is above every current value.
-/
namespace Apcos.Guarantees.TemperatureReading

open Apcos.Source.Python
open Apcos.Source.Hardware

/-- The larger of zero and the largest current value. -/
structure IsCurrentTemperature (entries : List SensorEntry) (t : PyFloat) : Prop where
  nonnegative : (PyFloat.finite 0).le t = true
  covers : ∀ e ∈ entries, ∃ c, e.current.double = some c ∧ c.le t = true
  attained : t = .finite 0 ∨ ∃ e ∈ entries, e.current.double = some t

/-- Both calls, each with this payload read. -/
def ReportsCurrent (m : ThermalMonitor) (sensors : Sensors) : Prop :=
  ∃ t, ThermalMonitor.temperatureOf (defaultTemperatureReader (some (.ok sensors))) = .ok t ∧
    IsCurrentTemperature sensors.entries t ∧
    m.isOverLimitOf (defaultTemperatureReader (some (.ok sensors))) = .ok (m.limitCelsius.le t)

/-- No integer of the entry is too large for a double. -/
def InRange (e : SensorEntry) : Prop := ∀ n ∈ e.current :: e.limits, n.double.isSome = true

/-- A threshold that some current value reaches, or that is not positive. -/
def Covered (entries : List SensorEntry) (limit : Number) : Prop :=
  ∃ x, limit.double = some x ∧
    (x.le (.finite 0) = true ∨
      ∃ e ∈ entries, ∃ c, e.current.double = some c ∧ x.le c = true)

/-! ## Samples of a payload -/

def numbers (e : SensorEntry) : List Number := e.current :: e.limits

theorem double_ne_nan {n : Number} {x : PyFloat} (converted : n.double = some x) : x ≠ .nan := by
  cases n with
  | int n => exact floatOfInt_ne_nan converted
  | float y number =>
    simp only [Number.double, Option.some.injEq] at converted
    rw [← converted]
    exact number

/-- Samples of a list are those of its parts, in order. -/
theorem extractItems_append (first later : List Payload) :
    extractItems (first ++ later) = (do
      let samples ← extractItems first
      let more ← extractItems later
      return samples ++ more) := by
  induction first with
  | nil =>
    simp only [List.nil_append, extractItems]
    cases extractItems later <;> rfl
  | cons item rest ih =>
    simp only [List.cons_append, extractItems, ih]
    cases extractSamples item with
    | error exc => rfl
    | ok samples =>
      cases extractItems rest with
      | error exc => rfl
      | ok more =>
        cases extractItems later with
        | error exc => rfl
        | ok last => simp [Bind.bind, Except.bind, Pure.pure, Except.pure]

theorem extractItems_text (rest : List Payload) :
    extractItems (.text :: rest) = extractItems rest := by
  rw [extractItems, extractSamples]
  cases extractItems rest <;> rfl

/-- An entry is its numbers; the label and an absent threshold give nothing. -/
theorem extractSamples_entry (e : SensorEntry) :
    extractSamples e.payload = extractItems ((numbers e).map Number.payload) := by
  have threshold : ∀ limit : Option Number,
      extractItems [(limit.map Number.payload).getD .none] =
        extractItems (limit.toList.map Number.payload) := by
    intro limit
    cases limit <;> rfl
  have fields : numbers e = [e.current] ++ (e.high.toList ++ e.critical.toList) := rfl
  have items : [e.current.payload, (e.high.map Number.payload).getD .none,
      (e.critical.map Number.payload).getD .none] =
      [e.current].map Number.payload ++ ([(e.high.map Number.payload).getD .none] ++
        [(e.critical.map Number.payload).getD .none]) := rfl
  rw [SensorEntry.payload, extractSamples, extractItems_text, items, fields, List.map_append,
    List.map_append, extractItems_append, extractItems_append, extractItems_append _ (_ ++ _),
    extractItems_append, threshold, threshold]

theorem extractItems_entries (entries : List SensorEntry) :
    extractItems (entries.map SensorEntry.payload) =
      extractItems ((entries.flatMap numbers).map Number.payload) := by
  induction entries with
  | nil => rfl
  | cons e rest ih =>
    rw [List.flatMap_cons, List.map_append, extractItems_append, List.map_cons, extractItems,
      extractSamples_entry, ih]

theorem payloadSamples_sensors (sensors : Sensors) :
    payloadSamples sensors.payload =
      extractItems ((sensors.entries.flatMap numbers).map Number.payload) := by
  have chips : ∀ chips : Sensors,
      extractItems (chips.map fun chip => .sequence (chip.2.map SensorEntry.payload) none) =
        extractItems ((chips.entries.flatMap numbers).map Number.payload) := by
    intro chips
    induction chips with
    | nil => rfl
    | cons chip rest ih =>
      simp only [Sensors.entries] at ih
      rw [Sensors.entries, List.flatMap_cons, List.flatMap_append, List.map_append,
        extractItems_append, List.map_cons, extractItems, extractSamples, extractItems_entries, ih]
  rw [← chips sensors, Sensors.payload, payloadSamples, List.map_map]
  rfl

/-- Numbers give one sample each, unless an integer is too large. -/
theorem extractItems_numbers (given : List Number) (samples : List PyFloat) :
    extractItems (given.map Number.payload) = .ok samples ↔
      given.map Number.double = samples.map some := by
  induction given generalizing samples with
  | nil => cases samples <;> simp [extractItems]
  | cons n rest ih =>
    have first : extractSamples n.payload =
        n.double.elim (.error ⟨.overflowError, "int too large to convert to float"⟩)
          fun x => .ok [x] := by
      cases n with
      | int n =>
        simp only [Number.payload, extractSamples, floatOfPayload, Number.double]
        cases floatOfInt n <;> rfl
      | float x number => rfl
    rw [List.map_cons, List.map_cons, extractItems, first]
    cases n.double with
    | none => cases samples <;> simp [Bind.bind, Except.bind]
    | some x =>
      cases later : extractItems (rest.map Number.payload) with
      | error exc =>
        cases samples with
        | nil => simp [Bind.bind, Except.bind]
        | cons y more =>
          have refused : ¬ rest.map Number.double = more.map some := by
            rw [← ih, later]
            simp
          simp [Bind.bind, Except.bind, refused]
      | ok found =>
        have same : rest.map Number.double = found.map some := (ih found).mp later
        cases samples with
        | nil => simp [Bind.bind, Except.bind, Pure.pure, Except.pure]
        | cons y more =>
          have injective := (List.map_injective_iff.mpr (Option.some_injective PyFloat)).eq_iff
            (a := found) (b := more)
          simp [Bind.bind, Except.bind, Pure.pure, Except.pure, same, injective]

/-! ## The largest sample -/

/-- The largest of some numbers is one of them and bounds them all. -/
theorem foldl_max {first : PyFloat} {rest : List PyFloat} (number : first ≠ .nan)
    (all : ∀ x ∈ rest, x ≠ .nan) :
    rest.foldl PyFloat.max first ∈ first :: rest ∧
      ∀ x ∈ first :: rest, x.le (rest.foldl PyFloat.max first) = true := by
  induction rest generalizing first with
  | nil => simp [PyFloat.le_refl number]
  | cons y later ih =>
    have second : y ≠ .nan := all y List.mem_cons_self
    obtain ⟨member, above⟩ := ih (PyFloat.max_ne_nan number y)
      fun x here => all x (List.mem_cons_of_mem y here)
    have top := above (first.max y) List.mem_cons_self
    have one : first.le (first.max y) = true := PyFloat.le_max (PyFloat.le_refl number) y
    have other : y.le (first.max y) = true := by
      unfold PyFloat.max
      split
      · exact PyFloat.le_refl second
      · rename_i not_less
        exact PyFloat.le_of_not_lt second number (Bool.eq_false_iff.mpr not_less)
    refine ⟨?_, ?_⟩
    · rw [List.foldl_cons]
      rcases List.mem_cons.mp member with here | there
      · rw [here, PyFloat.max]
        split <;> simp
      · simp [there]
    · intro x here
      rw [List.foldl_cons]
      rcases List.mem_cons.mp here with same | here
      · rw [same]
        exact PyFloat.le_trans one top
      · rcases List.mem_cons.mp here with same | here
        · rw [same]
          exact PyFloat.le_trans other top
        · exact above x (List.mem_cons_of_mem _ here)

/-- The reported temperature is zero or a sample, and at least both. -/
theorem temperatureCelsius_largest {samples : List PyFloat} (all : ∀ x ∈ samples, x ≠ .nan) :
    (PyFloat.finite 0).le (ThermalMonitor.temperatureCelsius samples) = true ∧
      (∀ x ∈ samples, x.le (ThermalMonitor.temperatureCelsius samples) = true) ∧
      (ThermalMonitor.temperatureCelsius samples = .finite 0 ∨
        ThermalMonitor.temperatureCelsius samples ∈ samples) := by
  have zero : PyFloat.finite 0 ≠ .nan := by simp
  cases samples with
  | nil => exact ⟨PyFloat.le_refl zero, by simp, Or.inl rfl⟩
  | cons first rest =>
    have later : ∀ x ∈ rest, x ≠ .nan := fun x here => all x (List.mem_cons_of_mem first here)
    obtain ⟨member, above⟩ := foldl_max (all first List.mem_cons_self) later
    have number := all _ member
    simp only [ThermalMonitor.temperatureCelsius, PyFloat.max]
    split
    · rename_i positive
      refine ⟨?_, above, Or.inr member⟩
      exact PyFloat.le_of_lt_of_le positive (PyFloat.le_refl number)
    · rename_i not_positive
      have below := PyFloat.le_of_not_lt number zero (Bool.eq_false_iff.mpr not_positive)
      exact ⟨PyFloat.le_refl zero, fun x here => PyFloat.le_trans (above x here) below, Or.inl rfl⟩

/-! ## What is reported -/

theorem temperatureOf_ok {payload : Payload} {t : PyFloat}
    (reported : ThermalMonitor.temperatureOf payload = .ok t) :
    ∃ samples, payloadSamples payload = .ok samples ∧
      t = ThermalMonitor.temperatureCelsius samples := by
  unfold ThermalMonitor.temperatureOf at reported
  cases read : payloadSamples payload with
  | error exc => rw [read] at reported; cases reported
  | ok samples =>
    rw [read] at reported
    cases reported
    exact ⟨samples, rfl, rfl⟩

/-- The samples are the numbers of the entries. -/
theorem mem_samples {sensors : Sensors} {samples : List PyFloat}
    (read : payloadSamples sensors.payload = .ok samples) (x : PyFloat) :
    x ∈ samples ↔ ∃ e ∈ sensors.entries, ∃ n ∈ numbers e, n.double = some x := by
  rw [payloadSamples_sensors, extractItems_numbers] at read
  have converted : some x ∈ (sensors.entries.flatMap numbers).map Number.double ↔ x ∈ samples := by
    rw [read]
    simp
  rw [← converted]
  simp only [List.mem_map, List.mem_flatMap]
  constructor
  · rintro ⟨n, ⟨e, here, member⟩, same⟩
    exact ⟨e, here, n, member, same⟩
  · rintro ⟨e, here, n, member, same⟩
    exact ⟨n, ⟨e, here, member⟩, same⟩

theorem samples_ne_nan {sensors : Sensors} {samples : List PyFloat}
    (read : payloadSamples sensors.payload = .ok samples) : ∀ x ∈ samples, x ≠ .nan := by
  intro x member
  obtain ⟨e, _, n, _, same⟩ := (mem_samples read x).mp member
  exact double_ne_nan same

/-- Reading succeeds exactly if every number fits a double. -/
theorem samples_of_inRange (sensors : Sensors) :
    (∃ samples, payloadSamples sensors.payload = .ok samples) ↔
      ∀ e ∈ sensors.entries, InRange e := by
  simp only [payloadSamples_sensors, extractItems_numbers]
  constructor
  · rintro ⟨samples, read⟩ e here n member
    have converted : n.double ∈ samples.map some := by
      rw [← read]
      exact List.mem_map.mpr ⟨n, List.mem_flatMap.mpr ⟨e, here, member⟩, rfl⟩
    obtain ⟨x, _, same⟩ := List.mem_map.mp converted
    rw [← same]
    rfl
  · intro inRange
    refine ⟨(sensors.entries.flatMap numbers).filterMap Number.double, ?_⟩
    have all : ∀ n ∈ sensors.entries.flatMap numbers, n.double.isSome = true := by
      intro n member
      obtain ⟨e, here, member⟩ := List.mem_flatMap.mp member
      exact inRange e here n member
    generalize sensors.entries.flatMap numbers = given at all
    induction given with
    | nil => rfl
    | cons n rest ih =>
      obtain ⟨x, same⟩ := Option.isSome_iff_exists.mp (all n List.mem_cons_self)
      rw [List.map_cons, List.filterMap_cons_some same, List.map_cons, same,
        ih fun n member => all n (List.mem_cons_of_mem _ member)]

/-- The monitor reports the current temperature and compares it with the limit exactly if
every number of the entries fits a double and each threshold is at most zero or at most
some current value. -/
theorem reports_current_iff (m : ThermalMonitor) (sensors : Sensors) :
    ReportsCurrent m sensors ↔
      (∀ e ∈ sensors.entries, InRange e) ∧
        ∀ e ∈ sensors.entries, ∀ limit ∈ e.limits, Covered sensors.entries limit := by
  constructor
  · rintro ⟨t, reported, current, _⟩
    obtain ⟨samples, read, rfl⟩ := temperatureOf_ok reported
    have inRange := (samples_of_inRange sensors).mp ⟨samples, read⟩
    obtain ⟨_, above, _⟩ := temperatureCelsius_largest (samples_ne_nan read)
    refine ⟨inRange, fun e here limit member => ?_⟩
    have among : limit ∈ numbers e := List.mem_cons_of_mem _ member
    obtain ⟨x, same⟩ := Option.isSome_iff_exists.mp (inRange e here limit among)
    have below := above x ((mem_samples read x).mpr ⟨e, here, limit, among, same⟩)
    refine ⟨x, same, ?_⟩
    rcases current.attained with zero | ⟨e', here', attained⟩
    · rw [zero] at below
      exact Or.inl below
    · exact Or.inr ⟨e', here', _, attained, below⟩
  · rintro ⟨inRange, covered⟩
    obtain ⟨samples, read⟩ := (samples_of_inRange sensors).mpr inRange
    obtain ⟨nonnegative, above, attained⟩ := temperatureCelsius_largest (samples_ne_nan read)
    have currents : ∀ e ∈ sensors.entries, ∀ c, e.current.double = some c → c ∈ samples := by
      intro e here c same
      exact (mem_samples read c).mpr ⟨e, here, e.current, List.mem_cons_self, same⟩
    refine ⟨ThermalMonitor.temperatureCelsius samples, ?_, ⟨nonnegative, ?_, ?_⟩, ?_⟩
    · simp [defaultTemperatureReader, ThermalMonitor.temperatureOf, read, Except.map]
    · intro e here
      obtain ⟨c, same⟩ := Option.isSome_iff_exists.mp (inRange e here e.current List.mem_cons_self)
      exact ⟨c, same, above c (currents e here c same)⟩
    · rcases attained with zero | member
      · exact Or.inl zero
      · obtain ⟨e, here, n, among, same⟩ := (mem_samples read _).mp member
        rcases List.mem_cons.mp among with is_current | is_limit
        · exact Or.inr ⟨e, here, by rw [← is_current]; exact same⟩
        · obtain ⟨x, converted, low | ⟨e', here', c, current, below⟩⟩ := covered e here n is_limit
          · rw [same, Option.some.injEq] at converted
            rw [← converted] at low
            exact Or.inl (PyFloat.le_antisymm low nonnegative)
          · rw [same, Option.some.injEq] at converted
            rw [← converted] at below
            have equal := PyFloat.le_antisymm below (above c (currents e' here' c current))
            exact Or.inr ⟨e', here', by rw [equal]; exact current⟩
    · simp [defaultTemperatureReader, ThermalMonitor.isOverLimitOf, ThermalMonitor.isOverLimit, read,
        Except.map]

/-- 45 degrees, with the usual thresholds. -/
def coretemp : Sensors :=
  [("coretemp", [⟨"Package id 0", .float (.finite 45) (by simp),
    some (.float (.finite 80) (by simp)), some (.float (.finite 100) (by simp))⟩])]

/-- The critical threshold is reported as the temperature, and is over the limit. -/
theorem threshold_reported :
    ThermalMonitor.temperatureOf (defaultTemperatureReader (some (.ok coretemp))) =
        .ok (.finite 100) ∧
      (ThermalMonitor.mk (.finite 75)).isOverLimitOf
        (defaultTemperatureReader (some (.ok coretemp))) = .ok true ∧
      ¬ ReportsCurrent (ThermalMonitor.mk (.finite 75)) coretemp := by
  have reported : ThermalMonitor.temperatureOf (defaultTemperatureReader (some (.ok coretemp))) =
      .ok (.finite 100) := by decide +kernel
  refine ⟨reported, by decide +kernel, ?_⟩
  rintro ⟨t, same, current, _⟩
  rw [reported, Except.ok.injEq] at same
  rw [← same] at current
  rcases current.attained with zero | ⟨e, here, attained⟩
  · cases zero
  · simp only [coretemp, Sensors.entries, List.flatMap_cons, List.flatMap_nil, List.append_nil,
      List.mem_singleton] at here
    rw [here] at attained
    cases attained

end Apcos.Guarantees.TemperatureReading
