import Telemetry.Exporter.Builder
import Telemetry.Proofs.Limits.Reading

/-! How limits are found. Each limit of log records and of spans is that of the first variable that sets one:
its own variable, then the general one, then a fixed limit. The variables whose text sets no limit are
reported once each, in the order in which they are read. Of the settings made by hand the last one of
each limit counts. An exporter reads the environment only where no limits were given to it. -/
namespace Telemetry

inductive LimitedItem where
  | logRecord
  | span

namespace LimitedItem

def valueLength : LimitedItem → LimitVariable
  | .logRecord => .logRecordValueLength
  | .span => .spanValueLength

def count : LimitedItem → LimitVariable
  | .logRecord => .logRecordCount
  | .span => .spanCount

def signal : LimitedItem → Signal
  | .logRecord => .logs
  | .span => .traces

def sources (item : LimitedItem) : List LimitVariable :=
  [item.valueLength, item.count, .valueLength, .count]

end LimitedItem

namespace LimitVariable

def Rejected (environment : Environment) (source : LimitVariable) (text : String) : Prop :=
  environment source = some text.toUTF8 ∧ ∀ n, ¬ source.Sets environment n

variable {environment : Environment} {source : LimitVariable}

theorem read?_eq_none_iff : source.read? environment = none ↔ ∀ n, ¬ source.Sets environment n := by
  simp only [Option.eq_none_iff_forall_ne_some, ne_eq, read?_eq_some_iff]

def rejectedText? (environment : Environment) (source : LimitVariable) : Option String :=
  if (source.read? environment).isNone then source.text? environment else none

theorem rejectedText?_eq_some_iff {text : String} :
    source.rejectedText? environment = some text ↔ source.Rejected environment text := by
  rw [rejectedText?, Rejected, Option.ite_none_right_eq_some, Option.isNone_iff_eq_none, read?_eq_none_iff,
    text?_eq_some_iff, and_comm]

theorem warning?_eq : source.warning? environment =
    (source.rejectedText? environment).map (Diagnostic.invalidLimit source) := by
  unfold warning? rejectedText?
  cases source.text? environment <;> cases source.read? environment <;> rfl

end LimitVariable

namespace SignalLimits

variable {environment : Environment}

def ofItem (limits : SignalLimits) : LimitedItem → AttributeLimits
  | .logRecord => limits.logRecord
  | .span => limits.span

/-- The limit that the first of some variables sets. A variable that sets none is passed over, and where no
variable sets one the limit is the fixed one. -/
inductive Resolved (environment : Environment) (fixed : Option Nat) : List LimitVariable → Option Nat → Prop
  | found {source : LimitVariable} {others : List LimitVariable} {n : Nat} (sets : source.Sets environment n) :
    Resolved environment fixed (source :: others) (some n)
  | passed {source : LimitVariable} {others : List LimitVariable} {limit : Option Nat}
    (silent : ∀ n, ¬ source.Sets environment n) (later : Resolved environment fixed others limit) :
    Resolved environment fixed (source :: others) limit
  | fixed : Resolved environment fixed [] fixed

structure GivenBy (environment : Environment) (item : LimitedItem) (limits : AttributeLimits) : Prop where
  valueLength : Resolved environment none [item.valueLength, .valueLength] limits.valueLength
  count : Resolved environment (some 128) [item.count, .count] limits.count

theorem resolved_cons {fixed limit : Option Nat} {others : List LimitVariable} (source : LimitVariable)
    (later : Resolved environment fixed others limit) :
    Resolved environment fixed (source :: others) ((source.read? environment).or limit) := by
  cases reading : source.read? environment with
  | some n => exact .found (LimitVariable.read?_eq_some_iff.mp reading)
  | none => exact .passed (LimitVariable.read?_eq_none_iff.mp reading) later

theorem valueLength_ofEnvironment (environment : Environment) (item : LimitedItem) :
    ((ofEnvironment environment).ofItem item).valueLength =
      (item.valueLength.read? environment).or ((LimitVariable.valueLength.read? environment).or none) := by
  rw [Option.or_none]
  cases item <;> rfl

theorem count_ofEnvironment (environment : Environment) (item : LimitedItem) :
    ((ofEnvironment environment).ofItem item).count =
      (item.count.read? environment).or ((LimitVariable.count.read? environment).or (some 128)) := by
  cases item <;> rfl

theorem givenBy_ofEnvironment (environment : Environment) (item : LimitedItem) :
    GivenBy environment item ((ofEnvironment environment).ofItem item) where
  valueLength := by
    rw [valueLength_ofEnvironment]
    exact resolved_cons _ (resolved_cons _ .fixed)
  count := by
    rw [count_ofEnvironment]
    exact resolved_cons _ (resolved_cons _ .fixed)

/-- The limits of an item depend on its own variables and the general ones. -/
theorem ofItem_congr {other : Environment} {item : LimitedItem}
    (same : ∀ source ∈ item.sources, other source = environment source) :
    (ofEnvironment other).ofItem item = (ofEnvironment environment).ofItem item := by
  have reads : ∀ source ∈ item.sources, source.read? other = source.read? environment := by
    intro source member
    unfold LimitVariable.read? LimitVariable.text?
    rw [same source member]
  simp only [LimitedItem.sources, List.forall_mem_cons] at reads
  obtain ⟨ownLength, ownCount, length, count, _⟩ := reads
  rw [AttributeLimits.mk.injEq, valueLength_ofEnvironment, valueLength_ofEnvironment, count_ofEnvironment,
    count_ofEnvironment, ownLength, ownCount, length, count]
  exact ⟨rfl, rfl⟩

/-- The warnings are those of the rejected variables. Each comes once, in the order of reading. -/
theorem exists_rejected (environment : Environment) : ∃ rejected : List (LimitVariable × String),
    warnings environment = rejected.map (fun (source, text) => .invalidLimit source text) ∧
      (rejected.map (·.1)).Sublist LimitVariable.all ∧
      ∀ source text, (source, text) ∈ rejected ↔ source.Rejected environment text := by
  refine ⟨LimitVariable.all.filterMap fun source => (source.rejectedText? environment).map (source, ·),
    ?_, ?_, ?_⟩
  · rw [warnings, List.map_filterMap]
    refine congrArg (List.filterMap · LimitVariable.all) (funext fun source => ?_)
    rw [LimitVariable.warning?_eq, Option.map_map]
    rfl
  · have kept : ∀ source : LimitVariable, ((source.rejectedText? environment).map (source, ·)).map (·.1) =
        Option.guard (fun source => (source.rejectedText? environment).isSome) source := by
      intro source
      cases given : source.rejectedText? environment <;> simp [Option.guard, given]
    rw [List.map_filterMap, funext kept, List.filterMap_eq_filter]
    exact List.filter_sublist
  · intro source text
    have member : source ∈ LimitVariable.all := by cases source <;> decide
    rw [← LimitVariable.rejectedText?_eq_some_iff]
    simp [List.mem_filterMap, member]

namespace Setting

def valueLength? : LimitedItem → Setting → Option Nat
  | .logRecord, .logRecordValueLength n => some n
  | .span, .spanValueLength n => some n
  | _, _ => none

def count? : LimitedItem → Setting → Option Nat
  | .logRecord, .logRecordCount n => some n
  | .span, .spanCount n => some n
  | _, _ => none

end Setting

/-- A part of the limits that each setting replaces or keeps is in the end that of the last to replace it. -/
theorem foldl_set (field : SignalLimits → Option Nat) {given? : Setting → Option Nat}
    (step : ∀ limits setting, field (limits.set setting) = (given? setting).or (field limits))
    (settings : List Setting) (limits : SignalLimits) :
    field (settings.foldl set limits) = (settings.filterMap given?).getLast?.or (field limits) := by
  induction settings generalizing limits with
  | nil => rfl
  | cons setting settings ih =>
    rw [List.foldl_cons, ih, step]
    cases given : given? setting with
    | none => rw [List.filterMap_cons_none given, Option.none_or]
    | some n =>
      rw [List.filterMap_cons_some given, List.getLast?_cons]
      cases (settings.filterMap given?).getLast? <;> rfl

def overlaid (item : LimitedItem) (settings : List Setting) (limits : AttributeLimits) : AttributeLimits :=
  ⟨(settings.filterMap (Setting.valueLength? item)).getLast?.or limits.valueLength,
    (settings.filterMap (Setting.count? item)).getLast?.or limits.count⟩

theorem ofItem_build (environment : Environment) (settings : List Setting) (item : LimitedItem) :
    (build environment settings).ofItem item =
      overlaid item settings ((ofEnvironment environment).ofItem item) := by
  have length : ∀ limits setting, ((set limits setting).ofItem item).valueLength =
      (setting.valueLength? item).or (limits.ofItem item).valueLength := by
    intro limits setting
    cases item <;> cases setting <;> rfl
  have count : ∀ limits setting, ((set limits setting).ofItem item).count =
      (setting.count? item).or (limits.ofItem item).count := by
    intro limits setting
    cases item <;> cases setting <;> rfl
  rw [overlaid, AttributeLimits.mk.injEq]
  exact ⟨foldl_set (fun limits => (limits.ofItem item).valueLength) length settings _,
    foldl_set (fun limits => (limits.ofItem item).count) count settings _⟩

end SignalLimits

theorem ExporterBuilder.build_limits {σ : Type} (item : LimitedItem) (builder : ExporterBuilder item.signal)
    (environment : Environment) (sink : Sink σ) (state : σ) :
    (builder.build environment sink state).1.limits =
        builder.limits.getD ((SignalLimits.ofEnvironment environment).ofItem item) ∧
      (builder.build environment sink state).2 =
        if builder.limits.isNone then SignalLimits.warnings environment else [] := by
  obtain ⟨resource, limits⟩ := builder
  cases item <;> cases limits <;> exact ⟨rfl, rfl⟩

namespace SignalLimits

/-- How every environment and every sequence of settings give the limits of log records and of spans. A
variable is read exactly when it sets a limit. Each limit comes from the first of its variables that sets
one, and no item depends on the variables of the other. Each variable with a text that sets no limit is
reported once, with its name and its text. Limits set by hand stand above those of the environment. -/
theorem limits_are_resolved (environment : Environment) :
    (∀ (source : LimitVariable) (n : Nat), source.read? environment = some n ↔ source.Sets environment n) ∧
    (∀ item : LimitedItem, GivenBy environment item ((ofEnvironment environment).ofItem item)) ∧
    (∀ (item : LimitedItem) (other : Environment),
      (∀ source ∈ item.sources, other source = environment source) →
        (ofEnvironment other).ofItem item = (ofEnvironment environment).ofItem item) ∧
    (∃ rejected : List (LimitVariable × String),
      warnings environment = rejected.map (fun (source, text) => .invalidLimit source text) ∧
      (rejected.map (·.1)).Sublist [.valueLength, .count, .logRecordValueLength, .logRecordCount, .spanValueLength,
        .spanCount] ∧
      (∀ source text, (source, text) ∈ rejected ↔ source.Rejected environment text) ∧
      ∀ source text, ("variable", source.name) ∈ (Diagnostic.invalidLimit source text).fields ∧
        ("value", text) ∈ (Diagnostic.invalidLimit source text).fields) ∧
    (∀ (settings : List Setting) (item : LimitedItem),
      (build environment settings).ofItem item =
        overlaid item settings ((ofEnvironment environment).ofItem item)) ∧
    ∀ (item : LimitedItem) (builder : ExporterBuilder item.signal) (σ : Type) (sink : Sink σ) (state : σ),
      (builder.build environment sink state).1.limits =
          builder.limits.getD ((ofEnvironment environment).ofItem item) ∧
        (builder.build environment sink state).2 =
          if builder.limits.isNone then warnings environment else [] := by
  obtain ⟨rejected, reported, ordered, rejected_iff⟩ := exists_rejected environment
  refine ⟨fun _ _ => LimitVariable.read?_eq_some_iff, givenBy_ofEnvironment environment, fun _ _ => ofItem_congr,
    ⟨rejected, reported, ordered, rejected_iff, ?_⟩, ofItem_build environment,
    fun item builder σ sink state => builder.build_limits item environment sink state⟩
  intro source text
  simp [Diagnostic.fields]

def spanCountOnly (text : String) : Environment
  | .spanCount => some text.toUTF8
  | _ => none

/-- The count of span attributes leaves log records alone. -/
theorem limits_are_resolved_spans :
    (ofEnvironment (spanCountOnly " +064 ")).logRecord = (ofEnvironment (spanCountOnly "many")).logRecord ∧
      Resolved (spanCountOnly " +064 ") (some 128) [.spanCount, .count] (some 64) ∧
      Resolved (spanCountOnly "many") (some 128) [.spanCount, .count] (some 128) ∧
      ("variable", "OTEL_SPAN_ATTRIBUTE_COUNT_LIMIT") ∈ (Diagnostic.invalidLimit .spanCount "many").fields ∧
      LimitVariable.all.map (·.name) = ["OTEL_ATTRIBUTE_VALUE_LENGTH_LIMIT", "OTEL_ATTRIBUTE_COUNT_LIMIT",
        "OTEL_LOGRECORD_ATTRIBUTE_VALUE_LENGTH_LIMIT", "OTEL_LOGRECORD_ATTRIBUTE_COUNT_LIMIT",
        "OTEL_SPAN_ATTRIBUTE_VALUE_LENGTH_LIMIT", "OTEL_SPAN_ATTRIBUTE_COUNT_LIMIT"] := by
  have apart : ∀ source ∈ LimitedItem.logRecord.sources,
      spanCountOnly " +064 " source = spanCountOnly "many" source := by
    simp only [LimitedItem.sources, List.forall_mem_cons]
    exact ⟨rfl, rfl, rfl, rfl, by simp⟩
  obtain ⟨_, resolved, congr, ⟨_, _, _, _, named⟩, _⟩ := limits_are_resolved (spanCountOnly "many")
  refine ⟨congr .logRecord _ apart, ?_, ?_, (named .spanCount "many").1, rfl⟩
  · exact ((limits_are_resolved (spanCountOnly " +064 ")).2.1 .span).count
  · exact (resolved .span).count

end SignalLimits

end Telemetry
