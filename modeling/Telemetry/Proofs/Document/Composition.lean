import Telemetry.Proofs.Document.Unsupported
import Telemetry.Proofs.Scope.Cursor

/-! How the text of a document is put together. Between a header that depends on the resource alone and a
fixed footer stand the texts of the groups, and in each group those of its items, which depend on nothing
but the item and the limits. The groups of two batches in a row are those of the one and then those of the
other, except that two groups of one scope become one where the batches meet. -/
namespace Telemetry

structure GroupText where
  opening : String
  items : List String

namespace Signal

def scopeOf : (signal : Signal) → signal.Item → Scope
  | .logs, _ => ⟨"", none, none, []⟩
  | .metrics, metric => metric.scope
  | .traces, span => span.scope

def itemJson (limits : AttributeLimits) : (signal : Signal) → signal.Item → Json
  | .logs, record => record.toJson limits.valueLength
  | .metrics, metric => metric.toJson
  | .traces, span => span.toJson limits.valueLength

def itemText (limits : AttributeLimits) (signal : Signal) (item : signal.Item) : String :=
  (signal.itemJson limits item).render

/-- What comes before the items of a scope. The one scope of log records is opened by the header. -/
def opening (scope : Scope) : Signal → String
  | .logs => ""
  | .metrics => "\x7b\"scope\":" ++ scope.toJson.render ++ ",\"metrics\":["
  | .traces => "\x7b\"scope\":" ++ scope.toJson.render ++ ",\"spans\":["

def closing : Signal → String
  | .logs => ""
  | .metrics => "]\x7d"
  | .traces => "]\x7d"

def start : Signal → String
  | .logs => "\x7b\"resourceLogs\":[\x7b\"resource\":"
  | .metrics => "\x7b\"resourceMetrics\":[\x7b\"resource\":"
  | .traces => "\x7b\"resourceSpans\":[\x7b\"resource\":"

def middle : Signal → String
  | .logs => ",\"scopeLogs\":[\x7b\"scope\":\x7b\x7d,\"logRecords\":["
  | .metrics => ",\"scopeMetrics\":["
  | .traces => ",\"scopeSpans\":["

def header (signal : Signal) (resource : Resource) : String :=
  signal.start ++ resource.toJson.render ++ signal.middle

def footer : Signal → String
  | .logs => "]\x7d]\x7d]\x7d"
  | .metrics => "]\x7d]\x7d\n"
  | .traces => "]\x7d]\x7d\n"

def groupTexts (limits : AttributeLimits) (signal : Signal) (items : List signal.Item) : List GroupText :=
  (ScopeGroup.runs signal.scopeOf items).map fun group =>
    ⟨signal.opening group.scope, group.items.map (signal.itemText limits)⟩

def groupText (signal : Signal) (group : GroupText) : String :=
  group.opening ++ ",".intercalate group.items ++ signal.closing

def batchText (limits : AttributeLimits) (signal : Signal) (items : List signal.Item) : String :=
  ",".intercalate ((signal.groupTexts limits items).map signal.groupText)

theorem opening_congr {signal : Signal} {scope other : Scope} (same : scope.identity = other.identity) :
    signal.opening scope = signal.opening other := by
  obtain ⟨names, versions⟩ := Prod.mk.inj same
  have written : scope.toJson = other.toJson := by rw [Scope.toJson, names, versions, Scope.toJson]
  cases signal with
  | logs => rfl
  | metrics | traces => simp only [opening, written]

section Text

variable (signal : Signal) (resource : Resource) (limits : AttributeLimits) (items : List signal.Item)

theorem gaps_itemJson (item : signal.Item) :
    (signal.itemJson limits item).gaps = Value.gapsOf (signal.values item) := by
  cases signal with
  | logs => exact LogRecord.gaps_toJson _ item
  | metrics => exact Metric.gaps_toJson item
  | traces => exact Span.gaps_toJson _ item

variable {signal resource limits items}

theorem filled_of_encodable (encodable : (signal.document resource limits items).failure? = none) :
    resource.toJson.Every Json.Filled ∧ ∀ item ∈ items, (signal.itemJson limits item).Every Json.Filled := by
  have gapless : (signal.document resource limits items).body.gaps = [] :=
    Json.gaps_eq_nil.mpr ((Document.failure?_eq_none _).mp encodable)
  rw [gaps_document, documentValues, Value.gapsOf_append, List.append_eq_nil_iff, Value.gapsOf_flatMap,
    List.flatMap_eq_nil_iff] at gapless
  obtain ⟨first, rest⟩ := gapless
  refine ⟨Json.gaps_eq_nil.mp (resource.gaps_toJson.trans first), ?_⟩
  intro item member
  exact Json.gaps_eq_nil.mp ((signal.gaps_itemJson limits item).trans (rest item member))

end Text

end Signal

section Layout

variable {name label : String} {resource : Json} {parts items : List Json}

private theorem filled_pair (name label : String) {value next : Json} (filled : value.Every Json.Filled)
    (also : next.Every Json.Filled) :
    (Json.object [(name, value), (label, next)]).Every Json.Filled :=
  .intro trivial (Json.forall_parts_object.mpr
    (List.forall_mem_cons.mpr ⟨filled, List.forall_mem_singleton.mpr also⟩))

private theorem filled_array (each : ∀ item ∈ items, item.Every Json.Filled) :
    (Json.array items).Every Json.Filled :=
  .intro trivial each

private theorem render_group {middle : String} (labelled : "," ++ Json.quotedText label ++ ":[" = middle)
    (scope : Scope) (each : ∀ item ∈ items, item.Every Json.Filled) :
    (Json.object [("scope", scope.toJson), (label, .array items)]).render =
      "\x7b\"scope\":" ++ scope.toJson.render ++ middle ++ ",".intercalate (items.map Json.render) ++ "]\x7d" := by
  have filled := Json.gaps_eq_nil.mp scope.gaps_toJson
  have scopeText : Json.quotedText "scope" = "\"scope\"" := by decide
  rw [Json.render_pair _ _ filled (filled_array each), Json.render_array each, scopeText, ← labelled]
  simp only [String.append_assoc]
  rfl

private theorem render_root {start middle : String}
    (named : "\x7b" ++ Json.quotedText name ++ ":[\x7b\"resource\":" = start)
    (labelled : "," ++ Json.quotedText label ++ ":[" = middle) (filled : resource.Every Json.Filled)
    (each : ∀ part ∈ parts, part.Every Json.Filled) :
    (Json.object [(name, .array [.object [("resource", resource), (label, .array parts)]])]).render =
      start ++ resource.render ++ middle ++ ",".intercalate (parts.map Json.render) ++ "]\x7d]\x7d" := by
  have root := filled_pair "resource" label filled (filled_array each)
  have list := List.forall_mem_singleton.mpr root
  have resourceText : Json.quotedText "resource" = "\"resource\"" := by decide
  rw [Json.render_single name (filled_array list), Json.render_array list, List.map_singleton,
    String.intercalate_singleton, Json.render_pair _ _ filled (filled_array each), Json.render_array each,
    resourceText, ← named, ← labelled]
  simp only [String.append_assoc]
  rfl

end Layout

namespace Signal

theorem batchText_logs (limits : AttributeLimits) (records : List LogRecord) :
    Signal.logs.batchText limits records = ",".intercalate (records.map (Signal.logs.itemText limits)) := by
  cases records with
  | nil => rfl
  | cons record records =>
    have one : ∀ item ∈ records, (Signal.logs.scopeOf item).identity = (Signal.logs.scopeOf record).identity :=
      fun _ _ => rfl
    rw [batchText, groupTexts, ScopeGroup.runs_of_agree _ one, List.map_singleton, List.map_singleton,
      String.intercalate_singleton, groupText, opening, closing, String.empty_append, String.append_empty]

def groupTrees (limits : AttributeLimits) (signal : Signal) (label : String) (items : List signal.Item) :
    List Json :=
  (ScopeGroup.runs signal.scopeOf items).map fun group =>
    .object [("scope", group.scope.toJson), (label, .array (group.items.map (signal.itemJson limits)))]

section Groups

variable {signal : Signal} {limits : AttributeLimits} {items : List signal.Item} {label : String}
  (each : ∀ item ∈ items, (signal.itemJson limits item).Every Json.Filled)

include each

private theorem filled_items {group : ScopeGroup signal.Item} (among : group ∈ ScopeGroup.runs signal.scopeOf items) :
    ∀ tree ∈ group.items.map (signal.itemJson limits), tree.Every Json.Filled :=
  List.forall_mem_map.mpr fun item inside => each item (ScopeGroup.mem_of_mem_runs _ among inside)

private theorem filled_groupTrees : ∀ tree ∈ signal.groupTrees limits label items, tree.Every Json.Filled := by
  rw [groupTrees]
  refine List.forall_mem_map.mpr ?_
  intro group among
  exact filled_pair "scope" label (Json.gaps_eq_nil.mp group.scope.gaps_toJson) (filled_array (filled_items each among))

private theorem render_groupTrees {middle : String} (labelled : "," ++ Json.quotedText label ++ ":[" = middle)
    (opens : ∀ scope : Scope, "\x7b\"scope\":" ++ scope.toJson.render ++ middle = signal.opening scope)
    (closes : "]\x7d" = signal.closing) :
    (signal.groupTrees limits label items).map Json.render = (signal.groupTexts limits items).map signal.groupText := by
  rw [groupTrees, groupTexts, List.map_map, List.map_map]
  apply List.map_congr_left
  intro group among
  rw [Function.comp, render_group labelled group.scope (filled_items each among), opens, closes, Function.comp,
    groupText, List.map_map]
  rfl

variable (label) in
/-- The text of a document whose scopes have groups of their own. -/
private theorem text_of_groups {resource : Resource} {name groups opened : String}
    (filled : resource.toJson.Every Json.Filled)
    (body : (signal.document resource limits items).body = .object [(name, .array [.object
      [("resource", resource.toJson), (groups, .array (signal.groupTrees limits label items))]])])
    (named : "\x7b" ++ Json.quotedText name ++ ":[\x7b\"resource\":" = signal.start)
    (grouped : "," ++ Json.quotedText groups ++ ":[" = signal.middle)
    (labelled : "," ++ Json.quotedText label ++ ":[" = opened)
    (opens : ∀ scope : Scope, "\x7b\"scope\":" ++ scope.toJson.render ++ opened = signal.opening scope)
    (closes : "]\x7d" = signal.closing)
    (ends : "]\x7d]\x7d" ++ (signal.document resource limits items).terminator = signal.footer) :
    (signal.document resource limits items).body.render ++ (signal.document resource limits items).terminator =
      signal.header resource ++ signal.batchText limits items ++ signal.footer := by
  rw [body, render_root named grouped filled (filled_groupTrees each), render_groupTrees each labelled opens closes,
    header, ← ends, batchText]
  simp only [String.append_assoc]

end Groups

/-- All records have one group, which the header opens and the footer closes. -/
private theorem text_of_records {resource : Resource} {limits : AttributeLimits} {records : List LogRecord}
    (filled : resource.toJson.Every Json.Filled)
    (each : ∀ record ∈ records, (Signal.logs.itemJson limits record).Every Json.Filled) :
    (Signal.logs.document resource limits records).body.render =
      Signal.logs.header resource ++ Signal.logs.batchText limits records ++ Signal.logs.footer := by
  have body : (Signal.logs.document resource limits records).body = .object [("resourceLogs",
      .array [.object [("resource", resource.toJson), ("scopeLogs", .array [.object
        [("scope", .object []), ("logRecords", .array (records.map (Signal.logs.itemJson limits)))]])]])] := rfl
  have named : "\x7b" ++ Json.quotedText "resourceLogs" ++ ":[\x7b\"resource\":" = Signal.logs.start := by decide
  have grouped : "," ++ Json.quotedText "scopeLogs" ++ ":[" = ",\"scopeLogs\":[" := by decide
  have opened : "\x7b" ++ Json.quotedText "scope" ++ ":" ++ (Json.object []).render ++ "," ++
      Json.quotedText "logRecords" ++ ":" ++ "[" = "\x7b\"scope\":\x7b\x7d,\"logRecords\":[" := by decide
  have middle : Signal.logs.middle = ",\"scopeLogs\":[" ++ "\x7b\"scope\":\x7b\x7d,\"logRecords\":[" := by decide
  have footer : Signal.logs.footer = "]" ++ "\x7d" ++ "]\x7d]\x7d" := by decide
  have trees := List.forall_mem_map.mpr each
  have scope : (Json.object []).Every Json.Filled := .leaf rfl trivial
  have part := filled_pair "scope" "logRecords" scope (filled_array trees)
  have texts : (records.map (Signal.logs.itemJson limits)).map Json.render =
      records.map (Signal.logs.itemText limits) := List.map_map
  rw [body, render_root named grouped filled (List.forall_mem_singleton.mpr part), List.map_singleton,
    String.intercalate_singleton, Json.render_pair _ _ scope (filled_array trees), Json.render_array trees, texts,
    batchText_logs, header, middle, footer, ← opened]
  simp only [String.append_assoc]

variable {signal : Signal} {resource : Resource} {limits : AttributeLimits} {items : List signal.Item}

/-- The text of a document is the header, the groups with commas between them, and the footer. -/
theorem text_document (encodable : (signal.document resource limits items).failure? = none) :
    (signal.document resource limits items).text =
      signal.header resource ++ signal.batchText limits items ++ signal.footer := by
  obtain ⟨filled, each⟩ := filled_of_encodable encodable
  rw [Document.text_eq encodable]
  cases signal with
  | logs =>
    have terminator : (Signal.logs.document resource limits items).terminator = "" := rfl
    rw [text_of_records filled each, terminator, String.append_empty]
  | metrics =>
    exact text_of_groups "metrics" each filled rfl (by decide) (by decide) (by decide) (fun _ => rfl) rfl rfl
  | traces =>
    exact text_of_groups "spans" each filled rfl (by decide) (by decide) (by decide) (fun _ => rfl) rfl rfl

section Seam

variable (limits) {batch more : List signal.Item} {last next : signal.Item} (ends : batch.getLast? = some last)
  (begins : more.head? = some next)

include ends begins

theorem groupTexts_append_of_ne (apart : (signal.scopeOf last).identity ≠ (signal.scopeOf next).identity) :
    signal.groupTexts limits (batch ++ more) = signal.groupTexts limits batch ++ signal.groupTexts limits more := by
  rw [groupTexts, ScopeGroup.runs_append_of_ne _ ends begins apart, List.map_append, groupTexts, groupTexts]

/-- Scopes of one identity are opened alike, so the joined group can have the opening of either. -/
theorem groupTexts_append_of_eq (same : (signal.scopeOf last).identity = (signal.scopeOf next).identity) :
    ∃ before group other after, signal.groupTexts limits batch = before ++ [group] ∧
      signal.groupTexts limits more = other :: after ∧ group.opening = other.opening ∧ group.items ≠ [] ∧
      signal.groupTexts limits (batch ++ more) = before ++ ⟨group.opening, group.items ++ other.items⟩ :: after := by
  obtain ⟨before, group, other, after, left, right, agree, joined⟩ :=
    ScopeGroup.runs_append_of_eq _ ends begins same
  have formed := (ScopeGroup.separated_runs signal.scopeOf batch).formed group (by rw [left]; simp)
  refine ⟨_, _, _, _, by rw [groupTexts, left, List.map_append, List.map_singleton],
    by rw [groupTexts, right, List.map_cons], opening_congr agree, ?_, ?_⟩
  · exact mt List.map_eq_nil_iff.mp (ScopeGroup.Formed.ne_nil _ formed)
  · rw [groupTexts, joined, List.map_append, List.map_cons, List.map_append]

end Seam

structure Pass (signal : Signal) where
  text : String
  previous : Option signal.Item

/-- What stands before an item: a comma after an item of the same scope, and otherwise the end of one group
and the opening of the next. -/
def seam (signal : Signal) (item : signal.Item) : Option signal.Item → String
  | none => signal.opening (signal.scopeOf item)
  | some previous =>
    if (signal.scopeOf previous).name = (signal.scopeOf item).name ∧
        (signal.scopeOf previous).version = (signal.scopeOf item).version then ","
    else signal.closing ++ "," ++ signal.opening (signal.scopeOf item)

def Pass.add (limits : AttributeLimits) (pass : Pass signal) (item : signal.Item) : Pass signal :=
  ⟨pass.text ++ signal.seam item pass.previous ++ signal.itemText limits item, some item⟩

def Pass.finish (pass : Pass signal) : String :=
  if pass.previous.isSome then pass.text ++ signal.closing else pass.text

def onePass (limits : AttributeLimits) (signal : Signal) (items : List signal.Item) : String :=
  (items.foldl (Pass.add limits) ⟨"", none⟩).finish

/-- What is added to the last of some texts is added to all of them together. -/
private theorem intercalate_concat (texts : List String) (text more : String) :
    ",".intercalate (texts ++ [text ++ more]) = ",".intercalate (texts ++ [text]) ++ more := by
  cases texts with
  | nil => simp
  | cons first texts =>
    rw [String.intercalate_append_of_ne_nil (List.cons_ne_nil _ _) (List.cons_ne_nil _ _),
      String.intercalate_append_of_ne_nil (List.cons_ne_nil _ _) (List.cons_ne_nil _ _),
      String.intercalate_singleton, String.intercalate_singleton]
    simp only [String.append_assoc]

theorem groupTexts_singleton (limits : AttributeLimits) (item : signal.Item) : signal.groupTexts limits [item] =
    [⟨signal.opening (signal.scopeOf item), [signal.itemText limits item]⟩] := rfl

theorem flatMap_items_groupTexts (limits : AttributeLimits) (signal : Signal) (items : List signal.Item) :
    (signal.groupTexts limits items).flatMap (·.items) = items.map (signal.itemText limits) := by
  rw [groupTexts, List.flatMap_map, ← List.map_flatMap, ScopeGroup.flatMap_items_runs]

theorem groupTexts_ne_nil (limits : AttributeLimits) {batch : List signal.Item} (something : batch ≠ []) :
    signal.groupTexts limits batch ≠ [] := by
  intro empty
  have items := flatMap_items_groupTexts limits signal batch
  rw [empty, List.flatMap_nil] at items
  exact something (List.map_eq_nil_iff.mp items.symm)

/-- A pass that is as far as a batch lacks nothing but the end of the last group. -/
structure Pass.At (limits : AttributeLimits) (batch : List signal.Item) (pass : Pass signal) : Prop where
  previous : pass.previous = batch.getLast?
  text : pass.text ++ signal.closing = signal.batchText limits batch

theorem Pass.At.first (limits : AttributeLimits) (item : signal.Item) :
    At limits [item] (add limits ⟨"", none⟩ item) := by
  refine ⟨rfl, ?_⟩
  rw [batchText, groupTexts_singleton, List.map_singleton, String.intercalate_singleton, groupText,
    String.intercalate_singleton, add, seam, String.empty_append]

theorem Pass.At.next {limits : AttributeLimits} {batch : List signal.Item} {last : signal.Item}
    (ends : batch.getLast? = some last) {pass : Pass signal} (here : pass.At limits batch) (item : signal.Item) :
    (pass.add limits item).At limits (batch ++ [item]) := by
  have begins : [item].head? = some item := rfl
  refine ⟨by rw [add, List.getLast?_concat], ?_⟩
  have text := here.text
  rw [add, here.previous, ends]
  by_cases same : (signal.scopeOf last).identity = (signal.scopeOf item).identity
  · obtain ⟨before, group, other, after, left, right, _, filled, joined⟩ :=
      groupTexts_append_of_eq limits ends begins same
    obtain ⟨rfl, rfl⟩ := List.cons.inj ((groupTexts_singleton limits item).symm.trans right)
    -- What the pass has written ends inside the last group.
    have inside : pass.text = ",".intercalate (before.map signal.groupText ++
        [group.opening ++ ",".intercalate group.items]) := by
      rw [batchText, left, List.map_append, List.map_singleton, groupText, intercalate_concat] at text
      exact (String.append_left_inj _).mp text
    rw [seam, if_pos (Scope.identity_eq_iff.mp same), batchText, joined, List.map_append, List.map_singleton, groupText,
      String.intercalate_append_of_ne_nil filled (List.cons_ne_nil _ _), String.intercalate_singleton, inside]
    have regroup : group.opening ++ (",".intercalate group.items ++ "," ++ signal.itemText limits item) ++
        signal.closing =
          group.opening ++ ",".intercalate group.items ++ ("," ++ signal.itemText limits item ++ signal.closing) := by
      simp only [String.append_assoc]
    rw [regroup, intercalate_concat _ (group.opening ++ ",".intercalate group.items)]
    simp only [String.append_assoc]
  · have something : batch ≠ [] := by
      rintro rfl
      contradiction
    have groups : (signal.groupTexts limits batch).map signal.groupText ≠ [] :=
      mt List.map_eq_nil_iff.mp (groupTexts_ne_nil limits something)
    rw [seam, if_neg (Scope.identity_eq_iff.not.mp same), batchText, groupTexts_append_of_ne limits ends begins same,
      groupTexts_singleton, List.map_append, List.map_singleton,
      String.intercalate_append_of_ne_nil groups (List.cons_ne_nil _ _), String.intercalate_singleton, groupText,
      String.intercalate_singleton]
    rw [← batchText, ← text]
    simp only [String.append_assoc]

theorem onePass_eq (limits : AttributeLimits) (signal : Signal) (items : List signal.Item) :
    signal.onePass limits items = signal.batchText limits items := by
  have at_end : items ≠ [] → (items.foldl (Pass.add limits) ⟨"", none⟩).At limits items := by
    induction items using List.reverseRecOn with
    | nil => exact fun empty => absurd rfl empty
    | append_singleton items item ih =>
      intro _
      rw [List.foldl_concat]
      cases ends : items.getLast? with
      | none =>
        obtain rfl := List.getLast?_eq_none_iff.mp ends
        exact Pass.At.first limits item
      | some last =>
        refine Pass.At.next ends (ih ?_) item
        rintro rfl
        contradiction
  cases items with
  | nil => rfl
  | cons item items =>
    obtain ⟨previous, text⟩ := at_end (List.cons_ne_nil _ _)
    rw [onePass, Pass.finish, previous, List.getLast?_cons, Option.isSome_some, if_pos rfl, text]

theorem encodable_append {batch more : List signal.Item}
    (encodable : (signal.document resource limits batch).failure? = none)
    (also : (signal.document resource limits more).failure? = none) :
    (signal.document resource limits (batch ++ more)).failure? = none := by
  rw [failure?_document, Option.map_eq_none_iff, List.head?_eq_none_iff, documentValues] at encodable also ⊢
  rw [Value.unsupportedIn_append, List.append_eq_nil_iff] at encodable also
  rw [List.flatMap_append, Value.unsupportedIn_append, Value.unsupportedIn_append, encodable.1, encodable.2, also.2]
  rfl

end Signal

/-- The document of two batches in a row has the header and the footer of both documents, and between them
the groups of the one and then those of the other; groups of one scope that meet become one. An item is
written by itself, and one pass over the items writes the same as the groups that a cursor hands out. -/
theorem batches_join_at_the_seam {signal : Signal} {resource : Resource} {limits : AttributeLimits}
    {batch more : List signal.Item} {last next : signal.Item} (ends : batch.getLast? = some last)
    (begins : more.head? = some next) (encodable : (signal.document resource limits batch).failure? = none)
    (also : (signal.document resource limits more).failure? = none) :
    (signal.document resource limits (batch ++ more)).failure? = none ∧
      (∀ items : List signal.Item, (signal.document resource limits items).failure? = none →
        (signal.document resource limits items).text =
            signal.header resource ++ signal.batchText limits items ++ signal.footer ∧
          (signal.document resource limits items).text =
            signal.header resource ++ signal.onePass limits items ++ signal.footer) ∧
      (∀ (items : List signal.Item) (count : Nat), (GroupCursor.start items).calls signal.scopeOf count =
        ((ScopeGroup.runs signal.scopeOf items).map some).takeD count none) ∧
      (∀ items : List signal.Item,
        (signal.groupTexts limits items).flatMap (·.items) = items.map (signal.itemText limits)) ∧
      (∀ records : List LogRecord,
        Signal.logs.batchText limits records = ",".intercalate (records.map (Signal.logs.itemText limits))) ∧
      ((signal.scopeOf last).name ≠ (signal.scopeOf next).name ∨
          (signal.scopeOf last).version ≠ (signal.scopeOf next).version →
        signal.groupTexts limits (batch ++ more) = signal.groupTexts limits batch ++ signal.groupTexts limits more) ∧
      ((signal.scopeOf last).name = (signal.scopeOf next).name →
        (signal.scopeOf last).version = (signal.scopeOf next).version →
        ∃ before group other after, signal.groupTexts limits batch = before ++ [group] ∧
          signal.groupTexts limits more = other :: after ∧ group.opening = other.opening ∧
          signal.groupTexts limits (batch ++ more) =
            before ++ ⟨group.opening, group.items ++ other.items⟩ :: after) := by
  refine ⟨Signal.encodable_append encodable also, ?texts, GroupCursor.calls_start signal.scopeOf,
    signal.flatMap_items_groupTexts limits, Signal.batchText_logs limits, ?apart, ?joined⟩
  case texts =>
    intro items whole
    have text := Signal.text_document whole
    exact ⟨text, by rw [Signal.onePass_eq, text]⟩
  case apart =>
    intro apart
    apply Signal.groupTexts_append_of_ne limits ends begins
    rwa [ne_eq, Scope.identity_eq_iff, not_and_or]
  case joined =>
    intro name version
    obtain ⟨before, group, other, after, left, right, opening, _, joined⟩ :=
      Signal.groupTexts_append_of_eq limits ends begins (Scope.identity_eq_iff.mpr ⟨name, version⟩)
    exact ⟨before, group, other, after, left, right, opening, joined⟩

def Span.versioned (name : String) (version : Option String) : Span :=
  ⟨⟨1⟩, ⟨2⟩, .invalid, name, .internal, .epoch, .zero, .unset, [], [], [], ⟨"store", version, none, []⟩⟩

/-- Spans of two versions that are written alike. The two spans where the batches meet come into one group. -/
theorem batches_join_at_the_seam_versions :
    (Signal.traces.document .empty .unlimited [.versioned "a" none, .versioned "b" (some "")]).failure? = none ∧
      (Signal.traces.document .empty .unlimited [.versioned "c" (some ""), .versioned "d" none]).failure? = none ∧
      (Signal.traces.document .empty .unlimited ([.versioned "a" none, .versioned "b" (some "")] ++
          [.versioned "c" (some ""), .versioned "d" none])).text =
        Signal.traces.header .empty ++ Signal.traces.onePass .unlimited ([.versioned "a" none,
          .versioned "b" (some "")] ++ [.versioned "c" (some ""), .versioned "d" none]) ++ Signal.traces.footer ∧
      ∃ before group other after,
        Signal.traces.groupTexts .unlimited [.versioned "a" none, .versioned "b" (some "")] = before ++ [group] ∧
        Signal.traces.groupTexts .unlimited [.versioned "c" (some ""), .versioned "d" none] = other :: after ∧
        group.opening = other.opening ∧
        Signal.traces.groupTexts .unlimited ([.versioned "a" none, .versioned "b" (some "")] ++
            [.versioned "c" (some ""), .versioned "d" none]) =
          before ++ ⟨group.opening, group.items ++ other.items⟩ :: after := by
  have first : (Signal.traces.document .empty .unlimited
      [.versioned "a" none, .versioned "b" (some "")]).failure? = none := by decide
  have second : (Signal.traces.document .empty .unlimited
      [.versioned "c" (some ""), .versioned "d" none]).failure? = none := by decide
  obtain ⟨both, texts, _, _, _, _, joined⟩ := @batches_join_at_the_seam .traces .empty .unlimited
    [.versioned "a" none, .versioned "b" (some "")] [.versioned "c" (some ""), .versioned "d" none] _ _ rfl rfl
    first second
  exact ⟨first, second, (texts _ both).2, joined rfl rfl⟩

end Telemetry
