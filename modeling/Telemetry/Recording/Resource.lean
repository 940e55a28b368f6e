import Telemetry.Attribute

/-! The resource of an instrumented program: a finite map from keys to values without an order of its
own. The order in which its entries are listed carries no meaning, and conversion sorts them. -/
namespace Telemetry

structure RecordedResource where
  entries : StandardAttributes
  nodup : (entries.map (·.1)).Nodup

namespace RecordedResource

def empty : RecordedResource :=
  ⟨[], List.nodup_nil⟩

def insert (resource : RecordedResource) (key : String) (value : StandardValue) : RecordedResource :=
  ⟨(key, value) :: resource.entries.filter (·.1 ≠ key), by
    rw [List.map_cons, List.nodup_cons]
    constructor
    · simp
    · exact resource.nodup.sublist (List.filter_sublist.map _)⟩

def ofList (entries : StandardAttributes) : RecordedResource :=
  entries.foldl (fun resource entry => resource.insert entry.1 entry.2) empty

def toResource (resource : RecordedResource) : Resource :=
  ⟨resource.entries.byKey.map Attribute.ofStandard⟩

end RecordedResource

end Telemetry
