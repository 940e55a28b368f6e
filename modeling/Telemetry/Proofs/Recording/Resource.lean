import Telemetry.Proofs.Text.Order
import Telemetry.Proofs.Value.Standard
import Telemetry.Recording.Resource

/-! The resource of a program, converted. In whatever order its entries are listed, conversion gives one
list: each entry once, with its value converted, and the keys rising strictly in the order of their
bytes. -/
namespace Telemetry

namespace StandardAttributes

variable {attributes others : StandardAttributes}

theorem perm_byKey (attributes : StandardAttributes) : attributes.byKey.Perm attributes :=
  List.mergeSort_perm attributes _

theorem pairwise_byKey (distinct : (attributes.map (·.1)).Nodup) :
    attributes.byKey.Pairwise fun entry next => entry.1 < next.1 := by
  have sorted : attributes.byKey.Pairwise fun entry next => decide (entry.1 ≤ next.1) := by
    apply List.pairwise_mergeSort
    · intro a b c first second
      exact decide_eq_true ((of_decide_eq_true first).trans (of_decide_eq_true second))
    · intro a b
      simpa using le_total a.1 b.1
  have apart : attributes.byKey.Pairwise fun entry next => entry.1 ≠ next.1 :=
    List.pairwise_map.mp (((perm_byKey attributes).map _).nodup_iff.mpr distinct)
  apply sorted.imp₂ _ apart
  intro entry next below other
  exact lt_of_le_of_ne (of_decide_eq_true below) other

theorem byKey_eq_of_perm (distinct : (attributes.map (·.1)).Nodup) (same : attributes.Perm others) :
    attributes.byKey = others.byKey := by
  have also : (others.map (·.1)).Nodup := (same.map _).nodup_iff.mp distinct
  have sorted := (perm_byKey attributes).trans (same.trans (perm_byKey others).symm)
  apply List.Perm.eq_of_pairwise _ (pairwise_byKey distinct) (pairwise_byKey also) sorted
  intro entry next _ _ below above
  exact absurd above (lt_asymm below)

end StandardAttributes

namespace RecordedResource

variable (resource : RecordedResource)

/-- The attributes are what the entries become, in one of their orders. -/
theorem exists_perm_become : ∃ entries : StandardAttributes,
    entries.Perm resource.entries ∧ entries.Become resource.toResource.attributes :=
  ⟨_, StandardAttributes.perm_byKey resource.entries, StandardAttributes.become_ofStandard _⟩

theorem pairwise_toResource :
    resource.toResource.attributes.Pairwise fun entry next => Text.utf8 entry.key < Text.utf8 next.key := by
  apply List.pairwise_map.mpr
  apply (StandardAttributes.pairwise_byKey resource.nodup).imp
  intro entry next below
  exact Text.utf8_lt_iff.mpr below

theorem toResource_eq_of_perm {first second : RecordedResource} (same : first.entries.Perm second.entries) :
    first.toResource = second.toResource := by
  rw [toResource, StandardAttributes.byKey_eq_of_perm first.nodup same, toResource]

end RecordedResource

end Telemetry
