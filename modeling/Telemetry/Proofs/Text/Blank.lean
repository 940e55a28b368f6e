import Telemetry.Text.Blank

/-! White space by its code points. The ranges of the table hold the code points with the property White_Space
and no other, and a text is blank when all of its characters have one of them. -/
namespace Telemetry.Text

def WhiteSpace (c : Char) : Prop :=
  c.toNat ∈ [0x09, 0x0a, 0x0b, 0x0c, 0x0d, 0x20, 0x85, 0xa0, 0x1680, 0x2000, 0x2001, 0x2002, 0x2003, 0x2004, 0x2005,
    0x2006, 0x2007, 0x2008, 0x2009, 0x200a, 0x2028, 0x2029, 0x202f, 0x205f, 0x3000]

instance : DecidablePred WhiteSpace := fun c =>
  inferInstanceAs (Decidable (c.toNat ∈ _))

theorem isBlank_iff (c : Char) : isBlank c = true ↔ WhiteSpace c := by
  simp only [isBlank, blankRanges, WhiteSpace, List.any_cons, List.any_nil, Bool.or_eq_true, Bool.and_eq_true,
    decide_eq_true_eq, Bool.false_eq_true, or_false, List.mem_cons, List.not_mem_nil]
  omega

theorem allBlank_eq (s : String) : allBlank s = s.toList.all (WhiteSpace ·) := by
  have same : isBlank = (WhiteSpace ·) := by
    funext c
    rw [Bool.eq_iff_iff, isBlank_iff, decide_eq_true_iff]
  rw [allBlank, same]

end Telemetry.Text
