import Telemetry.Decimal.Integer

/-! Decimal digits of natural numbers. Different numbers have different digits, and the digits of a
positive number do not begin with a zero. Runs of digits can be told apart from what follows them. -/
namespace Telemetry.Decimal

def allDigits (cs : List Char) : Prop :=
  ∀ c ∈ cs, c.isDigit = true

def EndsDigits (rest : List Char) : Prop :=
  ∀ c ∈ rest.head?, c.isDigit = false

theorem allDigits_toDigits (n : Nat) : allDigits (Nat.toDigits 10 n) :=
  fun _ member => Nat.isDigit_of_mem_toDigits (by decide) (by decide) member

theorem allDigits_append {first second : List Char} (left : allDigits first) (right : allDigits second) :
    allDigits (first ++ second) := by
  intro c member
  rcases List.mem_append.mp member with inside | inside
  · exact left c inside
  · exact right c inside

theorem allDigits_zeros (count : Nat) : allDigits (List.replicate count '0') := by
  intro c member
  rw [List.eq_of_mem_replicate member]
  decide

theorem takeWhile_digits {digits rest : List Char} (all : allDigits digits) (stop : EndsDigits rest) :
    (digits ++ rest).takeWhile Char.isDigit = digits := by
  rw [List.takeWhile_append_of_pos all]
  cases rest with
  | nil => simp
  | cons c rest =>
    have other : c.isDigit = false := stop c rfl
    simp [other]

theorem dropWhile_digits {digits rest : List Char} (all : allDigits digits) (stop : EndsDigits rest) :
    (digits ++ rest).dropWhile Char.isDigit = rest := by
  rw [List.dropWhile_append_of_pos all]
  cases rest with
  | nil => rfl
  | cons c rest =>
    have other : c.isDigit = false := stop c rfl
    simp [other]

/-- A run of digits and what follows it can both be recovered from the whole. -/
theorem digits_append_inj {first second rest tail : List Char} (left : allDigits first)
    (right : allDigits second) (stop : EndsDigits rest) (halt : EndsDigits tail)
    (same : first ++ rest = second ++ tail) : first = second ∧ rest = tail := by
  have runs := congrArg (List.takeWhile Char.isDigit) same
  have ends := congrArg (List.dropWhile Char.isDigit) same
  rw [takeWhile_digits left stop, takeWhile_digits right halt] at runs
  rw [dropWhile_digits left stop, dropWhile_digits right halt] at ends
  exact ⟨runs, ends⟩

private theorem digitChar_ne_zero {d : Nat} (positive : 0 < d) (small : d < 10) : d.digitChar ≠ '0' := by
  intro same
  have code := congrArg Char.toNat same
  rw [Nat.toNat_digitChar_of_lt_ten small] at code
  have zero : ('0' : Char).toNat = 48 := rfl
  omega

theorem head_toDigits {n : Nat} (positive : 0 < n) : (Nat.toDigits 10 n).head? ≠ some '0' := by
  induction n using Nat.strongRecOn with
  | ind n ih =>
    rw [Nat.toDigits_eq_if (by decide)]
    split
    · rename_i small
      simpa using digitChar_ne_zero positive small
    · have smaller := ih (n / 10) (by omega) (by omega)
      rw [List.head?_append]
      cases leading : (Nat.toDigits 10 (n / 10)).head? with
      | none => exact absurd (List.head?_eq_none_iff.mp leading) Nat.toDigits_ne_nil
      | some c => rwa [leading] at smaller

theorem toDigits_injective {m n : Nat} (same : Nat.toDigits 10 m = Nat.toDigits 10 n) : m = n := by
  have values := congrArg (fun digits => Nat.ofDigitChars 10 digits 0) same
  simpa using values

theorem natural_injective {m n : Nat} (same : natural m = natural n) : m = n := by
  apply toDigits_injective
  rw [← toList_natural, ← toList_natural, same]

private theorem digits_ne_minus {n : Nat} {rest : List Char} : Nat.toDigits 10 n ≠ '-' :: rest := by
  intro same
  have digit := allDigits_toDigits n '-' (by simp [same])
  exact absurd digit (by decide)

theorem integer_injective {i j : Int} (same : integer i = integer j) : i = j := by
  have characters := congrArg String.toList same
  simp only [integer] at characters
  split at characters <;> split at characters
  · simp only [String.toList_append, toList_natural, List.append_cancel_left_eq] at characters
    have sizes := toDigits_injective characters
    omega
  · simp only [String.toList_append, toList_natural] at characters
    exact absurd characters.symm digits_ne_minus
  · simp only [String.toList_append, toList_natural] at characters
    exact absurd characters digits_ne_minus
  · simp only [toList_natural] at characters
    have sizes := toDigits_injective characters
    omega

end Telemetry.Decimal
