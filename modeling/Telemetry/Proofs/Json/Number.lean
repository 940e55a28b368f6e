import Telemetry.Json.Reader
import Telemetry.Proofs.Decimal.Digits

/-! The grammar of number tokens, and that the reader takes a whole token and stops behind it. The
literals of integers are tokens. -/
namespace Telemetry.Json

open Decimal

inductive WholePart : List Char → Prop
  | zero : WholePart ['0']
  | digits {cs : List Char} (nonempty : cs ≠ []) (all : allDigits cs) (leading : cs.head? ≠ some '0') :
      WholePart cs

inductive FractionPart : List Char → Prop
  | absent : FractionPart []
  | present {cs : List Char} (nonempty : cs ≠ []) (all : allDigits cs) : FractionPart ('.' :: cs)

inductive ExponentPart : List Char → Prop
  | absent : ExponentPart []
  | present {mark : Char} {sign cs : List Char} (marked : mark = 'e' ∨ mark = 'E')
      (signed : sign = [] ∨ sign = ['+'] ∨ sign = ['-']) (nonempty : cs ≠ []) (all : allDigits cs) :
      ExponentPart (mark :: (sign ++ cs))

inductive NumberToken : List Char → Prop
  | parts {sign whole fraction exponent : List Char} (signed : sign = [] ∨ sign = ['-'])
      (whole_part : WholePart whole) (fraction_part : FractionPart fraction)
      (exponent_part : ExponentPart exponent) : NumberToken (sign ++ (whole ++ (fraction ++ exponent)))

def Delimited (rest : List Char) : Prop :=
  ∀ c ∈ rest.head?, c = ',' ∨ c = ']' ∨ c = '\x7d'

theorem WholePart.allDigits {cs : List Char} (part : WholePart cs) : allDigits cs := by
  cases part with
  | zero => intro c member; rw [List.mem_singleton.mp member]; decide
  | digits _ all _ => exact all

theorem WholePart.ne_nil {cs : List Char} (part : WholePart cs) : cs ≠ [] := by
  cases part with
  | zero => exact List.cons_ne_nil _ _
  | digits nonempty _ _ => exact nonempty

theorem Delimited.endsDigits {rest : List Char} (stop : Delimited rest) : EndsDigits rest := by
  intro c member
  rcases stop c member with rfl | rfl | rfl <;> decide

theorem delimited_nil : Delimited [] :=
  fun _ member => by simp at member

theorem delimited_cons {c : Char} {rest : List Char} (closing : c = ',' ∨ c = ']' ∨ c = '\x7d') :
    Delimited (c :: rest) := by
  intro d member
  obtain rfl : c = d := by simpa using member
  exact closing

namespace Reader

theorem digits?_append {cs rest : List Char} (nonempty : cs ≠ []) (all : allDigits cs)
    (stop : EndsDigits rest) : digits? (cs ++ rest) = some (cs, rest) := by
  rw [digits?, takeWhile_digits all stop, dropWhile_digits all stop]
  cases cs with
  | nil => contradiction
  | cons c cs => rfl

theorem whole?_append {cs rest : List Char} (part : WholePart cs) (stop : EndsDigits rest) :
    whole? (cs ++ rest) = some (cs, rest) := by
  cases part with
  | zero => rfl
  | digits nonempty all leading =>
    have read := digits?_append nonempty all stop
    unfold whole?
    split
    · rename_i tail same
      cases cs with
      | nil => contradiction
      | cons c cs =>
        injection same with first
        exact absurd (by rw [first]; rfl) leading
    · exact read

theorem fraction?_append {cs rest : List Char} (part : FractionPart cs) (stop : EndsDigits rest)
    (noPoint : ∀ c ∈ rest.head?, c ≠ '.') : fraction? (cs ++ rest) = some (cs, rest) := by
  cases part with
  | absent =>
    unfold fraction?
    split
    · rename_i tail same
      rw [List.nil_append] at same
      exact absurd rfl (noPoint '.' (by rw [same]; rfl))
    · rfl
  | present nonempty all =>
    rw [List.cons_append, fraction?, digits?_append nonempty all stop]
    rfl

theorem exponentDigits?_append (mark : List Char) {cs rest : List Char} (nonempty : cs ≠ [])
    (all : allDigits cs) (stop : EndsDigits rest) :
    exponentDigits? mark (cs ++ rest) = some (mark ++ cs, rest) := by
  rw [exponentDigits?, digits?_append nonempty all stop]
  rfl

theorem exponent?_append {cs rest : List Char} (part : ExponentPart cs) (stop : Delimited rest) :
    exponent? (cs ++ rest) = some (cs, rest) := by
  cases part with
  | absent =>
    cases rest with
    | nil => rfl
    | cons c rest =>
      have plain : ¬ (c = 'e' ∨ c = 'E') := by
        rcases stop c rfl with rfl | rfl | rfl <;> decide
      simp [exponent?, plain]
  | @present mark sign digits marked signed nonempty all =>
    rw [List.cons_append, List.append_assoc]
    unfold exponent?
    simp only [marked, Bool.or_eq_true, decide_eq_true_eq, if_true]
    have read := fun before => exponentDigits?_append before nonempty all stop.endsDigits
    rcases signed with rfl | rfl | rfl
    · rw [List.nil_append]
      cases digits with
      | nil => contradiction
      | cons d digits =>
        have digit := all d List.mem_cons_self
        split
        · rename_i same
          injection same with first
          rw [first] at digit
          exact absurd digit (by decide)
        · rename_i same
          injection same with first
          rw [first] at digit
          exact absurd digit (by decide)
        · exact read [mark]
    · exact read [mark, '+']
    · exact read [mark, '-']

private theorem exponent_stops {cs rest : List Char} (part : ExponentPart cs) (stop : Delimited rest) :
    ∀ c ∈ (cs ++ rest).head?, c.isDigit = false ∧ c ≠ '.' := by
  intro c member
  cases part with
  | absent => rcases stop c member with rfl | rfl | rfl <;> decide
  | present marked _ _ _ =>
    obtain rfl := Option.some.inj member
    rcases marked with rfl | rfl <;> decide

private theorem fraction_stops {cs rest : List Char} (part : FractionPart cs) (stop : EndsDigits rest) :
    EndsDigits (cs ++ rest) := by
  cases part with
  | absent => exact stop
  | present _ _ =>
    intro c member
    obtain rfl := Option.some.inj member
    decide

/-- A token is read whole, whatever delimits it. -/
theorem number?_append {cs rest : List Char} (token : NumberToken cs) (stop : Delimited rest) :
    number? (cs ++ rest) = some (String.ofList cs, rest) := by
  obtain @⟨sign, whole, fraction, exponent, signed, wholePart, fractionPart, exponentPart⟩ := token
  have ends := exponent_stops exponentPart stop
  have readExponent := exponent?_append exponentPart stop
  have readFraction := fraction?_append fractionPart (fun c member => (ends c member).1)
    (fun c member => (ends c member).2)
  have readWhole := whole?_append wholePart
    (fraction_stops fractionPart fun c member => (ends c member).1)
  have tail : number? (whole ++ (fraction ++ (exponent ++ rest))) =
      some (String.ofList (whole ++ fraction ++ exponent), rest) := by
    unfold number?
    split
    rename_i sign' cs' split'
    have plain : (sign', cs') = ([], whole ++ (fraction ++ (exponent ++ rest))) := by
      rw [← split']
      split
      · rename_i others same
        cases whole with
        | nil => exact absurd rfl wholePart.ne_nil
        | cons c whole =>
          injection same with first
          have digit := wholePart.allDigits c List.mem_cons_self
          rw [first] at digit
          exact absurd digit (by decide)
      · rfl
    obtain ⟨rfl, rfl⟩ := Prod.mk.inj plain
    simp [readWhole, readFraction, readExponent]
  simp only [List.append_assoc]
  rcases signed with rfl | rfl
  · simpa using tail
  · simp [number?, readWhole, readFraction, readExponent]

end Reader

theorem wholePart_toDigits (n : Nat) : WholePart (Nat.toDigits 10 n) := by
  rcases Nat.eq_zero_or_pos n with rfl | positive
  · rw [Nat.toDigits_zero]
    exact .zero
  · exact .digits Nat.toDigits_ne_nil (allDigits_toDigits n) (head_toDigits positive)

theorem NumberToken.ofWhole {sign whole : List Char} (signed : sign = [] ∨ sign = ['-'])
    (part : WholePart whole) : NumberToken (sign ++ whole) := by
  simpa using NumberToken.parts signed part .absent .absent

theorem numberToken_natural (n : Nat) : NumberToken (Decimal.natural n).toList := by
  rw [toList_natural]
  exact .ofWhole (.inl rfl) (wholePart_toDigits n)

theorem numberToken_integer (i : Int) : NumberToken (Decimal.integer i).toList := by
  unfold Decimal.integer
  split
  · rw [String.toList_append, toList_natural]
    exact .ofWhole (.inr rfl) (wholePart_toDigits _)
  · exact numberToken_natural _

theorem NumberToken.head {cs : List Char} (token : NumberToken cs) :
    ∃ c tail, cs = c :: tail ∧ (c = '-' ∨ c.isDigit = true) := by
  obtain @⟨sign, whole, fraction, exponent, signed, part, _, _⟩ := token
  rcases signed with rfl | rfl
  · cases whole with
    | nil => exact absurd rfl part.ne_nil
    | cons c whole => exact ⟨c, _, rfl, .inr (part.allDigits c List.mem_cons_self)⟩
  · exact ⟨'-', _, rfl, .inl rfl⟩

end Telemetry.Json
