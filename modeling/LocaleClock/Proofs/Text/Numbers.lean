import Mathlib.Data.Nat.Digits.Defs
import Mathlib.Tactic.IntervalCases
import LocaleClock.Text.Blank
import LocaleClock.Text.Digits

/-! Numbers in decimal digits are read back, however many zeros stand before them. -/

namespace LocaleClock.Text

/-- The number that a text of decimal digits spells, one digit at least. -/
def number? (cs : List Char) : Option Nat :=
  if !cs.isEmpty && cs.all Char.isDigit then some (Nat.ofDigitChars 10 cs 0) else none

/-! ### Digits -/

theorem digit_eq_digitChar {d : Nat} (h : d < 10) : digit d = d.digitChar := by
  interval_cases d <;> rfl

theorem isDigit_digit {d : Nat} (h : d < 10) : (digit d).isDigit = true := by
  interval_cases d <;> rfl

theorem toNat_of_isDigit {c : Char} (h : c.isDigit = true) : 48 ≤ c.toNat ∧ c.toNat ≤ 57 := by
  simpa [Char.isDigit, UInt32.le_iff_toNat_le] using h

theorem isBlank_of_isDigit {c : Char} (h : c.isDigit = true) : isBlank c = false := by
  have hrange := toNat_of_isDigit h
  simp [isBlank]
  omega

theorem not_mem_of_isDigit {cs : List Char} (h : ∀ c ∈ cs, c.isDigit = true) {x : Char}
    (hx : x.isDigit = false) : x ∉ cs := by
  intro hmem
  rw [h x hmem] at hx
  cases hx

theorem isDigit_of_mem_zeroPadded (width n : Nat) :
    ∀ c ∈ zeroPadded width n, c.isDigit = true := by
  intro c h
  obtain hfill | hdigit := List.mem_append.1 h
  · rw [(List.mem_replicate.1 hfill).2]
    rfl
  · exact Nat.isDigit_of_mem_toDigits (by decide) (by decide) hdigit

theorem isDigit_of_mem_twoDigits {n : Nat} (hn : n < 100) :
    ∀ c ∈ twoDigits n, c.isDigit = true := by
  simp only [twoDigits, List.forall_mem_cons]
  exact ⟨isDigit_digit (by omega), isDigit_digit (by omega), List.forall_mem_nil _⟩

/-! ### Lengths of texts of numbers -/

theorem digits_ne_nil (n : Nat) : digits n ≠ [] := Nat.toDigits_ne_nil

theorem padLeft_ne_nil {cs : List Char} (h : cs ≠ []) (width : Nat) (fill : Char) :
    padLeft width fill cs ≠ [] := by
  simp [padLeft, h]

theorem zeroPadded_ne_nil (width n : Nat) : zeroPadded width n ≠ [] :=
  padLeft_ne_nil (digits_ne_nil n) width '0'

theorem number?_of_isDigit {cs : List Char} (hne : cs ≠ []) (h : ∀ c ∈ cs, c.isDigit = true) :
    number? cs = some (Nat.ofDigitChars 10 cs 0) := by
  have hdigits : cs.all Char.isDigit = true := List.all_eq_true.2 h
  simp [number?, hne, hdigits]

theorem isDigit_of_number? {cs : List Char} {n : Nat} (h : number? cs = some n) :
    ∀ c ∈ cs, c.isDigit = true := by
  obtain ⟨hdigits, -⟩ := Option.ite_none_right_eq_some.1 h
  exact List.all_eq_true.1 (Bool.and_eq_true_iff.1 hdigits).2

theorem number?_zeroPadded (width n : Nat) : number? (zeroPadded width n) = some n := by
  rw [number?_of_isDigit (zeroPadded_ne_nil width n) (isDigit_of_mem_zeroPadded width n),
    zeroPadded, padLeft, digits, Nat.ofDigitChars_append, Nat.ofDigitChars_replicate_zero,
    Nat.mul_zero, Nat.ofDigitChars_ten_toDigits]

theorem number?_twoDigits {n : Nat} (hn : n < 100) : number? (twoDigits n) = some n := by
  have htens : n / 10 < 10 := by omega
  have hones : n % 10 < 10 := by omega
  have hne : twoDigits n ≠ [] := List.cons_ne_nil _ _
  rw [number?_of_isDigit hne (isDigit_of_mem_twoDigits hn), twoDigits, digit_eq_digitChar htens,
    digit_eq_digitChar hones, Nat.ofDigitChars_cons_digitChar_of_lt_ten htens,
    Nat.ofDigitChars_cons_digitChar_of_lt_ten hones, Nat.ofDigitChars_nil]
  congr 1
  omega

end LocaleClock.Text
