import LocaleClock.Locale.Table
import LocaleClock.Proofs.Pattern.Replacement
import LocaleClock.Proofs.Text.Bytes

/-! The own patterns of the sample table. Some use specifiers for other numerals, which nobody reads
here: a percent sign before a character that starts no specifier, so no text after it mends it. All
other own patterns are understood. Hence its locales can be filled in and are self-contained, which
is what results on arbitrary tables ask for. -/

namespace LocaleClock.Pattern

open LocaleClock.Locale Text

/-- The own pattern of a locale, read from its bytes. -/
def ownCharacters (c : Conventions) (p : Preferred) : List Char :=
  let given := charactersOf (p.given c)
  if allBlank given then charactersOf p.fallback else given

theorem ownCharacters_eq (c : Conventions) : ownCharacters c = Preferred.pattern c := by
  funext p
  simp only [ownCharacters, charactersOf_eq, Preferred.pattern]

def checkFillable (c : Conventions) : Bool :=
  [.dateTime, .date, .time, .dialTime].all fun p =>
    isRow (ownCharacters c p) && nestsWithin (ownCharacters c) (maxNesting - 1) (ownCharacters c p)

theorem isFillable_of_check {c : Conventions} (h : checkFillable c = true) : IsFillable c := by
  have hp : ∀ p : Preferred, isRow (p.pattern c) = true ∧
      nestsWithin (Preferred.pattern c) (maxNesting - 1) (p.pattern c) = true := by
    intro p
    rw [← Bool.and_eq_true, ← ownCharacters_eq]
    apply List.all_eq_true.1 h
    cases p <;> simp
  exact ⟨fun p => isRow_of_check (hp p).1, fun p => (hp p).2⟩

theorem checkFillable_neutral : checkFillable .neutral = true := by decide +kernel

theorem checkFillable_rows : ∀ e ∈ Conventions.rows, checkFillable e.2 = true := by
  decide +kernel

theorem sample_isFillable (l : Locale) : IsFillable l.sample := by
  apply isFillable_of_check
  unfold Locale.sample
  cases h : Conventions.rows.lookup l.name with
  | none => exact checkFillable_neutral
  | some c =>
    obtain ⟨l₁, l₂, he, -⟩ := List.lookup_eq_some_iff.1 h
    exact checkFillable_rows (l.name, c) (by simp [he])

theorem sample_isSelfContained (l : Locale) : IsSelfContained l.sample :=
  (sample_isFillable l).isSelfContained

end LocaleClock.Pattern
