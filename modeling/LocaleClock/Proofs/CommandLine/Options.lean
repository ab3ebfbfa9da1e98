import Mathlib.Control.Monad.Basic
import LocaleClock.CommandLine.Overrides
import LocaleClock.Proofs.Settings.Checks

/-! What options make of a formatter. An option that is accepted sets the pattern or the offset and
leaves everything else; one that is refused says why. The format is looked at before the offset. -/

namespace LocaleClock.Formatter

open CommandLine (Arguments)

variable {f g : Formatter} {a : Arguments}

theorem overrideFormat_eq_ok_iff {option : Option String} :
    f.overrideFormat option = .ok g ↔
      (∀ p, option = some p → Pattern.validate p = .ok ()) ∧
        g = { f with pattern := option.getD f.pattern } := by
  cases option with
  | none =>
    simp only [overrideFormat, Except.ok.injEq, Option.getD_none]
    exact ⟨fun h => ⟨fun p hp => (nomatch hp), h.symm⟩, fun h => h.2.symm⟩
  | some p =>
    cases h : Pattern.validate p with
    | ok u => simp [overrideFormat, h, withPattern, eq_comm]
    | error e => simp [overrideFormat, h]

theorem overrideFormat_eq_error_iff {option : Option String} {e : OverrideError} :
    f.overrideFormat option = .error e ↔
      ∃ p cause, option = some p ∧ Pattern.validate p = .error cause ∧ e = .format cause := by
  cases option with
  | none => simp [overrideFormat]
  | some p => cases h : Pattern.validate p <;> simp [overrideFormat, h, eq_comm]

theorem overrideOffset_eq_ok_iff {option : Option String} :
    f.overrideOffset option = .ok g ↔
      ∃ o, option.mapM Offset.parse = .ok o ∧ g = { f with offset := o.or f.offset } := by
  cases option with
  | none =>
    simp only [overrideOffset, Except.ok.injEq, Option.mapM_none]
    exact ⟨fun h => ⟨none, rfl, h.symm⟩, fun ⟨o, ho, h⟩ => by cases ho; exact h.symm⟩
  | some text =>
    cases h : Offset.parse text <;>
      simp [overrideOffset, h, withOffset, eq_comm, Functor.map, Except.map]

theorem overrideOffset_eq_error_iff {option : Option String} {e : OverrideError} :
    f.overrideOffset option = .error e ↔
      ∃ text cause, option = some text ∧ Offset.parse text = .error cause ∧ e = .offset cause := by
  cases option with
  | none => simp [overrideOffset]
  | some text => cases h : Offset.parse text <;> simp [overrideOffset, h, eq_comm]

/-- Options that are accepted change the pattern and the offset alone. -/
theorem override_eq_ok_iff :
    f.override a = .ok g ↔
      (∀ p, a.format = some p → Pattern.validate p = .ok ()) ∧
        ∃ o, a.offset.mapM Offset.parse = .ok o ∧
          g = { f with pattern := a.format.getD f.pattern, offset := o.or f.offset } := by
  rw [override, bind_eq_ok_iff]
  simp only [overrideFormat_eq_ok_iff, overrideOffset_eq_ok_iff]
  constructor
  · rintro ⟨f', ⟨hp, rfl⟩, o, ho, rfl⟩
    exact ⟨hp, o, ho, rfl⟩
  · rintro ⟨hp, o, ho, rfl⟩
    exact ⟨_, ⟨hp, rfl⟩, o, ho, rfl⟩

theorem exists_override (f : Formatter) {a : Arguments}
    (hformat : ∀ p, a.format = some p → Pattern.validate p = .ok ())
    (hoffset : ∀ text, a.offset = some text → ∃ o, Offset.parse text = .ok o) :
    ∃ o, f.override a = .ok { f with pattern := a.format.getD f.pattern, offset := o } := by
  obtain ⟨o, ho⟩ := exists_mapM_eq_ok_iff.2 hoffset
  exact ⟨o.or f.offset, override_eq_ok_iff.2 ⟨hformat, o, ho, rfl⟩⟩

theorem override_eq_error_format_iff {cause : FormatError} :
    f.override a = .error (.format cause) ↔
      ∃ p, a.format = some p ∧ Pattern.validate p = .error cause := by
  rw [override, bind_eq_error_iff, overrideFormat_eq_error_iff]
  simp [overrideOffset_eq_error_iff]

/-- An offset is looked at only where the format is accepted. -/
theorem override_eq_error_offset_iff {cause : FormatError} :
    f.override a = .error (.offset cause) ↔
      (∀ p, a.format = some p → Pattern.validate p = .ok ()) ∧
        ∃ text, a.offset = some text ∧ Offset.parse text = .error cause := by
  rw [override, bind_eq_error_iff, overrideFormat_eq_error_iff]
  simp [overrideFormat_eq_ok_iff, overrideOffset_eq_error_iff]

end LocaleClock.Formatter
