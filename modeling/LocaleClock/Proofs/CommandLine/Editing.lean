import LocaleClock.Proofs.CommandLine.Options
import LocaleClock.Proofs.Formatter.OfSettings
import LocaleClock.Proofs.Settings.Acceptance

/-! Options as edits of the settings. An option does to the formatter what its value would do as a
setting: where the options are accepted, the settings with their values written in are accepted too
and describe the formatter that the options make, and where one is refused, the edited settings are
refused for the same setting and the same cause. -/

namespace LocaleClock

open CommandLine (Arguments)

/-- The settings with the values of the options written in. -/
def Settings.edited (s : Settings) (a : Arguments) : Settings :=
  { s with formatting := { s.formatting with
      format := a.format.getD s.formatting.format
      utcOffset := a.offset.or s.formatting.utcOffset } }

/-- The fault that a refused value is as a setting. -/
def OverrideError.fault : OverrideError → Settings.Fault
  | .format e => .format e
  | .offset e => .utcOffset e

theorem OverrideError.causes_fault (e : OverrideError) :
    e.fault.report.causes = e.report.causes := by
  cases e <;> rfl

/-! ### Edited settings -/

namespace Settings

variable {s : Settings} {a : Arguments}

theorem acceptOption_eq_error_iff {α β : Type} {fault : FormatError → Fault}
    {check : α → Except FormatError β} {x : Option α} {e : Fault} :
    acceptOption fault check x = .error e ↔
      ∃ a cause, x = some a ∧ check a = .error cause ∧ e = fault cause := by
  cases x with
  | none => simp [acceptOption]
  | some a => cases h : check a <;> simp [acceptOption, accept, h, eq_comm]

/-- Of edited settings only what was written in needs to be looked at. -/
theorem validate_edited (accepted : s.validate = .ok ()) :
    (s.edited a).validate = (do
      acceptOption .format Pattern.validate a.format
      acceptOption .utcOffset Offset.parse a.offset) := by
  obtain ⟨hformat, ⟨l, hl⟩, hoffset, hsections, t, ht⟩ := validate_eq_ok_iff.1 accepted
  have hpattern : accept .format (Pattern.validate (a.format.getD s.formatting.format)) =
      acceptOption .format Pattern.validate a.format := by
    cases a.format with
    | none => exact accept_eq_ok_iff.2 ⟨(), hformat⟩
    | some p => rfl
  have hown : acceptOption .utcOffset Offset.parse (a.offset.or s.formatting.utcOffset) =
      acceptOption .utcOffset Offset.parse a.offset := by
    cases a.offset with
    | none => exact acceptOption_eq_ok_iff.2 hoffset
    | some text => rfl
  have hlocale : accept .defaultLocale (Locale.resolve s.formatting.defaultLocale) = .ok () :=
    accept_eq_ok_iff.2 ⟨l, hl⟩
  have hrest : (s.locales.entries.forM fun e => validateSection e.1 e.2) = .ok () :=
    forM_eq_ok_iff.2 hsections
  have hlevel : validateLevel s.logging.level = .ok () := validateLevel_eq_ok_iff.2 ⟨t, ht⟩
  simp only [validate, edited, hpattern, hown, hlocale, hrest, hlevel]
  cases acceptOption .format Pattern.validate a.format with
  | error e => rfl
  | ok u => cases acceptOption .utcOffset Offset.parse a.offset <;> rfl

end Settings

/-! ### Options against edits -/

namespace Formatter

variable {s : Settings} {a : Arguments} {f g : Formatter}

/-- What accepted options make of the formatter of settings is the formatter of the edited
settings. -/
theorem ofSettings_edited (hf : ofSettings s = .ok f) (hg : f.override a = .ok g) :
    ofSettings (s.edited a) = .ok g := by
  obtain ⟨l, own, hl, hown, rfl⟩ := ofSettings_eq_ok_iff.1 hf
  obtain ⟨-, o, ho, rfl⟩ := override_eq_ok_iff.1 hg
  refine ofSettings_eq_ok_iff.2 ⟨l, o.or own, hl, ?_, rfl⟩
  simp only [Settings.edited]
  cases htext : a.offset with
  | none =>
    rw [htext] at ho
    cases ho
    exact hown
  | some text =>
    rw [htext, Option.mapM_some] at ho
    cases hparse : Offset.parse text with
    | error e =>
      rw [hparse] at ho
      cases ho
    | ok o' =>
      rw [hparse] at ho
      cases ho
      exact congrArg (some <$> ·) hparse

/-- Edited settings have the faults that the options have. -/
theorem validate_edited_eq_error_iff (accepted : s.validate = .ok ()) {fault : Settings.Fault} :
    (s.edited a).validate = .error fault ↔ ∃ e, f.override a = .error e ∧ e.fault = fault := by
  rw [Settings.validate_edited accepted, bind_eq_error_iff]
  constructor
  · rintro (h | ⟨u, hu, h⟩)
    · obtain ⟨p, cause, hp, hcause, rfl⟩ := Settings.acceptOption_eq_error_iff.1 h
      exact ⟨.format cause, override_eq_error_format_iff.2 ⟨p, hp, hcause⟩, rfl⟩
    · obtain ⟨text, cause, htext, hcause, rfl⟩ := Settings.acceptOption_eq_error_iff.1 h
      have hformat : ∀ p, a.format = some p → Pattern.validate p = .ok () := by
        simpa only [exists_eq_ok_unit_iff] using Settings.acceptOption_eq_ok_iff.1 hu
      exact ⟨.offset cause, override_eq_error_offset_iff.2 ⟨hformat, text, htext, hcause⟩, rfl⟩
  · rintro ⟨e, he, rfl⟩
    cases e with
    | format cause =>
      obtain ⟨p, hp, hcause⟩ := override_eq_error_format_iff.1 he
      exact .inl (Settings.acceptOption_eq_error_iff.2 ⟨p, cause, hp, hcause, rfl⟩)
    | offset cause =>
      obtain ⟨hformat, text, htext, hcause⟩ := override_eq_error_offset_iff.1 he
      refine .inr ⟨(), Settings.acceptOption_eq_ok_iff.2 ?_, ?_⟩
      · exact fun p hp => ⟨(), hformat p hp⟩
      · exact Settings.acceptOption_eq_error_iff.2 ⟨text, cause, htext, hcause, rfl⟩

/-- For accepted settings an option is as good as an edit. Options that are all accepted give the
formatter that the settings with their values written in describe, and those settings are accepted.
Otherwise options are refused exactly when the edited settings are, for the same setting and with
the same cause; a format that is refused comes before an offset that is. -/
theorem options_act_as_edits (s : Settings) (a : Arguments) (accepted : s.validate = .ok ()) :
    ∃ f, ofSettings s = .ok f ∧
      ((∀ p, a.format = some p → Pattern.validate p = .ok ()) →
        (∀ text, a.offset = some text → ∃ o, Offset.parse text = .ok o) →
        (s.edited a).validate = .ok () ∧
          ∃ g, f.override a = .ok g ∧ ofSettings (s.edited a) = .ok g) ∧
      (∀ fault, (s.edited a).validate = .error fault ↔
        ∃ e, f.override a = .error e ∧ e.fault = fault ∧
          fault.report.causes = e.report.causes) ∧
      ∀ cause,
        (f.override a = .error (.format cause) ↔
          ∃ p, a.format = some p ∧ Pattern.validate p = .error cause) ∧
        (f.override a = .error (.offset cause) ↔
          (∀ p, a.format = some p → Pattern.validate p = .ok ()) ∧
            ∃ text, a.offset = some text ∧ Offset.parse text = .error cause) := by
  obtain ⟨f, hf, -⟩ := exists_ofSettings accepted
  refine ⟨f, hf, ?accepted, ?refused, fun cause => ?cause⟩
  case accepted =>
    intro hformat hoffset
    obtain ⟨o, hg⟩ := f.exists_override hformat hoffset
    refine ⟨?_, _, hg, ofSettings_edited hf hg⟩
    -- A fault of the edited settings would be one of the options.
    cases hvalidate : (s.edited a).validate with
    | ok u => rfl
    | error fault =>
      obtain ⟨e, he, -⟩ := (validate_edited_eq_error_iff accepted).1 hvalidate
      cases hg.symm.trans he
  case refused =>
    intro fault
    rw [validate_edited_eq_error_iff accepted]
    constructor
    · rintro ⟨e, he, rfl⟩
      exact ⟨e, he, rfl, e.causes_fault⟩
    · rintro ⟨e, he, hfault, -⟩
      exact ⟨e, he, hfault⟩
  case cause => exact ⟨override_eq_error_format_iff, override_eq_error_offset_iff⟩

/-- Options that replace both the pattern and the offset of settings, and options that are both
refused, of which the format is reported. -/
theorem options_act_as_edits_swedish :
    let s : Settings := {
      formatting := ⟨"%A, %-d. %B %Y", "sv", some "+05:30"⟩
      locales := .ofList [("de-AT", ⟨some "%x", none⟩), ("x-pirate", ⟨none, some "en_GB"⟩)]
      logging := ⟨false, "info", none⟩ }
    let good : Arguments := { Arguments.none with format := some "%x", offset := some "-03:00" }
    let bad : Arguments := { Arguments.none with format := some "%Q", offset := some "soon" }
    s.validate = .ok () ∧
      (s.edited good).validate = .ok () ∧
      (∃ f g, ofSettings s = .ok f ∧ f.override good = .ok g ∧ ofSettings (s.edited good) = .ok g) ∧
      ∃ f, ofSettings s = .ok f ∧
        f.override bad = .error (.format (.invalidPattern "%Q")) ∧
        (s.edited bad).validate = .error (.format (.invalidPattern "%Q")) := by
  intro s good bad
  have accepted : s.validate = .ok () := by decide +kernel
  have hformat : ∀ p, good.format = some p → Pattern.validate p = .ok () := by
    intro p hp
    cases hp
    decide +kernel
  have hoffset : ∀ text, good.offset = some text → ∃ o, Offset.parse text = .ok o := by
    intro text htext
    cases htext
    exact ⟨⟨-10800, by decide⟩, by decide +kernel⟩
  obtain ⟨f, hf, hgood, -⟩ := options_act_as_edits s good accepted
  obtain ⟨hvalid, g, hg, hedited⟩ := hgood hformat hoffset
  obtain ⟨f', hf', -, hfaults, hcause⟩ := options_act_as_edits s bad accepted
  have hrefused : f'.override bad = .error (.format (.invalidPattern "%Q")) :=
    (hcause _).1.2 ⟨"%Q", rfl, by decide +kernel⟩
  exact ⟨accepted, hvalid, ⟨f, g, hf, hg, hedited⟩, f', hf', hrefused,
    (hfaults _).2 ⟨_, hrefused, rfl, rfl⟩⟩

end Formatter

end LocaleClock
