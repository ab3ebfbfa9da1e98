import LocaleClock.Proofs.Formatter.Registration
import LocaleClock.Proofs.Formatter.Reporting

/-! Formatters without customizations. What a formatter shows and records for an identifier, one
without customizations shows and records for its base, or for the identifier itself: the pattern is
looked up once and put in place of the formatter's, and a base is followed for one step. -/

namespace LocaleClock.Formatter

open Customization (lookupKey languageKey)
open LocaleClock.Locale (Conventions)

/-- The formatter without customizations that has the pattern for an identifier. -/
def flattened (f : Formatter) (identifier : String) : Formatter :=
  { f with pattern := f.patternFor identifier, customizations := .empty }

section

variable {zone : TimeZone} {f : Formatter} {identifier : String}

theorem patternFor_flattened (query : String) :
    (f.flattened identifier).patternFor query = f.patternFor identifier :=
  patternFor_eq (f.flattened identifier) query

theorem localeFor_flattened (query : String) :
    (f.flattened identifier).localeFor query = Locale.resolveOr query f.defaultLocale := rfl

theorem tryFormatBy_flattened (table : Locale → Conventions) (t : Instant) :
    (f.flattened identifier).tryFormatBy table zone t (f.baseOf identifier) =
      f.tryFormatBy table zone t identifier :=
  tryFormatBy_congr table t rfl (patternFor_flattened _) (localeFor_flattened _)

/-- A base that means no locale is no better than any other identifier that means none. -/
theorem value_tryFormatBy_of_unknown (table : Locale → Conventions) (t : Instant)
    (hbase : Locale.find? (f.baseOf identifier) = none) {unknown : String}
    (hunknown : Locale.find? unknown = none) :
    (f.tryFormatBy table zone t identifier).value =
      ((f.flattened identifier).tryFormatBy table zone t unknown).value := by
  have hpattern : (f.flattened identifier).patternFor unknown = f.patternFor identifier :=
    patternFor_flattened unknown
  cases h : Pattern.validate (f.patternFor identifier) with
  | error e =>
    have h' : Pattern.validate ((f.flattened identifier).patternFor unknown) = .error e := by
      rw [hpattern, h]
    rw [tryFormatBy_of_unusable table h, tryFormatBy_of_unusable table h', hpattern]
  | ok u =>
    have h' : Pattern.validate ((f.flattened identifier).patternFor unknown) = .ok () := by
      rw [hpattern, h]
    have hself : (f.flattened identifier).baseOf unknown = unknown := rfl
    rw [value_tryFormatBy_of_usable table h, value_tryFormatBy_of_usable table h', hself, hbase,
      hunknown, hpattern]
    rfl

end

/-- Customizations can be put into the pattern and the identifier. A formatter without
customizations, whose pattern is the one for an identifier, shows and records for the base of the
identifier what the formatter does for the identifier. A base is followed for one step: only the
customization of the identifier and the pattern of its language matter, not what is registered for
the base. A base that means no locale is shown like every identifier that means none. -/
theorem customizations_flatten (table : Locale → Conventions) (zone : TimeZone) (f : Formatter)
    (t : Instant) (identifier : String) :
    let flat := f.flattened identifier
    let base := f.baseOf identifier
    flat.tryFormatBy table zone t base = f.tryFormatBy table zone t identifier ∧
      flat.formatBy table zone t base = f.formatBy table zone t identifier ∧
      (∀ g : Formatter, g.pattern = f.pattern → g.defaultLocale = f.defaultLocale →
        g.offset = f.offset → g.customization? identifier = f.customization? identifier →
        (g.customizations.find? (languageKey (lookupKey identifier))).bind Customization.format =
          (f.customizations.find? (languageKey (lookupKey identifier))).bind Customization.format →
        g.tryFormatBy table zone t identifier = f.tryFormatBy table zone t identifier) ∧
      (Locale.find? base = none → ∀ unknown, Locale.find? unknown = none →
        (f.tryFormatBy table zone t identifier).value =
          (flat.tryFormatBy table zone t unknown).value) := by
  intro flat base
  have htry : flat.tryFormatBy table zone t base = f.tryFormatBy table zone t identifier :=
    tryFormatBy_flattened table t
  refine ⟨htry, formatBy_congr t rfl htry, ?oneStep, ?unknown⟩
  case oneStep =>
    intro g hpattern hdefault hoffset hown hlanguage
    have hbase : g.baseOf identifier = f.baseOf identifier := by rw [baseOf, baseOf, hown]
    exact tryFormatBy_congr table t hoffset (patternFor_congr hpattern (by rw [hown]) hlanguage)
      (localeFor_congr hdefault hbase)
  case unknown => exact fun hbase u hu => value_tryFormatBy_of_unknown table t hbase hu

/-- A base that has a pattern and a base of its own, neither of which is used; an identifier that is
its own base; and a base that means no locale. -/
theorem customizations_flatten_pirate :
    let f := (((initial.withPattern "%B").register "x-pirate" ⟨none, some "en-GB"⟩).register
      "en_gb" ⟨some "%A", some "de"⟩).register "lost" ⟨some "%x", some "nowhere"⟩
    let g := f.register "sv" ⟨none, some "SV"⟩
    let t : Instant := ⟨1705314600, 0, by decide⟩
    f.tryFormat t "X_Pirate" = (initial.withPattern "%B").tryFormat t "en-GB" ∧
      (f.tryFormat t "X_Pirate").value = .ok "January" ∧
      g.tryFormat t "sv" = (initial.withPattern "%B").tryFormat t "SV" ∧
      g.tryFormat t "x-pirate" = f.tryFormat t "x-pirate" ∧
      Locale.find? "nowhere" = none ∧ Locale.find? "" = none ∧
      (f.tryFormat t "lost").value = ((initial.withPattern "%x").tryFormat t "").value := by
  intro f g t
  have hpirate : f.flattened "X_Pirate" = initial.withPattern "%B" ∧
      f.baseOf "X_Pirate" = "en-GB" := by decide +kernel
  have hswedish : g.flattened "sv" = initial.withPattern "%B" ∧ g.baseOf "sv" = "SV" := by
    decide +kernel
  have hlost : f.flattened "lost" = initial.withPattern "%x" ∧ f.baseOf "lost" = "nowhere" := by
    decide +kernel
  have hnowhere : Locale.find? "nowhere" = none := by decide +kernel
  have hblank : Locale.find? "" = none := by decide +kernel
  obtain ⟨hshown, -⟩ := customizations_flatten Locale.sample .utc f t "X_Pirate"
  obtain ⟨hself, -⟩ := customizations_flatten Locale.sample .utc g t "sv"
  obtain ⟨-, -, hother, -⟩ := customizations_flatten Locale.sample .utc f t "x-pirate"
  obtain ⟨-, -, -, hunknown⟩ := customizations_flatten Locale.sample .utc f t "lost"
  rw [hpirate.1, hpirate.2] at hshown
  rw [hswedish.1, hswedish.2] at hself
  rw [hlost.1, hlost.2] at hunknown
  refine ⟨hshown.symm, by decide +kernel, hself.symm, ?_, hnowhere, hblank,
    hunknown hnowhere "" hblank⟩
  exact hother g rfl rfl rfl (by decide +kernel) (by decide +kernel)

end LocaleClock.Formatter
