import LocaleClock.Formatter.Formatting
import LocaleClock.Proofs.Formatter.Runs

/-! What a registration changes. It changes the customization of the identifiers with its key and,
through the pattern, what is shown for the identifiers whose language has its key. Everything else
stays as it was. -/

namespace LocaleClock.Formatter

open Customization (lookupKey languageKey)
open LocaleClock.Locale (Conventions)

/-! ### What showing depends on -/

section

variable {zone : TimeZone} {f g : Formatter} {identifier query : String}

theorem patternFor_congr (hpattern : g.pattern = f.pattern)
    (hown : (g.customization? identifier).bind Customization.format =
      (f.customization? identifier).bind Customization.format)
    (hlanguage : (g.customizations.find? (languageKey (lookupKey identifier))).bind
        Customization.format =
      (f.customizations.find? (languageKey (lookupKey identifier))).bind Customization.format) :
    g.patternFor identifier = f.patternFor identifier := by
  rw [patternFor_eq, patternFor_eq, hpattern, hown, hlanguage]

theorem localeFor_congr (hdefault : g.defaultLocale = f.defaultLocale)
    (hbase : g.baseOf identifier = f.baseOf identifier) :
    g.localeFor identifier = f.localeFor identifier := by
  rw [localeFor, localeFor, hdefault, hbase]

theorem moment_congr (t : Instant) (hoffset : g.offset = f.offset) :
    g.moment zone t = f.moment zone t := by
  rw [moment, moment, displayOffset, displayOffset, hoffset]

/-- What is shown and recorded depends on the pattern, the locale and the offset alone. -/
theorem tryFormatBy_congr (table : Locale → Conventions) (t : Instant)
    (hoffset : g.offset = f.offset) (hpattern : g.patternFor query = f.patternFor identifier)
    (hlocale : g.localeFor query = f.localeFor identifier) :
    g.tryFormatBy table zone t query = f.tryFormatBy table zone t identifier := by
  have hrender : ∀ c pattern, g.render zone c t pattern = f.render zone c t pattern := by
    intro c pattern
    rw [render, render, moment_congr t hoffset]
  simp only [tryFormatBy, hpattern, hlocale, hrender]

theorem unformattedIn_congr (t : Instant) (hoffset : g.offset = f.offset) :
    g.unformattedIn zone t = f.unformattedIn zone t := by
  rw [unformattedIn, unformattedIn, moment_congr t hoffset]

theorem formatBy_congr {table table' : Locale → Conventions} (t : Instant)
    (hoffset : g.offset = f.offset)
    (htry : g.tryFormatBy table zone t query = f.tryFormatBy table' zone t identifier) :
    g.formatBy table zone t query = f.formatBy table' zone t identifier := by
  simp only [formatBy, htry, unformattedIn_congr t hoffset]

end

/-! ### Registration -/

section

variable (f : Formatter) (identifier : String) (c : Customization)

theorem find?_register_of_ne {key : String} (h : key ≠ lookupKey identifier) :
    (f.register identifier c).customizations.find? key = f.customizations.find? key := by
  rw [register, Registry.find?_insert, if_neg h]

/-- Registering a customization that sets nothing, where there was none, sets nothing. -/
theorem bind_find?_register_empty (part : Customization → Option String)
    (hpart : part .empty = none) (hnew : f.customization? identifier = none) (key : String) :
    ((f.register identifier .empty).customizations.find? key).bind part =
      (f.customizations.find? key).bind part := by
  -- Under its own key the empty customization stands for none; other keys keep what they had.
  by_cases hkey : key = lookupKey identifier
  · have hold : f.customizations.find? key = none := by rw [hkey]; exact hnew
    rw [register, Registry.find?_insert, if_pos hkey, hold, Option.bind_some, hpart,
      Option.bind_none]
  · rw [find?_register_of_ne f identifier _ hkey]

end

/-- A registration leaves the customization, the base and the locale of all identifiers with other
keys as they were, and what is shown and recorded for them unless it is under the key of their
language. The customization that sets nothing changes no pattern and nothing that is shown or
recorded, for any identifier, unless it takes the place of another. -/
theorem registration_changes_its_key_only (table : Locale → Conventions) (zone : TimeZone)
    (f : Formatter) (identifier : String) (c : Customization) :
    let g := f.register identifier c
    (∀ query, lookupKey query ≠ lookupKey identifier →
      g.customization? query = f.customization? query ∧
        g.baseOf query = f.baseOf query ∧
        g.localeFor query = f.localeFor query ∧
        (languageKey (lookupKey query) ≠ lookupKey identifier →
          ∀ t, g.tryFormatBy table zone t query = f.tryFormatBy table zone t query)) ∧
      (c = .empty → f.customization? identifier = none → ∀ query,
        g.patternFor query = f.patternFor query ∧
          ∀ t, g.tryFormatBy table zone t query = f.tryFormatBy table zone t query) := by
  intro g
  constructor
  · intro query hkey
    have hcustomization : g.customization? query = f.customization? query :=
      find?_register_of_ne f identifier c hkey
    have hbase : g.baseOf query = f.baseOf query := by rw [baseOf, baseOf, hcustomization]
    have hlocale : g.localeFor query = f.localeFor query := localeFor_congr rfl hbase
    refine ⟨hcustomization, hbase, hlocale, fun hlanguage t => ?_⟩
    have hpattern : g.patternFor query = f.patternFor query :=
      patternFor_congr rfl (by rw [hcustomization])
        (by rw [find?_register_of_ne f identifier c hlanguage])
    exact tryFormatBy_congr table t rfl hpattern hlocale
  · rintro rfl hnew query
    have hformat := bind_find?_register_empty f identifier Customization.format rfl hnew
    have hbase := bind_find?_register_empty f identifier Customization.base rfl hnew
    have hpattern : g.patternFor query = f.patternFor query :=
      patternFor_congr rfl (hformat _) (hformat _)
    have hlocale : g.localeFor query = f.localeFor query :=
      localeFor_congr rfl (congrArg (Option.getD · query) (hbase _))
    exact ⟨hpattern, fun t => tryFormatBy_congr table t rfl hpattern hlocale⟩

/-- A registration for a language changes the pattern for its region and not the region's locale; it
changes nothing for another language, and the customization that sets nothing changes nothing. -/
theorem registration_changes_its_key_only_german :
    let f := initial.register "x-pirate" ⟨some "%c", some "en_GB"⟩
    let g := f.register " DE" ⟨some "%A", some "sv"⟩
    g.patternFor "de-AT" = "%A" ∧ f.patternFor "de-AT" = defaultPattern ∧
      g.localeFor "de-AT" = f.localeFor "de-AT" ∧
      (∀ t, g.tryFormat t "X-Pirate" = f.tryFormat t "X-Pirate") ∧
      ∀ t, (f.register "sv" .empty).tryFormat t "sv" = f.tryFormat t "sv" := by
  intro f g
  have hframe := registration_changes_its_key_only Locale.sample .utc f " DE" ⟨some "%A", some "sv"⟩
  have hregion : lookupKey "de-AT" ≠ lookupKey " DE" := by decide +kernel
  have hother : lookupKey "X-Pirate" ≠ lookupKey " DE" := by decide +kernel
  have hlanguage : languageKey (lookupKey "X-Pirate") ≠ lookupKey " DE" := by decide +kernel
  have hnew : f.customization? "sv" = none := by decide +kernel
  refine ⟨by decide +kernel, by decide +kernel, (hframe.1 _ hregion).2.2.1,
    (hframe.1 _ hother).2.2.2 hlanguage, ?_⟩
  exact ((registration_changes_its_key_only Locale.sample .utc f "sv" .empty).2 rfl hnew _).2

end LocaleClock.Formatter
