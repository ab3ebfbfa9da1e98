import LocaleClock.Proofs.CommandLine.Options
import LocaleClock.Proofs.Formatter.OfSettings
import LocaleClock.Proofs.Program.Printing
import LocaleClock.Proofs.Settings.Acceptance

/-! Which pattern is used when one is given on the command line. The option takes the place of the
pattern of the settings and leaves the customizations as they are, so an identifier for which the
settings have a pattern of its own is still shown with that. -/

namespace LocaleClock.Formatter

open CommandLine (Arguments)

/-! ### Patterns of the settings -/

section

variable {s : Settings} {f g : Formatter}

/-- A formatter with the customizations of settings uses their patterns, and its own pattern where
they have none. -/
theorem patternFor_of_ofSettings (h : ofSettings s = .ok f)
    (hg : g.customizations = f.customizations) (identifier : String) :
    g.patternFor identifier = (s.locales.format? identifier).getD g.pattern := by
  rw [patternFor_eq, customization?, hg, find?_of_ofSettings h, find?_of_ofSettings h]
  rfl

theorem localeFor_of_ofSettings (h : ofSettings s = .ok f)
    (hg : g.customizations = f.customizations) (identifier : String) :
    g.localeFor identifier =
      Locale.resolveOr (s.locales.baseOf identifier) g.defaultLocale := by
  rw [localeFor, baseOf, customization?, hg, find?_of_ofSettings h]
  rfl

end

/-- What the current time is shown as when the pattern for an identifier can be used. -/
theorem value_currentBy_of_usable (table : Locale → Locale.Conventions) (zone : TimeZone)
    (f : Formatter) {identifier : String}
    (h : Pattern.validate (f.patternFor identifier) = .ok ()) (t : Instant) :
    (f.currentBy table zone t identifier).value =
      (f.render zone (table (f.localeFor identifier).value) (f.clock.read t)
        (f.patternFor identifier)).toOption.getD (f.unformattedIn zone (f.clock.read t)) := by
  rw [currentBy, value_formatBy, tryFormatBy_of_usable _ h]
  cases f.render zone _ _ _ <;> rfl

theorem getD_eq_iff {x : Option String} {y : String} : x.getD y = y ↔ ∀ z, x = some z → z = y := by
  cases x <;> simp

/-- With accepted settings and options, a pattern that is given on the command line is used for an
identifier exactly when the settings have no other pattern for it, neither under its key nor under
the key of its language; otherwise theirs is used. The line that is printed is the current time,
shown with that pattern in the locale that the base for the identifier, or the identifier, means. -/
theorem format_option_used_iff (s : Settings) (a : Arguments) (pattern : String)
    (accepted : s.validate = .ok ()) (given : a.format = some pattern)
    (usable : Pattern.validate pattern = .ok ())
    (readable : ∀ text, a.offset = some text → ∃ o, Offset.parse text = .ok o) :
    let identifier := a.locale.getD s.formatting.defaultLocale
    ∃ f g, ofSettings s = .ok f ∧ f.override a = .ok g ∧
      g.patternFor identifier = (s.locales.format? identifier).getD pattern ∧
      (g.patternFor identifier = pattern ↔
        ∀ own, s.locales.format? identifier = some own → own = pattern) ∧
      g.localeFor identifier =
        Locale.resolveOr (s.locales.baseOf identifier) f.defaultLocale ∧
      Locale.resolve s.formatting.defaultLocale = .ok f.defaultLocale ∧
      ∀ (lib : Program.Libraries) (logger : Option Log.Logger) (w : World),
        ((Program.showDate lib logger g identifier : StateM World Unit) w).2.output =
          w.output ++
            ((g.render w.timeZone (lib.conventions (g.localeFor identifier).value) w.time
              (g.patternFor identifier)).toOption.getD (g.unformattedIn w.timeZone w.time) ++
                "\n") := by
  intro identifier
  obtain ⟨f, hf, husable⟩ := exists_ofSettings accepted
  have hformat : ∀ p, a.format = some p → Pattern.validate p = .ok () := by
    intro p hp
    cases given.symm.trans hp
    exact usable
  obtain ⟨o, hg⟩ := f.exists_override hformat readable
  rw [given, Option.getD_some] at hg
  set g : Formatter := { f with pattern, offset := o }
  have hpattern : g.patternFor identifier = (s.locales.format? identifier).getD pattern :=
    patternFor_of_ofSettings (g := g) hf rfl identifier
  have hclock : g.clock = .system := clock_of_ofSettings (f := f) hf
  refine ⟨f, g, hf, hg, hpattern, ?_, localeFor_of_ofSettings (g := g) hf rfl identifier,
    defaultLocale_of_ofSettings hf, fun lib logger w => ?_⟩
  · rw [hpattern]
    exact getD_eq_iff
  · have hvalid := (husable.override hg).validate_patternFor identifier
    rw [Program.output_showDate, value_currentBy_of_usable _ _ g hvalid, hclock]
    rfl

/-- The pattern of the option is used for an identifier that only has a base, in the locale of the
base; for a region whose language has a pattern in the settings, theirs is used. -/
theorem format_option_used_iff_pirate :
    let s : Settings := { Settings.standard with
      locales := .ofList [("DE", ⟨some "%A", none⟩), ("x-pirate", ⟨none, some "en_GB"⟩)] }
    let a : Arguments := { Arguments.none with format := some "%x", offset := some "+02:00" }
    s.validate = .ok () ∧
      (∃ f g, ofSettings s = .ok f ∧ f.override { a with locale := some "X_Pirate" } = .ok g ∧
        g.patternFor "X_Pirate" = "%x" ∧
        g.localeFor "X_Pirate" = Locale.resolveOr "en_GB" f.defaultLocale) ∧
      ∃ f g, ofSettings s = .ok f ∧ f.override { a with locale := some "de-AT" } = .ok g ∧
        g.patternFor "de-AT" = "%A" := by
  intro s a
  have accepted : s.validate = .ok () := by decide +kernel
  have usable : Pattern.validate "%x" = .ok () := by decide +kernel
  have readable : ∀ text, a.offset = some text → ∃ o, Offset.parse text = .ok o := by
    intro text htext
    cases htext
    exact ⟨⟨7200, by decide⟩, by decide +kernel⟩
  obtain ⟨f, g, hf, hg, -, hused, hlocale, -⟩ := format_option_used_iff s
    { a with locale := some "X_Pirate" } "%x" accepted rfl usable readable
  obtain ⟨f', g', hf', hg', hown, -⟩ := format_option_used_iff s
    { a with locale := some "de-AT" } "%x" accepted rfl usable readable
  have hnone : s.locales.format? "X_Pirate" = none := by decide +kernel
  have hsome : s.locales.format? "de-AT" = some "%A" := by decide +kernel
  have hbase : s.locales.baseOf "X_Pirate" = "en_GB" := by decide +kernel
  rw [Option.getD_some] at hused hlocale hown
  rw [hbase] at hlocale
  rw [hsome, Option.getD_some] at hown
  refine ⟨accepted, ⟨f, g, hf, hg, hused.2 ?_, hlocale⟩, f', g', hf', hg', hown⟩
  intro own hother
  cases hnone.symm.trans hother

/-- A pattern on the command line is not used for a locale that has its own in the settings. -/
theorem format_option_not_used :
    let s : Settings := { Settings.standard with
      locales := .ofList [("de", ⟨some "locale", none⟩)] }
    let a : Arguments := { Arguments.none with locale := some "de", format := some "override" }
    s.validate = .ok () ∧ Pattern.validate "override" = .ok () ∧
      (Program.formatterOf s a).map (fun f => f.patternFor "de") = .ok "locale" ∧
      (Program.formatterOf s a).map (fun f => f.patternFor "de") ≠ .ok "override" := by
  decide +kernel

end LocaleClock.Formatter
