import LocaleClock.Proofs.Formatter.Outcome
import LocaleClock.Proofs.Formatter.Registration

/-! What showing an instant records. Two things are worth a record: an identifier that means no
locale, which is looked at only where the pattern can be used, and then the failure to show the
instant as asked. Showing falls back twice without failing, to the default locale and to the fixed
form. -/

namespace LocaleClock

open Log (Record)
open LocaleClock.Locale (Conventions)

/-! ### The locale -/

namespace Locale

theorem value_resolveOr (identifier : String) (default : Locale) :
    (resolveOr identifier default).value = (find? identifier).getD default := by
  unfold resolveOr resolve
  cases find? identifier <;> rfl

theorem records_resolveOr (identifier : String) (default : Locale) :
    (resolveOr identifier default).records =
      if find? identifier = none then [fallbackRecord (.unknownLocale identifier)] else [] := by
  unfold resolveOr resolve
  cases find? identifier <;> rfl

end Locale

namespace Formatter

variable {zone : TimeZone}

/-! ### Trying -/

theorem records_tryFormatBy (table : Locale → Conventions) (f : Formatter) (t : Instant)
    (identifier : String) :
    (f.tryFormatBy table zone t identifier).records =
      if Pattern.validate (f.patternFor identifier) = .ok () ∧
          Locale.find? (f.baseOf identifier) = none then
        [Locale.fallbackRecord (.unknownLocale (f.baseOf identifier))]
      else [] := by
  cases h : Pattern.validate (f.patternFor identifier) with
  | error e =>
    rw [tryFormatBy_of_unusable table h, if_neg (fun hand => nomatch hand.1)]
    rfl
  | ok u =>
    have hrecords : (f.tryFormatBy table zone t identifier).records =
        (f.localeFor identifier).records ++ [] := by
      simp only [tryFormatBy, h]
      rfl
    rw [hrecords, List.append_nil, localeFor, Locale.records_resolveOr]
    simp only [true_and]

/-- Where the pattern can be used, an identifier that means no locale is shown in the default
one. -/
theorem value_tryFormatBy_of_usable (table : Locale → Conventions) {f : Formatter}
    {identifier : String} (h : Pattern.validate (f.patternFor identifier) = .ok ()) (t : Instant) :
    (f.tryFormatBy table zone t identifier).value =
      f.render zone (table ((Locale.find? (f.baseOf identifier)).getD f.defaultLocale)) t
        (f.patternFor identifier) := by
  rw [tryFormatBy_of_usable table h, localeFor, Locale.value_resolveOr]

theorem formatBy_of_unusable (table : Locale → Conventions) {f : Formatter} {identifier : String}
    {e : FormatError} (h : Pattern.validate (f.patternFor identifier) = .error e) (t : Instant) :
    f.formatBy table zone t identifier =
      ⟨f.unformattedIn zone t, [fallbackRecord (.invalidPattern (f.patternFor identifier))]⟩ := by
  rw [formatBy, tryFormatBy_of_unusable table h]
  rfl

/-! ### Showing -/

theorem records_formatBy (table : Locale → Conventions) (f : Formatter) (t : Instant)
    (identifier : String) :
    (f.formatBy table zone t identifier).records =
      (f.tryFormatBy table zone t identifier).records ++
        match (f.tryFormatBy table zone t identifier).value with
        | .ok _ => []
        | .error e => [fallbackRecord e] := by
  unfold formatBy Log.Logged.andThen
  cases (f.tryFormatBy table zone t identifier).value <;> rfl

/-- What is shown is what trying gives, and the fixed form where trying fails. The records are one
for the locale, exactly where the pattern can be used and the base of the identifier, or the
identifier, means no locale, and then one for the failure, exactly where trying fails. An identifier
that means no locale is shown in the default locale and is never an error. For an unusable pattern
nothing else matters, neither the default locale nor a base nor what locales say about dates. -/
theorem shown_text_and_records (table : Locale → Conventions) (zone : TimeZone) (f : Formatter)
    (t : Instant) (identifier : String) :
    let pattern := f.patternFor identifier
    let tried := f.tryFormatBy table zone t identifier
    let shown := f.formatBy table zone t identifier
    shown.value = (match tried.value with
      | .ok text => text
      | .error _ => f.unformattedIn zone t) ∧
      shown.records =
        (if Pattern.validate pattern = .ok () ∧ Locale.find? (f.baseOf identifier) = none then
          [Locale.fallbackRecord (.unknownLocale (f.baseOf identifier))] else []) ++
        (match tried.value with
          | .ok _ => []
          | .error e => [fallbackRecord e]) ∧
      (∀ unknown, tried.value ≠ .error (.unknownLocale unknown)) ∧
      (Pattern.validate pattern = .ok () →
        tried.value =
          let l := (Locale.find? (f.baseOf identifier)).getD f.defaultLocale
          f.render zone (table l) t pattern) ∧
      (Pattern.validate pattern ≠ .ok () →
        shown = ⟨f.unformattedIn zone t, [fallbackRecord (.invalidPattern pattern)]⟩ ∧
          ∀ (table' : Locale → Conventions) (g : Formatter) (query : String),
            g.offset = f.offset → g.patternFor query = pattern →
            g.formatBy table' zone t query = shown) := by
  intro pattern tried shown
  refine ⟨value_formatBy table f t identifier, ?records, ?known, ?usable, ?unusable⟩
  case records =>
    rw [← records_tryFormatBy table f t identifier]
    exact records_formatBy table f t identifier
  case usable => exact fun h => value_tryFormatBy_of_usable table h t
  case known =>
    intro unknown herror
    cases h : Pattern.validate pattern with
    | error e =>
      have hinvalid : tried = _ := tryFormatBy_of_unusable table h t
      rw [hinvalid] at herror
      cases herror
    | ok u =>
      have hrender : tried.value = _ := value_tryFormatBy_of_usable table h t
      rw [hrender] at herror
      cases (render_eq_error_iff.1 herror).2
  case unusable =>
    intro hunusable
    cases h : Pattern.validate pattern with
    | ok u => exact absurd h hunusable
    | error e =>
      have hshown : shown = _ := formatBy_of_unusable table h t
      refine ⟨hshown, fun table' g query hoffset hpattern => ?_⟩
      have hother : Pattern.validate (g.patternFor query) = .error e := by rw [hpattern, h]
      rw [formatBy_of_unusable table' hother, hpattern, unformattedIn_congr t hoffset]
      exact hshown.symm

/-- Both records for a base that means no locale and a pattern that cannot be shown, one for an
unusable pattern, with any default locale, and none for a text. -/
theorem shown_text_and_records_klingon :
    let f := initial.register "x-klingon" ⟨some "%#z", some " klingon "⟩
    let g := initial.withPattern "%Q"
    let t : Instant := ⟨1705314600, 0, by decide⟩
    f.format t "X_Klingon" =
        ⟨"2024-01-15 10:30:00 +00:00",
          [⟨.debug, "datestamp::locale",
            "Unknown locale, using default: Unknown locale: ' klingon '"⟩,
          ⟨.warn, "datestamp::formatter",
            "⚠️ Could not format date, using unformatted value: " ++
              "Failed to render date with pattern '%#z'"⟩]⟩ ∧
      (f.format t "klingon").value = "Monday, January 15, 2024 10:30 AM" ∧
      Pattern.validate (g.patternFor "klingon") ≠ .ok () ∧
      (∀ l : Locale, ({ g with defaultLocale := l }).format t "klingon" = g.format t "klingon") ∧
      (g.format t "klingon").records = [fallbackRecord (.invalidPattern "%Q")] := by
  intro f g t
  have hunusable : Pattern.validate (g.patternFor "klingon") ≠ .ok () := by decide +kernel
  obtain ⟨hvalue, hrecords, -⟩ := shown_text_and_records Locale.sample .utc f t "X_Klingon"
  obtain ⟨hdefault, -, -, -, -⟩ := shown_text_and_records Locale.sample .utc f t "klingon"
  obtain ⟨-, -, -, -, hinvalid⟩ := shown_text_and_records Locale.sample .utc g t "klingon"
  obtain ⟨hfixed, hsame⟩ := hinvalid hunusable
  refine ⟨?_, hdefault.trans (by decide +kernel), hunusable, ?_, congrArg _ hfixed⟩
  · have hboth : f.format t "X_Klingon" = ⟨_, _⟩ := congrArg₂ Log.Logged.mk hvalue hrecords
    exact hboth.trans (by decide +kernel)
  · exact fun l => hsame Locale.sample { g with defaultLocale := l } "klingon" rfl rfl

end Formatter

end LocaleClock
