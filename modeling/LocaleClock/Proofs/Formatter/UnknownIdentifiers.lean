import LocaleClock.Proofs.Formatter.Reporting
import LocaleClock.Proofs.Locale.Resolution

/-! Identifiers that mean no locale. The name of a locale means that locale, with a modifier or
without a region too, so there are two ways to the default locale: its own name, which is resolved,
and an identifier that is not. Both show the same. -/

namespace LocaleClock

open Customization (lookupKey languageKey)
open LocaleClock.Locale (Conventions)

/-! ### Names -/

namespace Locale

open Text

theorem names_not_blank : ∀ name ∈ names, name.toList.any isBlank = false := by
  simp only [← charactersOf_eq]
  decide +kernel

theorem bare_name (l : Locale) : bare l.name = l.name := by
  have hblank : ∀ c ∈ l.name.toList, isBlank c = false := by
    simpa using names_not_blank l.name l.known
  rw [bare, trim_eq_self hblank, String.ofList_toList]

theorem find?_name (l : Locale) : find? l.name = some l := by
  rw [find?_eq_or, bare_name, ofName?_name, Option.some_or]

theorem find?_eq_none_of_resolve {identifier : String} {e : FormatError}
    (h : resolve identifier = .error e) : find? identifier = none := by
  unfold resolve at h
  split at h
  case h_1 => cases h
  case h_2 hnone => exact hnone

end Locale

namespace Formatter

/-! ### Identifiers without customizations -/

/-- Holds of an identifier for which nothing is registered, nor for its language. -/
structure IsUncustomized (f : Formatter) (identifier : String) : Prop where
  own : f.customization? identifier = none
  language : f.customizations.find? (languageKey (lookupKey identifier)) = none

namespace IsUncustomized

variable {zone : TimeZone} {f : Formatter} {identifier : String}

theorem patternFor_eq (h : f.IsUncustomized identifier) : f.patternFor identifier = f.pattern := by
  rw [Formatter.patternFor_eq, h.own, h.language]
  rfl

theorem baseOf_eq (h : f.IsUncustomized identifier) : f.baseOf identifier = identifier := by
  rw [baseOf, h.own]
  rfl

/-- Only the locale and the formatter's pattern are left to matter. -/
theorem value_tryFormatBy (h : f.IsUncustomized identifier) (table : Locale → Conventions)
    (t : Instant) :
    (f.tryFormatBy table zone t identifier).value =
      match Pattern.validate f.pattern with
      | .error e => .error e
      | .ok () =>
        f.render zone (table ((Locale.find? identifier).getD f.defaultLocale)) t f.pattern := by
  cases hvalidate : Pattern.validate f.pattern with
  | error e =>
    have hunusable : Pattern.validate (f.patternFor identifier) = .error e := by
      rw [h.patternFor_eq, hvalidate]
    rw [tryFormatBy_of_unusable table hunusable, ← Pattern.validate_eq_error hunusable]
    rfl
  | ok u =>
    have husable : Pattern.validate (f.patternFor identifier) = .ok () := by
      rw [h.patternFor_eq, hvalidate]
    rw [value_tryFormatBy_of_usable table husable, h.patternFor_eq, h.baseOf_eq]

theorem records_tryFormatBy (h : f.IsUncustomized identifier) (table : Locale → Conventions)
    (t : Instant) :
    (f.tryFormatBy table zone t identifier).records =
      if Pattern.validate f.pattern = .ok () ∧ Locale.find? identifier = none then
        [Locale.fallbackRecord (.unknownLocale identifier)]
      else [] := by
  rw [Formatter.records_tryFormatBy, h.patternFor_eq, h.baseOf_eq]

end IsUncustomized

/-- Every locale has a name that means it, and an identifier that means no locale is shown like the
name of the default locale, at every instant, where nothing is registered for either or for their
languages. What differs is one record, that of the identifier. -/
theorem unknown_identifier_shown_like_default :
    (∀ l : Locale, Locale.resolve l.name = .ok l) ∧
      ∀ (table : Locale → Conventions) (zone : TimeZone) (f : Formatter)
        (unknown : String) (e : FormatError),
        Locale.resolve unknown = .error e → f.IsUncustomized unknown →
        f.IsUncustomized f.defaultLocale.name →
        ∀ t : Instant,
          let tried := f.tryFormatBy table zone t
          (tried unknown).value = (tried f.defaultLocale.name).value ∧
            (f.formatBy table zone t unknown).value =
              (f.formatBy table zone t f.defaultLocale.name).value ∧
            (tried unknown).records =
              (if Pattern.validate f.pattern = .ok () then
                [Locale.fallbackRecord (.unknownLocale unknown)] else []) ∧
            (tried f.defaultLocale.name).records = [] := by
  refine ⟨fun l => Locale.resolve_eq_ok_iff.2 l.find?_name, ?_⟩
  intro table zone f unknown e hunknown hfree hname t tried
  have hnone : Locale.find? unknown = none := Locale.find?_eq_none_of_resolve hunknown
  have hsame : (tried unknown).value = (tried f.defaultLocale.name).value := by
    rw [hfree.value_tryFormatBy, hname.value_tryFormatBy, hnone, Locale.find?_name]
    rfl
  refine ⟨hsame, ?_, ?_, ?_⟩
  · rw [value_formatBy, value_formatBy, hsame]
  · rw [hfree.records_tryFormatBy]
    simp only [hnone, and_true]
  · rw [hname.records_tryFormatBy, Locale.find?_name]
    simp

/-- Serbian in Latin letters as the default, whose name has a modifier, with something registered
for another language, and the neutral locale, whose name has no region. -/
theorem unknown_identifier_shown_like_default_serbian :
    let f : Formatter := { (initial.withPattern "%A, %d. %B").register "de" ⟨some "%x", none⟩ with
      defaultLocale := ⟨"sr_RS@latin", by decide⟩ }
    let g : Formatter := { initial with defaultLocale := ⟨"POSIX", by decide⟩ }
    let t : Instant := ⟨1705314600, 0, by decide⟩
    Locale.resolve "Klingon_KL" = .error (.unknownLocale "Klingon_KL") ∧
      f.IsUncustomized "Klingon_KL" ∧ f.IsUncustomized "sr_RS@latin" ∧
      (f.tryFormat t "Klingon_KL").value = (f.tryFormat t "sr_RS@latin").value ∧
      (f.tryFormat t "Klingon_KL").value = .ok "ponedeljak, 15. januar" ∧
      (g.format t "Klingon_KL").value = (g.format t "POSIX").value := by
  intro f g t
  have hunknown : Locale.resolve "Klingon_KL" = .error (.unknownLocale "Klingon_KL") := by
    decide +kernel
  have hfree : f.IsUncustomized "Klingon_KL" := ⟨by decide +kernel, by decide +kernel⟩
  have hname : f.IsUncustomized "sr_RS@latin" := ⟨by decide +kernel, by decide +kernel⟩
  have hnone : ∀ identifier, g.IsUncustomized identifier := fun _ => ⟨rfl, rfl⟩
  obtain ⟨-, hshown⟩ := unknown_identifier_shown_like_default
  have hserbian := hshown Locale.sample .utc f "Klingon_KL" _ hunknown hfree hname t
  have hneutral := hshown Locale.sample .utc g "Klingon_KL" _ hunknown (hnone _) (hnone _) t
  exact ⟨hunknown, hfree, hname, hserbian.1, by decide +kernel, hneutral.2.1⟩

end Formatter

end LocaleClock
