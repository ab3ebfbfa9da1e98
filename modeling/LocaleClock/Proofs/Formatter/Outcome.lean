import Mathlib.Control.Monad.Basic
import Mathlib.Tactic.Set
import LocaleClock.Formatter.Formatting
import LocaleClock.Proofs.Locale.OwnPatterns
import LocaleClock.Proofs.Pattern.Showing
import LocaleClock.Proofs.Pattern.Validation

/-! What becomes of showing an instant. The pattern alone decides whether it can be used; the
pattern and the locale decide whether it can be shown; the time decides neither. A pattern that can
be used fails to show only through the lenient form of the offset or through an own pattern of the
locale, and what is shown is empty only when every item is silent. -/

namespace LocaleClock

open Pattern (Reads IsSelfContained)
open LocaleClock.Locale (Conventions)

namespace Formatter

variable {zone : TimeZone}

/-! ### One step of showing -/

theorem tryFormatBy_of_usable (table : Locale → Conventions) {f : Formatter} {identifier : String}
    (h : Pattern.validate (f.patternFor identifier) = .ok ()) (t : Instant) :
    (f.tryFormatBy table zone t identifier).value =
      f.render zone (table (f.localeFor identifier).value) t (f.patternFor identifier) := by
  simp only [tryFormatBy, h]
  rfl

theorem tryFormatBy_of_unusable (table : Locale → Conventions) {f : Formatter} {identifier : String}
    {e : FormatError} (h : Pattern.validate (f.patternFor identifier) = .error e) (t : Instant) :
    f.tryFormatBy table zone t identifier =
      .quiet (.error (.invalidPattern (f.patternFor identifier))) := by
  simp only [tryFormatBy, h]
  rw [Pattern.validate_eq_error h]

theorem render_eq_ok_iff {f : Formatter} {c : Conventions} {t : Instant} {pattern text : String} :
    f.render zone c t pattern = .ok text ↔
      Pattern.render? c (f.moment zone t) pattern.toList = some text.toList := by
  unfold render
  split
  case h_1 s h => simp [h, ← String.toList_inj]
  case h_2 h => simp [h]

theorem render_eq_error_iff {f : Formatter} {c : Conventions} {t : Instant} {pattern : String}
    {e : FormatError} :
    f.render zone c t pattern = .error e ↔
      Pattern.render? c (f.moment zone t) pattern.toList = none ∧ e = .unrenderable pattern := by
  unfold render
  split
  case h_1 s h => simp [h]
  case h_2 h => simp [h, eq_comm]

theorem exists_render_eq_ok_iff {f : Formatter} {c : Conventions} {t : Instant} {pattern : String} :
    (∃ text, f.render zone c t pattern = .ok text) ↔
      (Pattern.render? c (f.moment zone t) pattern.toList).isSome := by
  rw [Option.isSome_iff_exists]
  constructor
  · rintro ⟨text, h⟩
    exact ⟨text.toList, render_eq_ok_iff.1 h⟩
  · rintro ⟨s, h⟩
    exact ⟨String.ofList s, render_eq_ok_iff.2 (by rw [h, String.toList_ofList])⟩

/-! ### Patterns that can be used but not shown -/

/-- A pattern that can be used is shown exactly when each of its items can be shown in the locale:
none is the lenient form of the offset, and for each preferred pattern the locale's own one, filled
in, is understood and has only items that can be shown. Otherwise it is reported as one that cannot
be shown. -/
theorem usable_pattern_shown_iff (table : Locale → Conventions)
    (selfContained : ∀ l, IsSelfContained (table l)) (zone : TimeZone) (f : Formatter) (t : Instant)
    (identifier : String) (usable : Pattern.validate (f.patternFor identifier) = .ok ()) :
    ∃ items, Reads (f.patternFor identifier).toList items ∧
      ((∃ text, (f.tryFormatBy table zone t identifier).value = .ok text) ↔
        ∀ item ∈ items, item.isShowableIn (table (f.localeFor identifier).value) = true) ∧
      ((f.tryFormatBy table zone t identifier).value =
          .error (.unrenderable (f.patternFor identifier)) ↔
        ∃ item ∈ items, item.isShowableIn (table (f.localeFor identifier).value) = false) := by
  obtain ⟨items, hread⟩ := Pattern.exists_reads_of_validate usable
  set c := table (f.localeFor identifier).value
  have hshown : (Pattern.render? c (f.moment zone t) (f.patternFor identifier).toList).isSome =
      items.all (·.isShowableIn c) := by
    rw [hread.render?_eq (selfContained _), Pattern.isSome_ownTexts?]
  refine ⟨items, hread, ?_, ?_⟩
  · rw [tryFormatBy_of_usable table usable, exists_render_eq_ok_iff, hshown, List.all_eq_true]
  · rw [tryFormatBy_of_usable table usable, render_eq_error_iff, ← Option.not_isSome_iff_eq_none,
      hshown]
    simp

/-- The pattern `%x, %A %-d. %B %.3f %:z` is shown in Austrian German. -/
theorem usable_pattern_shown_iff_austrian :
    let f := initial.withPattern "%x, %A %-d. %B %.3f %:z"
    let t : Instant := ⟨-8334601228800, 999999999, by decide⟩
    (∀ l : Locale, IsSelfContained l.sample) ∧
      Pattern.validate (f.patternFor "de-AT") = .ok () ∧
      ∃ items, Reads (f.patternFor "de-AT").toList items ∧
        ((∃ text, (f.tryFormat t "de-AT").value = .ok text) ↔
          ∀ item ∈ items, item.isShowableIn (f.localeFor "de-AT").value.sample = true) ∧
        ((f.tryFormat t "de-AT").value = .error (.unrenderable (f.patternFor "de-AT")) ↔
          ∃ item ∈ items, item.isShowableIn (f.localeFor "de-AT").value.sample = false) := by
  intro f t
  have usable : Pattern.validate (f.patternFor "de-AT") = .ok () := by decide +kernel
  exact ⟨Pattern.sample_isSelfContained, usable,
    usable_pattern_shown_iff Locale.sample Pattern.sample_isSelfContained .utc f t "de-AT" usable⟩

/-- Two patterns that can be used but not shown: the lenient form of the offset anywhere, and the
date of a locale that writes it in other numerals. -/
theorem usable_pattern_not_shown :
    let t : Instant := ⟨0, 0, by decide⟩
    Pattern.validate "%#z" = .ok () ∧
      ((initial.withPattern "%#z").tryFormat t "en").value = .error (.unrenderable "%#z") ∧
      Pattern.validate "%x" = .ok () ∧
      ((initial.withPattern "%x").tryFormat t "az_IR").value = .error (.unrenderable "%x") := by
  decide +kernel

/-! ### The time does not matter -/

/-- Whether an instant can be shown, and why not, is the same for all instants and offsets. -/
theorem outcome_same_at_all_times (table : Locale → Conventions) (zone : TimeZone) (f : Formatter)
    (identifier : String) (t₁ t₂ : Instant) (o₁ o₂ : Offset) :
    let outcome := fun t o => ((f.withOffset o).tryFormatBy table zone t identifier).value
    ((∃ text, outcome t₁ o₁ = .ok text) ↔ ∃ text, outcome t₂ o₂ = .ok text) ∧
      ∀ e, outcome t₁ o₁ = .error e →
        outcome t₂ o₂ = .error e ∧
          (e = .invalidPattern (f.patternFor identifier) ∨
            e = .unrenderable (f.patternFor identifier)) := by
  intro outcome
  cases h : Pattern.validate (f.patternFor identifier) with
  | error e =>
    have houtcome : ∀ t o, outcome t o = .error (.invalidPattern (f.patternFor identifier)) := by
      intro t o
      exact congrArg Log.Logged.value (tryFormatBy_of_unusable (f := f.withOffset o) table h t)
    rw [houtcome, houtcome]
    refine ⟨Iff.rfl, ?_⟩
    intro e he
    cases he
    exact ⟨rfl, .inl rfl⟩
  | ok u =>
    set c := table (f.localeFor identifier).value
    have houtcome : ∀ t o,
        outcome t o = (f.withOffset o).render zone c t (f.patternFor identifier) := by
      intro t o
      exact tryFormatBy_of_usable (f := f.withOffset o) table h t
    have hsame := Pattern.isSome_render?_eq c ((f.withOffset o₁).moment zone t₁)
      ((f.withOffset o₂).moment zone t₂) (f.patternFor identifier).toList
    rw [houtcome, houtcome]
    refine ⟨by rw [exists_render_eq_ok_iff, exists_render_eq_ok_iff, hsame], ?_⟩
    intro e he
    obtain ⟨hnone, rfl⟩ := render_eq_error_iff.1 he
    have hnone₂ : Pattern.render? c ((f.withOffset o₂).moment zone t₂)
        (f.patternFor identifier).toList = none := by
      rw [← Option.not_isSome_iff_eq_none, ← hsame, hnone]
      simp
    exact ⟨render_eq_error_iff.2 ⟨hnone₂, rfl⟩, .inr rfl⟩

/-! ### Empty texts -/

theorem value_formatBy (table : Locale → Conventions) (f : Formatter) (t : Instant)
    (identifier : String) :
    (f.formatBy table zone t identifier).value =
      match (f.tryFormatBy table zone t identifier).value with
      | .ok text => text
      | .error _ => f.unformattedIn zone t := by
  unfold formatBy Log.Logged.andThen
  cases (f.tryFormatBy table zone t identifier).value <;> rfl

theorem unformattedIn_ne_empty (f : Formatter) (t : Instant) : f.unformattedIn zone t ≠ "" := by
  intro h
  have hchars := congrArg String.toList h
  simp [unformattedIn] at hchars

/-- Only what the pattern gives can be empty, the fixed form never is. -/
theorem value_formatBy_eq_empty_iff {table : Locale → Conventions} {f : Formatter} {t : Instant}
    {identifier : String} :
    (f.formatBy table zone t identifier).value = "" ↔
      (f.tryFormatBy table zone t identifier).value = .ok "" := by
  rw [value_formatBy]
  cases (f.tryFormatBy table zone t identifier).value with
  | ok text => simp
  | error e => simp [unformattedIn_ne_empty]

/-- Holds when the pattern for an identifier can be used and all its items are silent in the locale
at an instant. -/
def ShowsNothing (table : Locale → Conventions) (zone : TimeZone) (f : Formatter) (t : Instant)
    (identifier : String) : Prop :=
  Pattern.validate (f.patternFor identifier) = .ok () ∧
    ∃ items, Reads (f.patternFor identifier).toList items ∧
      ∀ item ∈ items,
        item.isSilentIn (table (f.localeFor identifier).value) (f.moment zone t) = true

theorem tryFormatBy_eq_empty_iff {table : Locale → Conventions}
    (selfContained : ∀ l, IsSelfContained (table l)) {f : Formatter} {t : Instant}
    {identifier : String} (usable : Pattern.validate (f.patternFor identifier) = .ok ())
    {items : List Pattern.Item} (hread : Reads (f.patternFor identifier).toList items) :
    (f.tryFormatBy table zone t identifier).value = .ok "" ↔
      ∀ item ∈ items,
        item.isSilentIn (table (f.localeFor identifier).value) (f.moment zone t) = true := by
  rw [tryFormatBy_of_usable table usable, render_eq_ok_iff, hread.render?_eq (selfContained _),
    String.toList_empty, Pattern.ownTexts?_eq_nil_iff, List.all_eq_true]

/-- What is shown is empty exactly when every item of the pattern is silent: it is the fraction of a
whole second, a word that the locale does not have, or a preferred pattern for which the locale's
own one, filled in, has only such items. -/
theorem shown_text_empty_iff (table : Locale → Conventions)
    (selfContained : ∀ l, IsSelfContained (table l)) (zone : TimeZone) (f : Formatter) (t : Instant)
    (identifier : String) :
    ((f.formatBy table zone t identifier).value = "" ↔ f.ShowsNothing table zone t identifier) ∧
      ((f.currentBy table zone t identifier).value = "" ↔
        f.ShowsNothing table zone (f.clock.read t) identifier) := by
  have hformat : ∀ t, (f.formatBy table zone t identifier).value = "" ↔
      f.ShowsNothing table zone t identifier := by
    intro t
    rw [value_formatBy_eq_empty_iff]
    cases h : Pattern.validate (f.patternFor identifier) with
    | error e =>
      rw [tryFormatBy_of_unusable table h]
      simp [ShowsNothing, Log.Logged.quiet, h]
    | ok u =>
      constructor
      · intro hempty
        obtain ⟨items, hread⟩ := Pattern.exists_reads_of_validate h
        exact ⟨h, items, hread, (tryFormatBy_eq_empty_iff selfContained h hread).1 hempty⟩
      · rintro ⟨-, items, hread, hsilent⟩
        exact (tryFormatBy_eq_empty_iff selfContained h hread).2 hsilent
  exact ⟨hformat t, hformat (f.clock.read t)⟩

/-- The half of the day in German with a fraction, a quarter of a second after the epoch. -/
theorem shown_text_empty_iff_german :
    let f := initial.withPattern "%p%.f"
    let t : Instant := ⟨0, 250000000, by decide⟩
    (∀ l : Locale, IsSelfContained l.sample) ∧
      ((f.format t "de").value = "" ↔ f.ShowsNothing Locale.sample .utc t "de") ∧
      ((f.current t "de").value = "" ↔
        f.ShowsNothing Locale.sample .utc (f.clock.read t) "de") := by
  intro f t
  exact ⟨Pattern.sample_isSelfContained,
    shown_text_empty_iff Locale.sample Pattern.sample_isSelfContained .utc f t "de"⟩

/-- Two patterns that show nothing: the half of the day in a language that does not name it, and the
fraction of a whole second. -/
theorem shown_text_empty :
    let t : Instant := ⟨0, 0, by decide⟩
    ((initial.withPattern "%p").format t "de").value = "" ∧
      ((initial.withPattern "%.f").format t "en").value = "" := by
  decide +kernel

end Formatter

end LocaleClock
