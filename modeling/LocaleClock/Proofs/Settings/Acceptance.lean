import Mathlib.Control.Monad.Basic
import LocaleClock.Log.Logger
import LocaleClock.Proofs.CommandLine.Options
import LocaleClock.Proofs.Formatter.Outcome
import LocaleClock.Proofs.Text.Trimming

/-! Accepted settings cause no failure later. Their level is a level for the logger, they give a
formatter, and that formatter keeps an invariant: each pattern it may use can be used and each base
in it means a locale. Registering a section keeps the invariant, whatever keys fall together, and so
does an option of the command line that is accepted. -/

namespace LocaleClock

open LocaleClock.Locale (Conventions)

/-! ### Levels -/

namespace Text

/-- Capital letters are not blank, so lower case does not change what is. -/
theorem isBlank_toLower {c : Char} (h : isBlank c = true) : isBlank c.toLower = true := by
  have hcapital : ¬ (c.val ≥ 'A'.val ∧ c.val ≤ 'Z'.val) := by
    intro hcapital
    have hlow : 65 ≤ c.toNat := UInt32.le_iff_toNat_le.1 hcapital.1
    have hhigh : c.toNat ≤ 90 := UInt32.le_iff_toNat_le.1 hcapital.2
    simp only [isBlank, Bool.or_eq_true, Bool.and_eq_true, decide_eq_true_eq, beq_iff_eq] at h
    omega
  have hsame : c.toLower = c := dif_neg hcapital
  rw [hsame, h]

end Text

namespace Log.Threshold

theorem isBlank_name (t : Threshold) :
    ∀ c ∈ Text.asciiLower t.name.toList, Text.isBlank c = false := by
  have hall : (Text.asciiLower t.name.toList).all (fun c => !Text.isBlank c) = true := by
    cases t with
    | off => decide
    | upTo s => cases s <;> decide
  simpa only [List.all_eq_true, Bool.not_eq_true'] using hall

/-- The name of a threshold has no white space in it, so trimming does not change it. -/
theorem parse?_of_ofName? {name : String} {t : Threshold} (h : ofName? name = some t) :
    parse? name = some t := by
  have hletters : Text.asciiLower t.name.toList = Text.asciiLower name.toList := by
    simpa [Text.sameLetters] using List.find?_some h
  have hblank : ∀ c ∈ name.toList, Text.isBlank c = false := by
    intro c hc
    have hlower : c.toLower ∈ Text.asciiLower t.name.toList := by
      rw [hletters]
      exact List.mem_map_of_mem hc
    have hname := isBlank_name t _ hlower
    by_contra hne
    rw [Bool.not_eq_false] at hne
    rw [Text.isBlank_toLower hne] at hname
    cases hname
  unfold parse?
  rw [Text.trim_eq_self hblank, String.ofList_toList, h]

end Log.Threshold

/-! ### The invariant -/

/-- Holds of a customization whose pattern can be used and whose base means a locale. -/
structure Customization.IsUsable (c : Customization) : Prop where
  format : ∀ p, c.format = some p → Pattern.validate p = .ok ()
  base : ∀ b, c.base = some b → ∃ l, Locale.resolve b = .ok l

namespace Formatter

/-- Holds of a formatter whose pattern and customizations can be used. -/
structure IsUsable (f : Formatter) : Prop where
  pattern : Pattern.validate f.pattern = .ok ()
  customizations : ∀ key c, f.customizations.find? key = some c → c.IsUsable

namespace IsUsable

variable {f g : Formatter}

theorem withOffset (h : f.IsUsable) (o : Offset) : (f.withOffset o).IsUsable :=
  ⟨h.pattern, h.customizations⟩

theorem register (h : f.IsUsable) (identifier : String) {c : Customization} (hc : c.IsUsable) :
    (f.register identifier c).IsUsable := by
  refine ⟨h.pattern, ?_⟩
  intro key d hd
  rw [Formatter.register, Registry.find?_insert] at hd
  split at hd
  · cases hd
    exact hc
  · exact h.customizations key d hd

theorem registerAll (h : f.IsUsable) {entries : List (String × Customization)}
    (he : ∀ e ∈ entries, e.2.IsUsable) :
    (entries.foldl (fun f e => f.register e.1 e.2) f).IsUsable := by
  induction entries generalizing f with
  | nil => exact h
  | cons e entries ih =>
    obtain ⟨hfirst, hrest⟩ := List.forall_mem_cons.1 he
    exact ih (h.register e.1 hfirst) hrest

theorem validate_patternFor (h : f.IsUsable) (identifier : String) :
    Pattern.validate (f.patternFor identifier) = .ok () := by
  unfold Formatter.patternFor
  dsimp only
  cases hown : List.findSome? _ _ with
  | none => exact h.pattern
  | some p =>
    obtain ⟨key, -, hkey⟩ := List.exists_of_findSome?_eq_some hown
    obtain ⟨c, hc, hp⟩ := Option.bind_eq_some_iff.1 hkey
    exact (h.customizations key c hc).format p hp

theorem exists_resolve (h : f.IsUsable) {identifier base : String}
    (hb : (f.customization? identifier).bind Customization.base = some base) :
    ∃ l, Locale.resolve base = .ok l := by
  obtain ⟨c, hc, hbase⟩ := Option.bind_eq_some_iff.1 hb
  exact (h.customizations _ c hc).base base hbase

/-! ### Options of the command line -/

theorem override (h : f.IsUsable) {a : CommandLine.Arguments} (hg : f.override a = .ok g) :
    g.IsUsable := by
  obtain ⟨hformat, o, -, rfl⟩ := override_eq_ok_iff.1 hg
  refine ⟨?_, h.customizations⟩
  cases hp : a.format with
  | none => exact h.pattern
  | some p => exact hformat p hp

theorem overrideAll (h : f.IsUsable) {options : List CommandLine.Arguments}
    (hg : options.foldlM Formatter.override f = .ok g) : g.IsUsable := by
  induction options generalizing f with
  | nil =>
    cases hg
    exact h
  | cons a options ih =>
    rw [List.foldlM_cons] at hg
    obtain ⟨f', hfirst, hrest⟩ := bind_eq_ok_iff.1 hg
    exact ih (h.override hfirst) hrest

end IsUsable

/-! ### Formatters of accepted settings -/

theorem withDefaultLocale_of_resolve {f : Formatter} {identifier : String} {l : Locale}
    (h : Locale.resolve identifier = .ok l) :
    f.withDefaultLocale identifier = .ok { f with defaultLocale := l } := by
  unfold withDefaultLocale
  rw [h]
  rfl

theorem exists_ofSettings {s : Settings} (accepted : s.validate = .ok ()) :
    ∃ f, ofSettings s = .ok f ∧ f.IsUsable := by
  obtain ⟨hformat, ⟨l, hl⟩, hoffset, hsections, -⟩ := Settings.validate_eq_ok_iff.1 accepted
  have hentries : ∀ e ∈ s.locales.entries, e.2.IsUsable := by
    intro e he
    obtain ⟨-, hpattern, hbase⟩ := Settings.validateSection_eq_ok_iff.1 (hsections e he)
    exact ⟨hpattern, hbase⟩
  have hstart : IsUsable { initial.withPattern s.formatting.format with defaultLocale := l } :=
    ⟨hformat, fun key c hc => by cases hc⟩
  unfold ofSettings
  rw [withDefaultLocale_of_resolve hl]
  cases htext : s.formatting.utcOffset with
  | none => exact ⟨_, rfl, hstart.registerAll hentries⟩
  | some text =>
    obtain ⟨o, ho⟩ := hoffset text htext
    refine ⟨_, ?_, (hstart.withOffset o).registerAll hentries⟩
    simp only [ho]
    rfl

/-- Holds of a formatter that finds no pattern invalid, and that shows an identifier with a base in
the locale of its base, with no record made. -/
structure IsFaultless (table : Locale → Conventions) (zone : TimeZone) (f : Formatter) : Prop where
  pattern : ∀ t identifier pattern,
    (f.tryFormatBy table zone t identifier).value ≠ .error (.invalidPattern pattern)
  base : ∀ t identifier base, (f.customization? identifier).bind Customization.base = some base →
    ∃ l, Locale.resolve base = .ok l ∧
      f.tryFormatBy table zone t identifier =
        .quiet (f.render zone (table l) t (f.patternFor identifier))

theorem localeFor_of_base {f : Formatter} {identifier base : String} {l : Locale}
    (hb : (f.customization? identifier).bind Customization.base = some base)
    (hl : Locale.resolve base = .ok l) : f.localeFor identifier = .quiet l := by
  unfold localeFor baseOf Locale.resolveOr
  rw [hb, Option.getD_some, hl]

theorem IsUsable.isFaultless {f : Formatter} (h : f.IsUsable) (table : Locale → Conventions)
    (zone : TimeZone) : f.IsFaultless table zone := by
  constructor
  case pattern =>
    intro t identifier pattern herror
    rw [tryFormatBy_of_usable table (h.validate_patternFor identifier)] at herror
    cases (render_eq_error_iff.1 herror).2
  case base =>
    intro t identifier base hb
    obtain ⟨l, hl⟩ := h.exists_resolve hb
    refine ⟨l, hl, ?_⟩
    unfold tryFormatBy
    simp only [h.validate_patternFor identifier, localeFor_of_base hb hl]
    rfl

/-- Accepted settings cause no failure of their own: their level is a level for the logger, they
give a formatter, and it is faultless, also after any accepted options of the command line. -/
theorem accepted_settings_cause_no_failure (table : Locale → Conventions) (zone : TimeZone)
    (s : Settings) (accepted : s.validate = .ok ()) :
    (∃ threshold, Log.parseLevel s.logging.level = .ok threshold) ∧
      ∃ f, ofSettings s = .ok f ∧
        ∀ (options : List CommandLine.Arguments) (g : Formatter),
          options.foldlM override f = .ok g → g.IsFaultless table zone := by
  constructor
  · obtain ⟨-, -, -, -, t, ht⟩ := Settings.validate_eq_ok_iff.1 accepted
    refine ⟨t, ?_⟩
    unfold Log.parseLevel
    rw [Log.Threshold.parse?_of_ofName? ht]
  · obtain ⟨f, hf, husable⟩ := exists_ofSettings accepted
    exact ⟨f, hf, fun options g hg => (husable.overrideAll hg).isFaultless table zone⟩

/-- Settings with two identifiers of one key, of which the later one counts, and one for their
language. -/
theorem accepted_settings_cause_no_failure_pirate :
    let s : Settings := {
      formatting := ⟨"%A, %-d. %B %Y", " de-AT ", some "+05:30"⟩
      locales := .ofList [("X-Pirate", ⟨none, some "en_GB"⟩), ("x_pirate", ⟨some "%c", some "sv"⟩),
        ("x", ⟨some "%x", none⟩)]
      logging := ⟨true, "Warn", none⟩ }
    s.validate = .ok () ∧
      (ofSettings s).map (fun f => (f.customization? "x-PIRATE").bind Customization.base) =
        .ok (some "sv") ∧
      (∃ threshold, Log.parseLevel s.logging.level = .ok threshold) ∧
      ∃ f, ofSettings s = .ok f ∧
        ∀ (options : List CommandLine.Arguments) (g : Formatter),
          options.foldlM override f = .ok g → g.IsFaultless Locale.sample .utc := by
  intro s
  have accepted : s.validate = .ok () := by decide +kernel
  have based : (ofSettings s).map
      (fun f => (f.customization? "x-PIRATE").bind Customization.base) = .ok (some "sv") := by
    decide +kernel
  exact ⟨accepted, based, accepted_settings_cause_no_failure Locale.sample .utc s accepted⟩

end Formatter

end LocaleClock
