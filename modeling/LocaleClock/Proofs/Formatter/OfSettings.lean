import LocaleClock.Proofs.Formatter.Runs
import LocaleClock.Proofs.Settings.Checks

/-! The formatter that settings describe. It is what the registrations of the sections make of a
formatter with the pattern, the default locale and the offset of the settings, so of several
identifiers with one key the last counts. -/

namespace LocaleClock

open Customization (lookupKey languageKey)

/-! ### Sections by key -/

namespace Settings.Sections

def customization? (s : Sections) (key : String) : Option Customization :=
  (s.entries.filterMap fun e => if lookupKey e.1 = key then some e.2 else none).getLast?

/-- The pattern that is set for an identifier: its own, else the one of its language. -/
def format? (s : Sections) (identifier : String) : Option String :=
  ((s.customization? (lookupKey identifier)).bind Customization.format).or
    ((s.customization? (languageKey (lookupKey identifier))).bind Customization.format)

def baseOf (s : Sections) (identifier : String) : String :=
  ((s.customization? (lookupKey identifier)).bind Customization.base).getD identifier

def registrations (s : Sections) : List Formatter.Step :=
  s.entries.map fun e => .register e.1 e.2

def registry (s : Sections) : Registry :=
  s.entries.foldl (fun r e => r.insert (lookupKey e.1) e.2) .empty

theorem last?_registrations (s : Sections) (key : String) :
    Formatter.Step.last? (Formatter.Step.customization? key) s.registrations =
      s.customization? key := by
  have hread : (Formatter.Step.customization? key ∘ fun e : String × Customization =>
      .register e.1 e.2) = fun e => if lookupKey e.1 = key then some e.2 else none := by
    funext e
    rw [Function.comp_apply, Formatter.Step.customization?]
  rw [Formatter.Step.last?, registrations, List.filterMap_map, hread, customization?]

theorem last?_registrations_eq_none (s : Sections) {α : Type} {read? : Formatter.Step → Option α}
    (h : ∀ identifier c, read? (.register identifier c) = none) :
    Formatter.Step.last? read? s.registrations = none := by
  have hnone : s.registrations.filterMap read? = [] := by
    rw [registrations, List.filterMap_map, List.filterMap_eq_nil_iff]
    exact fun e _ => h e.1 e.2
  rw [Formatter.Step.last?, hnone, List.getLast?_nil]

end Settings.Sections

namespace Formatter

variable {s : Settings} {f : Formatter}

theorem foldl_register (f : Formatter) (entries : List (String × Customization)) :
    entries.foldl (fun f e => f.register e.1 e.2) f =
      f.applyAll (entries.map fun e => .register e.1 e.2) := by
  rw [applyAll, List.foldl_map]
  rfl

/-- Settings describe a formatter when their default locale is one and their offset, if they have
one, can be read. -/
theorem ofSettings_eq (s : Settings) :
    ofSettings s = do
      let l ← Locale.resolve s.formatting.defaultLocale
      let o ← s.formatting.utcOffset.mapM Offset.parse
      return (Formatter.mk s.formatting.format l o .empty .system).applyAll
        s.locales.registrations := by
  have hregister : ∀ g : Formatter, s.locales.entries.foldl (fun f e => f.register e.1 e.2) g =
      g.applyAll s.locales.registrations := fun g => foldl_register g _
  unfold ofSettings withDefaultLocale
  simp only [hregister]
  cases Locale.resolve s.formatting.defaultLocale with
  | error e => rfl
  | ok l =>
    cases s.formatting.utcOffset with
    | none => rfl
    | some text =>
      simp only [Option.mapM_some]
      cases Offset.parse text with
      | error e => rfl
      | ok o => rfl

/-- Registrations look at the customizations alone. -/
theorem applyAll_registrations (f : Formatter) (s : Settings.Sections)
    (h : f.customizations = .empty) :
    f.applyAll s.registrations = { f with customizations := s.registry } := by
  have hfold : ∀ (entries : List (String × Customization)) (r : Registry),
      entries.foldl (fun f e => f.register e.1 e.2) { f with customizations := r } =
        { f with customizations := entries.foldl (fun r e => r.insert (lookupKey e.1) e.2) r } := by
    intro entries
    induction entries with
    | nil => exact fun r => rfl
    | cons e entries ih => exact fun r => ih (r.insert (lookupKey e.1) e.2)
  calc
    f.applyAll s.registrations = s.entries.foldl (fun f e => f.register e.1 e.2) f :=
      (foldl_register f s.entries).symm
    _ = s.entries.foldl (fun f e => f.register e.1 e.2) { f with customizations := .empty } := by
      rw [← h]
    _ = { f with customizations := s.registry } := hfold s.entries .empty

theorem ofSettings_eq_ok_iff :
    ofSettings s = .ok f ↔
      ∃ l o, Locale.resolve s.formatting.defaultLocale = .ok l ∧
        s.formatting.utcOffset.mapM Offset.parse = .ok o ∧
        f = ⟨s.formatting.format, l, o, s.locales.registry, .system⟩ := by
  have hregister : ∀ l o, (Formatter.mk s.formatting.format l o .empty .system).applyAll
      s.locales.registrations = ⟨s.formatting.format, l, o, s.locales.registry, .system⟩ :=
    fun l o => applyAll_registrations _ _ rfl
  rw [ofSettings_eq]
  simp only [bind_eq_ok_iff, hregister]
  constructor
  · rintro ⟨l, hl, o, ho, h⟩
    exact ⟨l, o, hl, ho, (Except.ok.inj h).symm⟩
  · rintro ⟨l, o, hl, ho, rfl⟩
    exact ⟨l, hl, o, ho, rfl⟩

theorem exists_of_ofSettings (h : ofSettings s = .ok f) :
    ∃ l o, Locale.resolve s.formatting.defaultLocale = .ok l ∧
      s.formatting.utcOffset.mapM Offset.parse = .ok o ∧
      f = (Formatter.mk s.formatting.format l o .empty .system).applyAll
        s.locales.registrations := by
  rw [ofSettings_eq] at h
  obtain ⟨l, hl, h⟩ := bind_eq_ok_iff.1 h
  obtain ⟨o, ho, h⟩ := bind_eq_ok_iff.1 h
  exact ⟨l, o, hl, ho, (Except.ok.inj h).symm⟩

/-- Of the identifiers with one key the last counts. -/
theorem find?_of_ofSettings (h : ofSettings s = .ok f) (key : String) :
    f.customizations.find? key = s.locales.customization? key := by
  obtain ⟨l, o, -, -, rfl⟩ := exists_of_ofSettings h
  rw [find?_applyAll, Settings.Sections.last?_registrations]
  exact Option.or_none

theorem defaultLocale_of_ofSettings (h : ofSettings s = .ok f) :
    Locale.resolve s.formatting.defaultLocale = .ok f.defaultLocale := by
  obtain ⟨l, o, hl, -, rfl⟩ := exists_of_ofSettings h
  rw [applyAll_getD _ defaultLocale_applyOrKeep,
    s.locales.last?_registrations_eq_none fun _ _ => rfl]
  exact hl

theorem clock_of_ofSettings (h : ofSettings s = .ok f) : f.clock = .system := by
  obtain ⟨l, o, -, -, rfl⟩ := exists_of_ofSettings h
  rw [applyAll_getD _ clock_applyOrKeep, s.locales.last?_registrations_eq_none fun _ _ => rfl]
  rfl

end Formatter

end LocaleClock
