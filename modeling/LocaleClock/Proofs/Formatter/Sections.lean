import LocaleClock.Proofs.Formatter.OfSettings
import LocaleClock.Proofs.Text.ByteOrder

/-! Which sections of the settings count. Several identifiers may have one lookup key. Sections are
registered in the order of the bytes of their identifiers and a registration takes the place of the
one before it, so the section whose identifier has the greatest bytes prevails over the others with
its key. A formatter has the customizations of the sections that prevail and no others. -/

namespace LocaleClock

open Customization (lookupKey)
open Text (bytesOf)

namespace Settings.Sections

/-! ### Prevailing sections -/

/-- Holds of the section whose identifier has the greatest bytes among those with a lookup key. -/
structure Prevails (s : Sections) (key : String) (e : String × Customization) : Prop where
  mem : e ∈ s.entries
  lookupKey_eq : lookupKey e.1 = key
  greatest : ∀ other ∈ s.entries, lookupKey other.1 = key →
    other = e ∨ bytesOf other.1 < bytesOf e.1

instance (s : Sections) (key : String) (e : String × Customization) :
    Decidable (s.Prevails key e) :=
  decidable_of_iff
    (e ∈ s.entries ∧ lookupKey e.1 = key ∧ ∀ other ∈ s.entries, lookupKey other.1 = key →
      other = e ∨ bytesOf other.1 < bytesOf e.1)
    ⟨fun ⟨hmem, hkey, hgreatest⟩ => ⟨hmem, hkey, hgreatest⟩,
      fun h => ⟨h.mem, h.lookupKey_eq, h.greatest⟩⟩

variable {s : Sections} {key : String}

/-- The last section with a key is the one that prevails. -/
theorem prevails_iff_split {e : String × Customization} :
    s.Prevails key e ↔
      ∃ before after, s.entries = before ++ e :: after ∧ lookupKey e.1 = key ∧
        ∀ x ∈ after, lookupKey x.1 ≠ key := by
  constructor
  · intro h
    obtain ⟨before, after, hsplit⟩ := List.append_of_mem h.mem
    refine ⟨before, after, hsplit, h.lookupKey_eq, fun x hx hkey => ?_⟩
    have hincreasing := s.increasing
    rw [hsplit, List.pairwise_append, List.pairwise_cons] at hincreasing
    have hlt : e.1 < x.1 := hincreasing.2.1.1 x hx
    have hmem : x ∈ s.entries := by simp [hsplit, hx]
    rcases h.greatest x hmem hkey with rfl | hback
    · exact String.lt_irrefl _ hlt
    · exact String.lt_asymm hlt (Text.bytesOf_lt_iff.1 hback)
  · rintro ⟨before, after, hsplit, hkey, hafter⟩
    have hincreasing := s.increasing
    rw [hsplit, List.pairwise_append] at hincreasing
    refine ⟨by simp [hsplit], hkey, fun other hother hsame => ?_⟩
    rw [hsplit] at hother
    rcases List.mem_append.1 hother with hbefore | hother
    · exact .inr (Text.bytesOf_lt_iff.2 (hincreasing.2.2 other hbefore e List.mem_cons_self))
    · rcases List.mem_cons.1 hother with rfl | hlater
      · exact .inl rfl
      · exact absurd hsame (hafter other hlater)

theorem customization?_eq_some_iff {c : Customization} :
    s.customization? key = some c ↔ ∃ identifier, s.Prevails key (identifier, c) := by
  have hfind : s.customization? key =
      s.entries.reverse.findSome? fun e => if lookupKey e.1 = key then some e.2 else none :=
    List.getLast?_filterMap
  rw [hfind, List.findSome?_eq_some_iff]
  simp only [prevails_iff_split]
  constructor
  · rintro ⟨later, ⟨identifier, c'⟩, earlier, hreverse, hread, hlater⟩
    obtain ⟨hkey, hc⟩ := Option.ite_none_right_eq_some.1 hread
    cases hc
    refine ⟨identifier, earlier.reverse, later.reverse, ?_, hkey, fun x hx => ?_⟩
    · rw [← List.reverse_reverse s.entries, hreverse]
      simp
    · simpa using hlater x (List.mem_reverse.1 hx)
  · rintro ⟨identifier, before, after, hsplit, hkey, hafter⟩
    refine ⟨after.reverse, (identifier, c), before.reverse, by simp [hsplit], if_pos hkey, ?_⟩
    intro x hx
    exact if_neg (hafter x (List.mem_reverse.1 hx))

theorem customization?_eq_none_iff :
    s.customization? key = none ↔ ∀ e ∈ s.entries, lookupKey e.1 ≠ key := by
  rw [customization?, List.getLast?_eq_none_iff, List.filterMap_eq_nil_iff]
  simp

/-- A section prevails, or another with its key does, whose identifier has greater bytes. -/
theorem exists_prevails {e : String × Customization} (h : e ∈ s.entries) :
    s.Prevails (lookupKey e.1) e ∨
      ∃ greater, s.Prevails (lookupKey e.1) greater ∧ bytesOf e.1 < bytesOf greater.1 := by
  cases hc : s.customization? (lookupKey e.1) with
  | none => exact absurd rfl (customization?_eq_none_iff.1 hc e h)
  | some c =>
    obtain ⟨identifier, hprevails⟩ := customization?_eq_some_iff.1 hc
    rcases hprevails.greatest e h rfl with rfl | hlt
    · exact .inl hprevails
    · exact .inr ⟨_, hprevails, hlt⟩

end Settings.Sections

namespace Formatter

variable {s : Settings} {f : Formatter}

/-! ### The formatter of settings -/

/-- Settings describe a formatter exactly when their default locale means one and their offset, if
they have one, can be read. -/
theorem exists_ofSettings_iff :
    (∃ f, ofSettings s = .ok f) ↔
      (∃ l, Locale.resolve s.formatting.defaultLocale = .ok l) ∧
        ∀ text, s.formatting.utcOffset = some text → ∃ o, Offset.parse text = .ok o := by
  rw [← exists_mapM_eq_ok_iff]
  simp only [ofSettings_eq_ok_iff]
  constructor
  · rintro ⟨f, l, o, hl, ho, -⟩
    exact ⟨⟨l, hl⟩, o, ho⟩
  · rintro ⟨⟨l, hl⟩, o, ho⟩
    exact ⟨_, l, o, hl, ho, rfl⟩

theorem offset_of_ofSettings (h : ofSettings s = .ok f) (o : Offset) :
    f.offset = some o ↔
      ∃ text, s.formatting.utcOffset = some text ∧ Offset.parse text = .ok o := by
  obtain ⟨l, o', -, ho', rfl⟩ := ofSettings_eq_ok_iff.1 h
  rcases mapM_eq_ok_iff.1 ho' with ⟨hnone, rfl⟩ | ⟨text, o'', htext, hread, rfl⟩
  · simp [hnone]
  · simp [htext, hread]

theorem customization?_of_ofSettings (h : ofSettings s = .ok f) (query : String) :
    f.customization? query = s.locales.customization? (lookupKey query) :=
  find?_of_ofSettings h (lookupKey query)

/-- Settings describe a formatter exactly when their default locale means one and their offset, if
they have one, can be read. The formatter has their pattern, that locale and that offset. The
customization of an identifier is that of the section which prevails among those with its key, and
it has none exactly when there is no such section. So a section is not lost unless the identifier of
another one with its key has greater bytes, and no customization comes from elsewhere. -/
theorem sections_are_carried_over (s : Settings) :
    ((∃ f, ofSettings s = .ok f) ↔
      (∃ l, Locale.resolve s.formatting.defaultLocale = .ok l) ∧
        ∀ text, s.formatting.utcOffset = some text → ∃ o, Offset.parse text = .ok o) ∧
    ∀ f, ofSettings s = .ok f →
      f.pattern = s.formatting.format ∧
      Locale.resolve s.formatting.defaultLocale = .ok f.defaultLocale ∧
      (∀ o, f.offset = some o ↔
        ∃ text, s.formatting.utcOffset = some text ∧ Offset.parse text = .ok o) ∧
      (∀ query c, f.customization? query = some c ↔
        ∃ identifier, s.locales.Prevails (lookupKey query) (identifier, c)) ∧
      (∀ query, f.customization? query = none ↔
        ∀ e ∈ s.locales.entries, lookupKey e.1 ≠ lookupKey query) ∧
      (∀ e ∈ s.locales.entries, f.customization? e.1 = some e.2 ∨
        ∃ greater ∈ s.locales.entries, lookupKey greater.1 = lookupKey e.1 ∧
          bytesOf e.1 < bytesOf greater.1 ∧ f.customization? e.1 = some greater.2) ∧
      ∀ key c, f.customizations.find? key = some c →
        ∃ e ∈ s.locales.entries, lookupKey e.1 = key ∧ e.2 = c := by
  refine ⟨exists_ofSettings_iff, fun f hf => ?_⟩
  have hcustomization := customization?_of_ofSettings hf
  refine ⟨?pattern, defaultLocale_of_ofSettings hf, offset_of_ofSettings hf, ?some, ?none, ?kept,
    ?invented⟩
  case pattern =>
    obtain ⟨l, o, -, -, rfl⟩ := ofSettings_eq_ok_iff.1 hf
    rfl
  case some =>
    intro query c
    rw [hcustomization, Settings.Sections.customization?_eq_some_iff]
  case none =>
    intro query
    rw [hcustomization, Settings.Sections.customization?_eq_none_iff]
  case kept =>
    intro e he
    simp only [hcustomization, Settings.Sections.customization?_eq_some_iff]
    rcases Settings.Sections.exists_prevails he with hprevails | ⟨greater, hprevails, hlt⟩
    · exact .inl ⟨e.1, hprevails⟩
    · exact .inr ⟨greater, hprevails.mem, hprevails.lookupKey_eq, hlt, greater.1, hprevails⟩
  case invented =>
    intro key c hfind
    rw [find?_of_ofSettings hf, Settings.Sections.customization?_eq_some_iff] at hfind
    obtain ⟨identifier, hprevails⟩ := hfind
    exact ⟨_, hprevails.mem, hprevails.lookupKey_eq, rfl⟩

/-- Three sections with one key: small letters have greater bytes than capitals and blanks, and an
underscore has greater ones than a hyphen. -/
theorem sections_are_carried_over_austrian :
    let s : Settings :=
      ⟨⟨"%F", "sv", some " -05:30 "⟩,
        .ofList [("de-at", ⟨some "%x", none⟩), ("de_AT", ⟨none, some "de_CH"⟩),
          (" de_at", ⟨some "%c", none⟩), ("fr", ⟨some "%T", none⟩)], .standard⟩
    s.locales.Prevails "de_at" ("de_AT", ⟨none, some "de_CH"⟩) ∧
      ∃ f, ofSettings s = .ok f ∧ f.pattern = "%F" ∧ f.offset = some ⟨-19800, by decide⟩ ∧
        f.customization? "DE-at " = some ⟨none, some "de_CH"⟩ ∧
        f.customization? "fr" = some ⟨some "%T", none⟩ ∧ f.customization? "fr_CA" = none := by
  intro s
  have haustrian : s.locales.Prevails "de_at" ("de_AT", ⟨none, some "de_CH"⟩) := by decide +kernel
  have hfrench : s.locales.Prevails "fr" ("fr", ⟨some "%T", none⟩) := by decide +kernel
  have hlocale : ∃ l, Locale.resolve "sv" = .ok l := ⟨⟨"sv_SE", by decide⟩, by decide +kernel⟩
  have hoffset : Offset.parse " -05:30 " = .ok ⟨-19800, by decide⟩ := by decide +kernel
  obtain ⟨hexists, hparts⟩ := sections_are_carried_over s
  obtain ⟨f, hf⟩ := hexists.2 ⟨hlocale, fun text htext => by cases htext; exact ⟨_, hoffset⟩⟩
  obtain ⟨hpattern, -, hread, hsome, hnone, -, -⟩ := hparts f hf
  refine ⟨haustrian, f, hf, hpattern, (hread _).2 ⟨_, rfl, hoffset⟩, ?_, ?_, ?_⟩
  · exact (hsome "DE-at " _).2 ⟨"de_AT", by decide +kernel⟩
  · exact (hsome "fr" _).2 ⟨"fr", by decide +kernel⟩
  · exact (hnone "fr_CA").2 (by decide +kernel)

end Formatter

end LocaleClock
