import Mathlib
import LocaleClock.Proofs.Locale.Resolution

/-! What an identifier means whose region is not known: what its language alone means. A language
alone means its primary locale, and not every language that has locales has a primary one. -/

namespace LocaleClock.Locale

open Text

def languageName (identifier : String) : String :=
  String.ofList (languageOf (normalForm identifier.toList))

/-- The locale that a language alone means: the one with its name, its primary locale, or the one in
the region of the same letters. -/
def ofLanguage? (language : List Char) : Option Locale :=
  ([String.ofList language] ++ (primaryLocales.lookup (String.ofList language)).toList ++
    [String.ofList (language ++ '_' :: asciiUpper language)]).findSome? ofName?

theorem ofNormalForm?_eq_or_ofLanguage? (normal : List Char) :
    ofNormalForm? normal =
      (ofName? (String.ofList normal)).or (ofLanguage? (languageOf normal)) :=
  ofNormalForm?_eq_or normal

/-- The text, the normal form and the language of an identifier are tried in this order. -/
theorem find?_eq_or_ofLanguage? (identifier : String) :
    find? identifier =
      (ofName? (bare identifier)).or ((ofName? (normalize identifier)).or
        (ofLanguage? (languageOf (normalForm identifier.toList)))) := by
  rw [find?_eq_or, ofNormalForm?_eq_or_ofLanguage?, normalize]

/-! ### A language alone -/

theorem IsSubtag.asciiLower {t : List Char} (h : IsSubtag t) : IsSubtag (asciiLower t) := by
  refine ⟨by simpa [Text.asciiLower] using h.ne_nil, fun c hc => ?_⟩
  obtain ⟨d, hd, rfl⟩ := List.mem_map.1 hc
  rw [isPlain_toLower, h.plain d hd]

theorem normalForm_asciiLower {t : List Char} (h : IsSubtag t) :
    normalForm (asciiLower t) = asciiLower t := by
  rw [normalForm_of_subtags h.asciiLower.subtags_eq]
  exact asciiLower_asciiLower t

/-- The language of an identifier without white space inside is its first subtag in small
letters. -/
theorem languageOf_normalForm {cs : List Char} (h : ∀ c ∈ trim cs, isBlank c = false) :
    normalForm cs = [] ∨
      ∃ t, IsSubtag t ∧ languageOf (normalForm cs) = asciiLower t := by
  cases hsubtags : subtags cs with
  | nil => exact .inl (by rw [normalForm, hsubtags])
  | cons t others =>
    have ht : IsSubtag t := isSubtag_of_mem_subtags h (hsubtags ▸ List.mem_cons_self)
    refine .inr ⟨t, ht, ?_⟩
    rw [normalForm_of_subtags hsubtags, languageOf_normalOf,
      languageOf_eq_self ht.asciiLower.not_separator]

theorem find?_language {t : List Char} (h : IsSubtag t) :
    find? (String.ofList (asciiLower t)) = ofLanguage? (asciiLower t) := by
  have hbare : bare (String.ofList (asciiLower t)) = String.ofList (asciiLower t) := by
    have hblank : ∀ c ∈ asciiLower t, isBlank c = false := by
      intro c hc
      exact (isPlain_iff.1 (h.asciiLower.plain c hc)).1
    rw [bare, String.toList_ofList, trim_eq_self hblank]
  have hlanguage := languageOf_eq_self h.asciiLower.not_separator
  -- The language is tried before and after normalizing, and it comes first among its own names.
  have hfirst : ofLanguage? (asciiLower t) = (ofName? (String.ofList (asciiLower t))).or
      (ofLanguage? (asciiLower t)) := by
    simp only [ofLanguage?, List.cons_append, List.findSome?_cons]
    cases ofName? (String.ofList (asciiLower t)) <;> rfl
  rw [find?_eq_or_ofLanguage?, hbare, normalize, String.toList_ofList, normalForm_asciiLower h,
    hlanguage, ← hfirst, ← hfirst]

theorem find?_empty_language : find? "" = ofLanguage? [] := by
  have hnormal := ofNormalForm?_nil
  have hnone := hnormal
  rw [ofNormalForm?_eq_or_ofLanguage?, Option.or_eq_none_iff] at hnone
  have hname : ofName? (bare "") = none := hnone.1
  have hempty : ofNormalForm? (normalForm "".toList) = none := hnormal
  rw [find?_eq_or, hname, hempty, Option.none_or]
  exact hnone.2.symm

/-! ### Unknown regions -/

/-- An identifier of which neither the text nor the normal form is known means what its language
means. So whatever region, script or variant follows a language that means a locale, the whole means
one too. -/
theorem unknown_region_means_its_language (identifier : String)
    (hplain : ∀ c ∈ trim identifier.toList, isBlank c = false) :
    (bare identifier ∉ names → normalize identifier ∉ names →
      MeanTheSame identifier (languageName identifier)) ∧
    (isSupported (languageName identifier) = true → isSupported identifier = true) := by
  have hlanguage : find? (languageName identifier) =
      ofLanguage? (languageOf (normalForm identifier.toList)) := by
    rw [languageName]
    obtain hempty | ⟨t, ht, hlanguage⟩ := languageOf_normalForm hplain
    · rw [hempty]
      exact find?_empty_language
    · rw [hlanguage, find?_language ht]
  refine ⟨fun hbare hnormal => ?_, fun hsupported => ?_⟩
  · apply meanTheSame_of_find?_eq
    rw [hlanguage, find?_eq_or_ofLanguage?, ofName?_of_not_mem hbare, ofName?_of_not_mem hnormal,
      Option.none_or, Option.none_or]
  · rw [isSupported, hlanguage] at hsupported
    rw [isSupported, find?_eq_or_ofLanguage?, Option.isSome_or, Option.isSome_or, hsupported,
      Bool.or_true, Bool.or_true]

theorem unknown_region_means_its_language_japan :
    (∀ c ∈ trim " DE-Latn_jp@euro ".toList, isBlank c = false) ∧
      bare " DE-Latn_jp@euro " ∉ names ∧ normalize " DE-Latn_jp@euro " ∉ names ∧
      MeanTheSame " DE-Latn_jp@euro " "de" ∧ isSupported " DE-Latn_jp@euro " = true := by
  have hplain : ∀ c ∈ trim " DE-Latn_jp@euro ".toList, isBlank c = false := by
    have hall : (trim " DE-Latn_jp@euro ".toList).all (fun c => !isBlank c) = true := by
      decide +kernel
    simpa only [List.all_eq_true, Bool.not_eq_true'] using hall
  have hlanguage : languageName " DE-Latn_jp@euro " = "de" := by decide +kernel
  have hbare : bare " DE-Latn_jp@euro " ∉ names := by decide +kernel
  have hnormal : normalize " DE-Latn_jp@euro " ∉ names := by decide +kernel
  have hgerman : isSupported "de" = true := by decide +kernel
  obtain ⟨hsame, hsupported⟩ := unknown_region_means_its_language " DE-Latn_jp@euro " hplain
  rw [hlanguage] at hsame hsupported
  exact ⟨hplain, hbare, hnormal, hsame hbare hnormal, hsupported hgerman⟩

/-! ### Primary locales -/

/-- The languages that mean a locale when they stand alone. After Chinese come those that mean the
locale in the region of the same letters, and Esperanto, which has no region. -/
def languagesWithPrimary : List String :=
  ["ar", "ca", "cs", "da", "el", "en", "et", "eu", "gl", "he", "hi", "ja", "ko", "nb", "nn", "no",
   "sl", "sr", "sv", "uk", "vi", "zh",
   "az", "bg", "de", "eo", "es", "fi", "fo", "fr", "hr", "ht", "hu", "id", "is", "it", "lt", "lv",
   "mg", "mk", "mn", "mt", "nl", "pl", "pt", "ro", "ru", "rw", "sk", "so", "th", "to", "tr", "uz"]

/-- The language of a name that consists of a language alone, or of one and the region of the same
letters. -/
def ownLanguage? (cs : List Char) : Option (List Char) :=
  let language := languageOf cs
  if asciiLower language = language ∧
      (cs = language ∨ cs = language ++ '_' :: asciiUpper language) then some language
  else none

theorem ownLanguage?_eq_some_iff {cs language : List Char} (hlower : asciiLower language = language)
    (hlanguage : languageOf language = language) :
    ownLanguage? cs = some language ↔
      cs = language ∨ cs = language ++ '_' :: asciiUpper language := by
  constructor
  · intro h
    obtain ⟨hown, hsame⟩ := Option.ite_none_right_eq_some.1 h
    cases hsame
    exact hown.2
  · rintro (rfl | rfl)
    · rw [ownLanguage?, hlanguage, if_pos ⟨hlower, .inl rfl⟩]
    · rw [ownLanguage?, languageOf_append, hlanguage, if_pos ⟨hlower, .inr rfl⟩]

/-- The languages of the known names that consist of a language alone, or of one and the region of
the same letters. -/
def ownLanguages : List String :=
  names.filterMap fun name => (ownLanguage? name.toList).map String.ofList

theorem mem_ownLanguages_iff {language : List Char} (hlower : asciiLower language = language)
    (hlanguage : languageOf language = language) :
    String.ofList language ∈ ownLanguages ↔
      String.ofList (language ++ '_' :: asciiUpper language) ∈ names ∨
        String.ofList language ∈ names := by
  simp only [ownLanguages, List.mem_filterMap, Option.map_eq_some_iff, String.ofList_inj,
    exists_eq_right, ownLanguage?_eq_some_iff hlower hlanguage]
  constructor
  · rintro ⟨name, hname, hown | hown⟩
    · exact .inr (by rwa [← hown, String.ofList_toList])
    · exact .inl (by rwa [← hown, String.ofList_toList])
  · rintro (hname | hname)
    · exact ⟨_, hname, .inr String.toList_ofList⟩
    · exact ⟨_, hname, .inl String.toList_ofList⟩

/-- A language with a primary locale has it in the table or from its own name. -/
theorem languagesWithPrimary_eq :
    languagesWithPrimary = primaryLocales.map Prod.fst ++ ownLanguages := by
  simp only [ownLanguages, ← charactersOf_eq]
  decide +kernel

theorem exists_lookup_primaryLocales_iff {language : String} :
    (∃ name ∈ primaryLocales.lookup language, name ∈ names) ↔
      language ∈ primaryLocales.map Prod.fst := by
  rw [List.mem_map]
  constructor
  · rintro ⟨name, hlookup, -⟩
    exact ⟨_, mem_primaryLocales_of_lookup hlookup, rfl⟩
  · rintro ⟨entry, hentry, rfl⟩
    have hsome : (primaryLocales.lookup entry.1).isSome = true :=
      List.lookup_isSome_iff.2 ⟨entry, hentry, beq_self_eq_true _⟩
    obtain ⟨name, hlookup⟩ := Option.isSome_iff_exists.1 hsome
    exact ⟨name, hlookup, (primaryLocales_checked _ (mem_primaryLocales_of_lookup hlookup)).1⟩

theorem isSome_ofName?_iff {name : String} : (ofName? name).isSome = true ↔ name ∈ names := by
  unfold ofName?
  split <;> simp_all

theorem isSome_ofLanguage?_iff {language : List Char} :
    (ofLanguage? language).isSome = true ↔
      (∃ name ∈ primaryLocales.lookup (String.ofList language), name ∈ names) ∨
        String.ofList (language ++ '_' :: asciiUpper language) ∈ names ∨
        String.ofList language ∈ names := by
  simp only [ofLanguage?, List.findSome?_isSome_iff, List.mem_append, List.mem_singleton,
    Option.mem_toList, isSome_ofName?_iff]
  constructor
  · rintro ⟨name, (rfl | hprimary) | rfl, hname⟩
    · exact .inr (.inr hname)
    · exact .inl ⟨name, hprimary, hname⟩
    · exact .inr (.inl hname)
  · rintro (⟨name, hprimary, hname⟩ | hname | hname)
    · exact ⟨name, .inl (.inr hprimary), hname⟩
    · exact ⟨_, .inr rfl, hname⟩
    · exact ⟨_, .inl (.inl rfl), hname⟩

/-- A language in small letters without an underscore means a locale when it stands alone exactly if
it is one of these. -/
theorem isSome_ofLanguage?_iff_mem {language : List Char} (hlower : asciiLower language = language)
    (hlanguage : languageOf language = language) :
    (ofLanguage? language).isSome = true ↔ String.ofList language ∈ languagesWithPrimary := by
  rw [isSome_ofLanguage?_iff, exists_lookup_primaryLocales_iff, languagesWithPrimary_eq,
    List.mem_append, mem_ownLanguages_iff hlower hlanguage]

theorem exists_resolve_eq_ok_iff {identifier : String} :
    (∃ l, resolve identifier = .ok l) ↔ (find? identifier).isSome = true := by
  simp only [resolve_eq_ok_iff, Option.isSome_iff_exists]

/-- An identifier means a locale exactly when its text or its normal form is known, or its language
has a primary locale. -/
theorem identifier_resolved_iff (identifier : String) :
    (∃ l, resolve identifier = .ok l) ↔
      bare identifier ∈ names ∨ normalize identifier ∈ names ∨
        languageName identifier ∈ languagesWithPrimary := by
  rw [exists_resolve_eq_ok_iff, find?_eq_or_ofLanguage?, Option.isSome_or, Option.isSome_or,
    Bool.or_eq_true, Bool.or_eq_true, isSome_ofName?_iff, isSome_ofName?_iff,
    isSome_ofLanguage?_iff_mem (asciiLower_languageOf_normalForm _) (languageOf_languageOf _),
    languageName]

/-- Persian has a known locale and does not mean it. -/
theorem language_with_locale_not_resolved :
    (∃ name ∈ names, nameLanguage name.toList = languageOf (normalForm "fa".toList)) ∧
      resolve "fa" = .error (.unknownLocale "fa") := by
  exact ⟨⟨"fa_IR", by decide +kernel, by decide +kernel⟩, by decide +kernel⟩

end LocaleClock.Locale
