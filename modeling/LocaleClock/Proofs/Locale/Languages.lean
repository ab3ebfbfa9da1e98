import Mathlib
import LocaleClock.Locale.Resolve
import LocaleClock.Proofs.Locale.Spelling
import LocaleClock.Proofs.Text.Bytes

/-! The language of a normal form, of a known name and of a primary locale. What is true of each
entry of the tables is checked here, in one run through each table. -/

namespace LocaleClock.Locale

open Text

/-! ### Case -/

theorem apply_toLower {p : Char → Bool} (hp : ∀ c, c.isAlpha = true → p c = false) (c : Char) :
    p c.toLower = p c := by
  by_cases hupper : c.isUpper = true
  · have hletter : c.isAlpha = true := by simp [Char.isAlpha, hupper]
    have hlower : c.toLower.isAlpha = true := by rwa [Char.isAlpha_toLower_eq_isAlpha]
    rw [hp c hletter, hp _ hlower]
  · rw [Char.toLower_eq_of_not_isUpper hupper]

theorem isPlain_of_isAlphanum {c : Char} (h : c.isAlphanum = true) : isPlain c = true := by
  have hrange : ((65 ≤ c.toNat ∧ c.toNat ≤ 90) ∨ (97 ≤ c.toNat ∧ c.toNat ≤ 122)) ∨
      (48 ≤ c.toNat ∧ c.toNat ≤ 57) := by
    simpa [Char.isAlphanum, Char.isAlpha, Char.isUpper, Char.isLower, Char.isDigit,
      UInt32.le_iff_toNat_le] using h
  have hblank : isBlank c = false := by
    simp [isBlank]
    omega
  have hne : ∀ d : Char, d.isAlphanum = false → c ≠ d := by
    rintro d hd rfl
    rw [h] at hd
    cases hd
  simp [isPlain, hblank, separatesSubtags, startsSuffix, hne '-' (by decide), hne '_' (by decide),
    hne '.' (by decide), hne '@' (by decide)]

theorem classes_toLower (c : Char) :
    isBlank c.toLower = isBlank c ∧ separatesSubtags c.toLower = separatesSubtags c ∧
      startsSuffix c.toLower = startsSuffix c := by
  have hletter : ∀ c : Char, c.isAlpha = true →
      isBlank c = false ∧ separatesSubtags c = false ∧ startsSuffix c = false := by
    intro c hc
    exact isPlain_iff.1 (isPlain_of_isAlphanum (by rw [Char.isAlphanum, hc, Bool.true_or]))
  exact ⟨apply_toLower (fun c hc => (hletter c hc).1) c,
    apply_toLower (fun c hc => (hletter c hc).2.1) c,
    apply_toLower (fun c hc => (hletter c hc).2.2) c⟩

theorem isPlain_toLower (c : Char) : isPlain c.toLower = isPlain c := by
  obtain ⟨hblank, hseparator, hsuffix⟩ := classes_toLower c
  rw [isPlain, isPlain, hblank, hseparator, hsuffix]

/-! ### The language of a normal form -/

/-- A language ends at the first underscore, whatever follows. -/
theorem languageOf_append (cs rest : List Char) :
    languageOf (cs ++ '_' :: rest) = languageOf cs := by
  induction cs with
  | nil => rfl
  | cons c cs ih =>
    unfold languageOf firstField at ih ⊢
    cases hc : c == '_' with
    | true =>
      rw [List.cons_append, List.takeWhile_cons_of_neg (by simp [hc]),
        List.takeWhile_cons_of_neg (by simp [hc])]
    | false =>
      rw [List.cons_append, List.takeWhile_cons_of_pos (by simp [hc]),
        List.takeWhile_cons_of_pos (by simp [hc]), ih]

theorem languageOf_eq_self {cs : List Char} (h : ∀ c ∈ cs, separatesSubtags c = false) :
    languageOf cs = cs := by
  refine List.takeWhile_eq_self_iff.2 fun c hc => ?_
  have hseparator := h c hc
  simp only [separatesSubtags, Bool.or_eq_false_iff] at hseparator
  simp [hseparator.2]

theorem languageOf_languageOf (cs : List Char) : languageOf (languageOf cs) = languageOf cs :=
  List.takeWhile_idem

theorem languageOf_normalOf (language : List Char) (region : Option (List Char)) :
    languageOf (normalOf language region) = languageOf (asciiLower language) := by
  cases region with
  | none => rfl
  | some region => exact languageOf_append _ _

theorem asciiLower_asciiLower (cs : List Char) : asciiLower (asciiLower cs) = asciiLower cs := by
  rw [asciiLower, asciiLower, List.map_map]
  exact List.map_congr_left fun c _ => c.toLower_toLower_eq_toLower

theorem asciiLower_languageOf_asciiLower (cs : List Char) :
    asciiLower (languageOf (asciiLower cs)) = languageOf (asciiLower cs) := by
  have hcut : languageOf (asciiLower cs) =
      asciiLower (cs.takeWhile ((fun c => !(c == '_')) ∘ Char.toLower)) := List.takeWhile_map
  rw [hcut, asciiLower_asciiLower]

theorem asciiLower_languageOf_normalForm (cs : List Char) :
    asciiLower (languageOf (normalForm cs)) = languageOf (normalForm cs) := by
  cases hsubtags : subtags cs with
  | nil =>
    have hempty : normalForm cs = [] := by rw [normalForm, hsubtags]
    rw [hempty]
    rfl
  | cons language others =>
    rw [normalForm_of_subtags hsubtags, languageOf_normalOf, asciiLower_languageOf_asciiLower]

/-! ### Known names -/

/-- The language of a locale name, which ends where a region or a modifier starts. -/
def nameLanguage (cs : List Char) : List Char := firstField (fun c => c == '_' || c == '@') cs

theorem names_checked : ∀ name ∈ names,
    languageOf name.toList ≠ [] ∧ nameLanguage name.toList = languageOf name.toList ∧
      asciiLower (languageOf name.toList) = languageOf (normalForm name.toList) := by
  simp only [← charactersOf_eq]
  decide +kernel

/-- No known name has a modifier without a region, and its normal form keeps its language. -/
theorem language_of_name : ∀ name ∈ names,
    nameLanguage name.toList = languageOf name.toList ∧
      asciiLower (languageOf name.toList) = languageOf (normalForm name.toList) :=
  fun name h => (names_checked name h).2

/-! ### Primary locales -/

/-- The run through the primary locales. Each is known, and it is in its language or is Norwegian
Bokmål for Norwegian. -/
theorem primaryLocales_checked : ∀ entry ∈ primaryLocales,
    entry.2 ∈ names ∧
      (languageOf entry.2.toList = entry.1.toList ∨ (entry.1 = "no" ∧ entry.2 = "nb_NO")) := by
  simp only [← charactersOf_eq]
  decide +kernel

theorem mem_primaryLocales_of_lookup {language name : String}
    (h : primaryLocales.lookup language = some name) : (language, name) ∈ primaryLocales := by
  obtain ⟨before, after, hentries, -⟩ := List.lookup_eq_some_iff.1 h
  rw [hentries]
  exact List.mem_append_right before List.mem_cons_self

/-- Every name that a normal form stands for is in its language, or is Norwegian Bokmål for
Norwegian. -/
theorem languageOf_of_mem_namesOfNormalForm {normal : List Char} {name : String}
    (h : name ∈ namesOfNormalForm normal) :
    languageOf name.toList = languageOf normal ∨
      (languageOf normal = "no".toList ∧ name = "nb_NO") := by
  simp only [namesOfNormalForm, List.mem_append, List.mem_cons, List.not_mem_nil, or_false,
    Option.mem_toList] at h
  rcases h with ((rfl | rfl) | hlookup) | rfl
  · exact .inl (by rw [String.toList_ofList])
  · exact .inl (by rw [String.toList_ofList, languageOf_languageOf])
  · rcases (primaryLocales_checked _ (mem_primaryLocales_of_lookup hlookup)).2 with
      hsame | ⟨hno, hname⟩
    · exact .inl (by rw [hsame, String.toList_ofList])
    · exact .inr ⟨by rw [← hno, String.toList_ofList], hname⟩
  · exact .inl (by rw [String.toList_ofList, languageOf_append, languageOf_languageOf])

end LocaleClock.Locale
