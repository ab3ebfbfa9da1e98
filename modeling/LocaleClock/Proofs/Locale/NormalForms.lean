import Mathlib
import LocaleClock.Proofs.Locale.Languages
import LocaleClock.Proofs.Text.Numbers

/-! What normalizing gives. It gives a language in small letters, alone or with a region, or
nothing. White space is removed around the identifier before a suffix is cut off and the separators
are looked for, so the language keeps the white space that stands between it and one of these. Just
then the result is no normal form, and a second time may change it. -/

namespace LocaleClock.Locale

open Text

/-! ### Normal forms -/

/-- The regions of normal forms: two capitals or three digits. -/
inductive IsNormalRegion : List Char → Prop
  | letters {a b : Char} (ha : a.isUpper = true) (hb : b.isUpper = true) : IsNormalRegion [a, b]
  | digits {a b c : Char} (ha : a.isDigit = true) (hb : b.isDigit = true)
      (hc : c.isDigit = true) : IsNormalRegion [a, b, c]

/-- Holds of the texts without capitals, separators and starts of suffixes. -/
structure IsSmallLanguage (language : List Char) : Prop where
  ne_nil : language ≠ []
  small : ∀ c ∈ language, c.isUpper = false
  unbroken : ∀ c ∈ language, separatesSubtags c = false ∧ startsSuffix c = false

/-- The texts of a language: the language alone, or a region after it and an underscore. -/
inductive IsOfLanguage (language : List Char) : List Char → Prop
  | alone : IsOfLanguage language language
  | region {region : List Char} (h : IsNormalRegion region) :
      IsOfLanguage language (language ++ '_' :: region)

/-- Holds of the empty text and of the texts of a language without white space around it. -/
def IsNormalForm (cs : List Char) : Prop :=
  cs = [] ∨ ∃ language, IsSmallLanguage language ∧ IsTrimmed language ∧ IsOfLanguage language cs

/-! ### Regions -/

theorem toUpper_of_isDigit {c : Char} (h : c.isDigit = true) : c.toUpper = c := by
  have hrange := toNat_of_isDigit h
  apply Char.toUpper_eq_of_not_isLower
  simp [Char.isLower, UInt32.le_iff_toNat_le]
  omega

theorem toUpper_of_isUpper {c : Char} (h : c.isUpper = true) : c.toUpper = c :=
  Char.toUpper_eq_of_not_isLower (Char.not_isLower_of_isUpper h)

theorem NamesRegion.isNormalRegion {region : List Char} (h : NamesRegion region) :
    IsNormalRegion (asciiUpper region) := by
  cases h with
  | letters ha hb => exact .letters (by simpa using ha) (by simpa using hb)
  | digits ha hb hc =>
    rw [asciiUpper, List.map_cons, List.map_cons, List.map_singleton, toUpper_of_isDigit ha,
      toUpper_of_isDigit hb, toUpper_of_isDigit hc]
    exact .digits ha hb hc

namespace IsNormalRegion

variable {region : List Char}

theorem namesRegion (h : IsNormalRegion region) : NamesRegion region := by
  cases h with
  | letters ha hb => exact .letters (by simp [Char.isAlpha, ha]) (by simp [Char.isAlpha, hb])
  | digits ha hb hc => exact .digits ha hb hc

theorem asciiUpper_eq (h : IsNormalRegion region) : asciiUpper region = region := by
  cases h with
  | letters ha hb => simp [asciiUpper, toUpper_of_isUpper ha, toUpper_of_isUpper hb]
  | digits ha hb hc =>
    simp [asciiUpper, toUpper_of_isDigit ha, toUpper_of_isDigit hb, toUpper_of_isDigit hc]

theorem isSubtag (h : IsNormalRegion region) : IsSubtag region := by
  have hplain : ∀ c ∈ region, isPlain c = true := by
    cases h with
    | letters ha hb => simp [isPlain_of_isAlphanum, Char.isAlphanum, Char.isAlpha, ha, hb]
    | digits ha hb hc => simp [isPlain_of_isAlphanum, Char.isAlphanum, ha, hb, hc]
  refine ⟨?_, hplain⟩
  cases h <;> exact List.cons_ne_nil _ _

end IsNormalRegion

/-! ### The language of an identifier -/

/-- The language as an identifier has it. Of what stands before the suffix it is what comes between
the separators at the start, if there are any, and the next separator. -/
def writtenLanguage (cs : List Char) : List Char :=
  firstField separatesSubtags ((firstField startsSuffix (trim cs)).dropWhile separatesSubtags)

/-- The first field that is not empty comes after the separators at the start. -/
theorem head?_filter_splitOnP (p : Char → Bool) (cs : List Char) :
    ((cs.splitOnP p).filter fun f => !f.isEmpty).head? =
      if firstField p (cs.dropWhile p) = [] then none
      else some (firstField p (cs.dropWhile p)) := by
  induction cs with
  | nil => rfl
  | cons c cs ih =>
    rw [List.splitOnP_cons_eq_if_modifyHead]
    cases hc : p c with
    | true =>
      rw [if_pos rfl, List.filter_cons_of_neg (by simp), ih, List.dropWhile_cons_of_pos hc]
    | false =>
      obtain ⟨f, fs, hfields⟩ := List.exists_cons_of_ne_nil (List.splitOnP_ne_nil p cs)
      have hhead := head?_splitOnP p cs
      rw [hfields, List.head?_cons, Option.some.injEq] at hhead
      have hfield : firstField p (c :: cs) = c :: f := by
        rw [hhead, firstField, List.takeWhile_cons_of_pos (by simp [hc]), firstField]
      rw [if_neg Bool.false_ne_true, hfields, List.modifyHead_cons,
        List.filter_cons_of_pos (by simp), List.head?_cons,
        List.dropWhile_cons_of_neg (by simp [hc]), hfield, if_neg (List.cons_ne_nil _ _)]

theorem head?_subtags (cs : List Char) :
    (subtags cs).head? = if writtenLanguage cs = [] then none else some (writtenLanguage cs) :=
  head?_filter_splitOnP separatesSubtags _

/-- In small letters every subtag could be the language of a normal form, but for white space
around it. -/
theorem isSmallLanguage_of_mem_subtags {cs t : List Char} (h : t ∈ subtags cs) :
    IsSmallLanguage (asciiLower t) := by
  obtain ⟨hne, hparts⟩ := of_mem_subtags h
  refine ⟨by simpa [asciiLower] using hne, ?small, ?unbroken⟩
  case small =>
    intro c hc
    obtain ⟨d, -, rfl⟩ := List.mem_map.1 hc
    exact d.isUpper_toLower_eq_false
  case unbroken =>
    intro c hc
    obtain ⟨d, hd, rfl⟩ := List.mem_map.1 hc
    obtain ⟨-, hseparator, hsuffix⟩ := classes_toLower d
    rw [hseparator, hsuffix]
    exact (hparts d hd).2

/-- The last region among subtags makes a text of the language with the language before it. -/
theorem isOfLanguage_normalOf (language : List Char) (others : List (List Char)) :
    IsOfLanguage (asciiLower language) (normalOf language (lastRegion others)) := by
  cases hlast : lastRegion others with
  | none => exact .alone
  | some region =>
    have hmem := List.mem_of_getLast? hlast
    exact .region (isRegion_iff.1 (List.of_mem_filter hmem)).isNormalRegion

/-- A normal form is empty when the identifier has no language, and a text of its language in small
letters otherwise. -/
theorem normalForm_cases (cs : List Char) :
    (writtenLanguage cs = [] ∧ normalForm cs = []) ∨
      (IsSmallLanguage (asciiLower (writtenLanguage cs)) ∧
        IsOfLanguage (asciiLower (writtenLanguage cs)) (normalForm cs)) := by
  have hhead := head?_subtags cs
  cases hsubtags : subtags cs with
  | nil =>
    rw [hsubtags, List.head?_nil] at hhead
    refine .inl ⟨by simpa using hhead.symm, ?_⟩
    rw [normalForm, hsubtags]
  | cons language others =>
    rw [hsubtags, List.head?_cons] at hhead
    obtain ⟨-, hlanguage⟩ := Option.ite_none_left_eq_some.1 hhead.symm
    cases hlanguage
    have hmem : writtenLanguage cs ∈ subtags cs := hsubtags ▸ List.mem_cons_self
    rw [normalForm_of_subtags hsubtags]
    exact .inr ⟨isSmallLanguage_of_mem_subtags hmem, isOfLanguage_normalOf _ others⟩

/-! ### White space around the language -/

theorem IsOfLanguage.ne_nil {language cs : List Char} (hne : language ≠ [])
    (h : IsOfLanguage language cs) : cs ≠ [] := by
  cases h with
  | alone => exact hne
  | region => simp [hne]

theorem IsOfLanguage.languageOf_eq {language cs : List Char} (hsmall : IsSmallLanguage language)
    (h : IsOfLanguage language cs) : languageOf cs = language := by
  have hself := languageOf_eq_self fun c hc => (hsmall.unbroken c hc).1
  cases h with
  | alone => exact hself
  | region => rw [languageOf_append, hself]

theorem isTrimmed_asciiLower_iff {cs : List Char} : IsTrimmed (asciiLower cs) ↔ IsTrimmed cs := by
  simp [IsTrimmed, asciiLower, classes_toLower]

/-- The result is a normal form exactly when there is no white space around the language. -/
theorem isNormalForm_normalForm_iff {cs : List Char} :
    IsNormalForm (normalForm cs) ↔ IsTrimmed (writtenLanguage cs) := by
  rcases normalForm_cases cs with ⟨hlanguage, hnormal⟩ | ⟨hsmall, hof⟩
  · rw [hlanguage, hnormal]
    exact iff_of_true (.inl rfl) (by decide)
  · rw [← isTrimmed_asciiLower_iff]
    constructor
    · rintro (hempty | ⟨language, hsmall', htrimmed, hof'⟩)
      · exact absurd hempty (hof.ne_nil hsmall.ne_nil)
      · have hsame := hof'.languageOf_eq hsmall'
        rw [hof.languageOf_eq hsmall] at hsame
        rwa [hsame]
    · intro htrimmed
      exact .inr ⟨_, hsmall, htrimmed, hof⟩

/-! ### A second time -/

theorem sum_length_splitOnP (p : Char → Bool) (cs : List Char) :
    ((cs.splitOnP p).map fun f => f.length + 1).sum = cs.length + 1 := by
  induction cs with
  | nil => rfl
  | cons c cs ih =>
    rw [List.splitOnP_cons_eq_if_modifyHead]
    cases hc : p c with
    | true =>
      rw [if_pos rfl, List.map_cons, List.sum_cons, ih, List.length_cons, List.length_nil]
      omega
    | false =>
      obtain ⟨f, fs, hfields⟩ := List.exists_cons_of_ne_nil (List.splitOnP_ne_nil p cs)
      rw [hfields, List.map_cons, List.sum_cons] at ih
      rw [if_neg Bool.false_ne_true, hfields, List.modifyHead_cons, List.map_cons, List.sum_cons,
        List.length_cons, List.length_cons]
      omega

theorem sum_length_subtags (cs : List Char) :
    ((subtags cs).map fun t => t.length + 1).sum ≤ (trim cs).length + 1 := by
  have hfields := sum_length_splitOnP separatesSubtags (firstField startsSuffix (trim cs))
  have hcut : (firstField startsSuffix (trim cs)).length ≤ (trim cs).length :=
    (List.takeWhile_prefix _).length_le
  have hkept : ((subtags cs).map fun t => t.length + 1).sum ≤
      (((firstField startsSuffix (trim cs)).splitOnP separatesSubtags).map
        fun t => t.length + 1).sum :=
    (List.filter_sublist.map _).sum_le_sum fun _ _ => Nat.zero_le _
  omega

theorem length_normalForm_le (cs : List Char) : (normalForm cs).length ≤ (trim cs).length := by
  have hsum := sum_length_subtags cs
  cases hsubtags : subtags cs with
  | nil => simp [normalForm, hsubtags]
  | cons language others =>
    rw [hsubtags, List.map_cons, List.sum_cons] at hsum
    rw [normalForm_of_subtags hsubtags]
    cases hlast : lastRegion others with
    | none =>
      simp only [normalOf, asciiLower, List.length_map]
      omega
    | some region =>
      have hmem : region ∈ others := List.mem_of_mem_filter (List.mem_of_getLast? hlast)
      have hle : region.length + 1 ≤ (others.map fun t => t.length + 1).sum :=
        List.single_le_sum (fun _ _ => Nat.zero_le _) _ (List.mem_map_of_mem hmem)
      simp only [normalOf, asciiLower, asciiUpper, List.length_append, List.length_cons,
        List.length_map]
      omega

/-- Nothing that normalizing leaves as it is has white space around it. -/
theorem isTrimmed_of_normalForm_eq {cs : List Char} (h : normalForm cs = cs) : IsTrimmed cs := by
  have hle := length_normalForm_le cs
  rw [h] at hle
  have hsublist : (trim cs).Sublist cs :=
    (List.rdropWhile_prefix isBlank _).sublist.trans (List.dropWhile_sublist _)
  exact trim_eq_self_iff.1 (hsublist.eq_of_length_le hle)

theorem IsSmallLanguage.asciiLower_eq {language : List Char} (h : IsSmallLanguage language) :
    asciiLower language = language := by
  rw [asciiLower, List.map_congr_left fun c hc => ?_, List.map_id']
  exact Char.toLower_eq_of_not_isUpper (by simp [h.small c hc])

theorem subtags_of_isTrimmed {cs : List Char} (htrimmed : IsTrimmed cs)
    (hsuffix : ∀ c ∈ cs, startsSuffix c = false) :
    subtags cs = (cs.splitOnP separatesSubtags).filter fun f => !f.isEmpty := by
  have hwhole : firstField startsSuffix cs = cs :=
    List.takeWhile_eq_self_iff.2 fun c hc => by simp [hsuffix c hc]
  rw [subtags, trim_eq_self_iff.2 htrimmed, hwhole]

/-- A text of a language is left as it is unless there is white space around it. -/
theorem IsOfLanguage.normalForm_eq {language cs : List Char} (hsmall : IsSmallLanguage language)
    (h : IsOfLanguage language cs) (htrimmed : IsTrimmed cs) : normalForm cs = cs := by
  have hseparator : ∀ c ∈ language, separatesSubtags c = false :=
    fun c hc => (hsmall.unbroken c hc).1
  cases h with
  | alone =>
    have hsubtags : subtags language = [language] := by
      rw [subtags_of_isTrimmed htrimmed fun c hc => (hsmall.unbroken c hc).2,
        List.splitOnP_eq_singleton hseparator, filter_cons_of_ne_nil hsmall.ne_nil, List.filter_nil]
    rw [normalForm_of_subtags hsubtags]
    exact hsmall.asciiLower_eq
  | @region region hregion =>
    have hsuffix : ∀ c ∈ language ++ '_' :: region, startsSuffix c = false := by
      rw [List.forall_mem_append, List.forall_mem_cons]
      exact ⟨fun c hc => (hsmall.unbroken c hc).2, rfl,
        fun c hc => (isPlain_iff.1 (hregion.isSubtag.plain c hc)).2.2⟩
    have hsubtags : subtags (language ++ '_' :: region) = [language, region] := by
      rw [subtags_of_isTrimmed htrimmed hsuffix,
        List.splitOnP_append_cons_of_forall_mem hseparator _ rfl,
        filter_cons_of_ne_nil hsmall.ne_nil,
        List.splitOnP_eq_singleton hregion.isSubtag.not_separator,
        filter_cons_of_ne_nil hregion.isSubtag.ne_nil, List.filter_nil]
    have hlast : lastRegion [region] = some region :=
      lastRegion_append [] hregion.namesRegion (List.forall_mem_nil _)
    rw [normalForm_of_subtags hsubtags, hlast, normalOf, hsmall.asciiLower_eq,
      hregion.asciiUpper_eq]

/-- Normalizing a second time changes nothing exactly when the first result has no white space
around it. -/
theorem normalForm_normalForm_iff {cs : List Char} :
    normalForm (normalForm cs) = normalForm cs ↔ IsTrimmed (normalForm cs) := by
  refine ⟨isTrimmed_of_normalForm_eq, fun htrimmed => ?_⟩
  rcases normalForm_cases cs with ⟨-, hnormal⟩ | ⟨hsmall, hof⟩
  · rw [hnormal]
    rfl
  · exact hof.normalForm_eq hsmall htrimmed

/-- With a language that has no white space around it, the whole has none. -/
theorem IsOfLanguage.isTrimmed {language cs : List Char} (hsmall : IsSmallLanguage language)
    (h : IsOfLanguage language cs) (htrimmed : IsTrimmed language) : IsTrimmed cs := by
  cases h with
  | alone => exact htrimmed
  | @region region hregion =>
    obtain ⟨first, rest, rfl⟩ := List.exists_cons_of_ne_nil hsmall.ne_nil
    have hlast : (first :: rest ++ '_' :: region).getLast? = region.getLast? := by
      rw [List.getLast?_append_of_ne_nil _ (List.cons_ne_nil _ _),
        List.getLast?_cons_of_ne_nil hregion.isSubtag.ne_nil]
    refine ⟨htrimmed.1, fun c hc => ?_⟩
    rw [hlast] at hc
    exact (isPlain_iff.1 (hregion.isSubtag.plain c (List.mem_of_mem_getLast? hc))).1

/-- Normalizing gives nothing when an identifier has no language, and otherwise the language in
small letters, alone or with a region. The result is a normal form exactly when the language is
written without white space around it, and then a second time changes nothing. In any case a second
time changes nothing exactly when there is no white space around the result. -/
theorem normal_form_iff_language_trimmed (identifier : String) :
    ((writtenLanguage identifier.toList = [] ∧ (normalize identifier).toList = []) ∨
      (IsSmallLanguage (asciiLower (writtenLanguage identifier.toList)) ∧
        IsOfLanguage (asciiLower (writtenLanguage identifier.toList))
          (normalize identifier).toList)) ∧
    (IsNormalForm (normalize identifier).toList ↔
      IsTrimmed (writtenLanguage identifier.toList)) ∧
    (IsTrimmed (writtenLanguage identifier.toList) →
      normalize (normalize identifier) = normalize identifier) ∧
    (normalize (normalize identifier) = normalize identifier ↔
      IsTrimmed (normalize identifier).toList) := by
  have hnormal : (normalize identifier).toList = normalForm identifier.toList :=
    String.toList_ofList
  have hsecond : normalize (normalize identifier) = normalize identifier ↔
      IsTrimmed (normalize identifier).toList := by
    rw [hnormal, ← normalForm_normalForm_iff, ← hnormal]
    exact String.ofList_eq
  have hcases := normalForm_cases identifier.toList
  rw [← hnormal] at hcases
  refine ⟨hcases, ?form, ?stays, hsecond⟩
  case form =>
    rw [hnormal]
    exact isNormalForm_normalForm_iff
  case stays =>
    intro htrimmed
    rw [hsecond]
    rcases hcases with ⟨-, hempty⟩ | ⟨hsmall, hof⟩
    · rw [hempty]
      decide
    · exact hof.isTrimmed hsmall (isTrimmed_asciiLower_iff.2 htrimmed)

/-- A language with white space before an underscore stays as it is for ever, since the region comes
after it, and is no normal form. -/
theorem normal_form_iff_language_trimmed_serbian_austrian :
    IsTrimmed (writtenLanguage " -Sr_latn-rs @x".toList) ∧
      IsNormalForm (normalize " -Sr_latn-rs @x").toList ∧
      normalize (normalize " -Sr_latn-rs @x") = normalize " -Sr_latn-rs @x" ∧
      ¬ IsNormalForm (normalize "de _AT").toList ∧
      normalize (normalize "de _AT") = normalize "de _AT" := by
  have hserbian : IsTrimmed (writtenLanguage " -Sr_latn-rs @x".toList) := by decide +kernel
  obtain ⟨-, hform, hstays, -⟩ := normal_form_iff_language_trimmed " -Sr_latn-rs @x"
  obtain ⟨-, haustrian, -, hsecond⟩ := normal_form_iff_language_trimmed "de _AT"
  refine ⟨hserbian, hform.2 hserbian, hstays hserbian, ?_, hsecond.2 (by decide +kernel)⟩
  rw [haustrian]
  decide +kernel

/-- White space before a suffix is left: the result is no normal form, a second time changes it, and
it means a locale although the identifier does not. -/
theorem white_space_left_by_normalizing :
    normalize "de .UTF-8" = "de " ∧ ¬ IsNormalForm (normalize "de .UTF-8").toList ∧
      normalize (normalize "de .UTF-8") ≠ normalize "de .UTF-8" ∧
      resolve "de .UTF-8" = .error (.unknownLocale "de .UTF-8") ∧
      resolve (normalize "de .UTF-8") = .ok ⟨"de_DE", by decide⟩ := by
  have hnormal : (normalize "de .UTF-8").toList = normalForm "de .UTF-8".toList :=
    String.toList_ofList
  refine ⟨by decide +kernel, ?_, by decide +kernel, by decide +kernel, by decide +kernel⟩
  rw [hnormal, isNormalForm_normalForm_iff]
  decide +kernel

end LocaleClock.Locale
