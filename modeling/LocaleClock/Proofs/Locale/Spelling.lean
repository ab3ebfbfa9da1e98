import LocaleClock.Locale.Identifier
import LocaleClock.Proofs.Text.Trimming

/-! The ways to spell an identifier. Its subtags may be joined by any run of hyphens and
underscores, a code set or a modifier may come after them, and white space may stand around it all.
Every spelling is taken apart into the same subtags, so the normal form keeps the language and the
last region and nothing else. -/

namespace LocaleClock.Locale

open Text

/-! ### Subtags -/

/-- Holds of the characters that subtags consist of. -/
def isPlain (c : Char) : Bool := !isBlank c && !separatesSubtags c && !startsSuffix c

theorem isPlain_iff {c : Char} :
    isPlain c = true ↔
      isBlank c = false ∧ separatesSubtags c = false ∧ startsSuffix c = false := by
  simp only [isPlain, Bool.and_eq_true, Bool.not_eq_true', and_assoc]

/-- Holds of the texts that stand for themselves as a subtag. -/
structure IsSubtag (subtag : List Char) : Prop where
  ne_nil : subtag ≠ []
  plain : ∀ c ∈ subtag, isPlain c = true

instance (subtag : List Char) : Decidable (IsSubtag subtag) :=
  decidable_of_iff (subtag ≠ [] ∧ subtag.all isPlain = true)
    ⟨fun h => ⟨h.1, List.all_eq_true.1 h.2⟩, fun h => ⟨h.ne_nil, List.all_eq_true.2 h.plain⟩⟩

/-- The texts in which separators stand between subtags, and any number of them before the first and
after the last. -/
inductive Joins : List (List Char) → List Char → Prop
  | nil : Joins [] []
  | last {subtag : List Char} (hs : IsSubtag subtag) : Joins [subtag] subtag
  | separator {c : Char} {subtags : List (List Char)} {cs : List Char}
      (hc : separatesSubtags c = true) (h : Joins subtags cs) : Joins subtags (c :: cs)
  | subtag {c : Char} {subtag : List Char} {subtags : List (List Char)} {cs : List Char}
      (hs : IsSubtag subtag) (hc : separatesSubtags c = true) (h : Joins subtags cs) :
      Joins (subtag :: subtags) (subtag ++ c :: cs)

/-- The spellings of subtags: joined subtags between white space, with what a code set or a modifier
adds or without. -/
inductive Spells (subtags : List (List Char)) : List Char → Prop
  | bare {before body after : List Char} (hbefore : ∀ c ∈ before, isBlank c = true)
      (h : Joins subtags body) (hafter : ∀ c ∈ after, isBlank c = true) :
      Spells subtags (before ++ (body ++ after))
  | suffixed {before body rest : List Char} {c : Char} (hbefore : ∀ c ∈ before, isBlank c = true)
      (h : Joins subtags body) (hc : startsSuffix c = true) :
      Spells subtags (before ++ (body ++ c :: rest))

theorem IsSubtag.not_separator {t : List Char} (h : IsSubtag t) :
    ∀ c ∈ t, separatesSubtags c = false :=
  fun c hc => (isPlain_iff.1 (h.plain c hc)).2.1

/-- No subtag and no separator is blank or starts a suffix. -/
theorem Joins.not_blank_not_suffix {ts : List (List Char)} {body : List Char}
    (h : Joins ts body) : ∀ c ∈ body, isBlank c = false ∧ startsSuffix c = false := by
  have hsubtag : ∀ {t : List Char}, IsSubtag t →
      ∀ c ∈ t, isBlank c = false ∧ startsSuffix c = false := by
    intro t ht c hc
    obtain ⟨hblank, -, hsuffix⟩ := isPlain_iff.1 (ht.plain c hc)
    exact ⟨hblank, hsuffix⟩
  have hseparator : ∀ {c : Char}, separatesSubtags c = true →
      isBlank c = false ∧ startsSuffix c = false := by
    intro c hc
    simp only [separatesSubtags, Bool.or_eq_true, beq_iff_eq] at hc
    rcases hc with rfl | rfl <;> decide
  induction h with
  | nil => exact fun c hc => absurd hc List.not_mem_nil
  | last ht => exact hsubtag ht
  | separator hc _ ih => exact List.forall_mem_cons.2 ⟨hseparator hc, ih⟩
  | subtag ht hc _ ih =>
    exact List.forall_mem_append.2 ⟨hsubtag ht, List.forall_mem_cons.2 ⟨hseparator hc, ih⟩⟩

theorem Joins.ne_nil {t : List Char} {ts : List (List Char)} {body : List Char}
    (h : Joins (t :: ts) body) : body ≠ [] := by
  cases h with
  | last ht => exact ht.ne_nil
  | separator => exact List.cons_ne_nil _ _
  | subtag ht => simp [ht.ne_nil]

theorem filter_cons_of_ne_nil {t : List Char} (h : t ≠ []) (fields : List (List Char)) :
    (t :: fields).filter (fun f => !f.isEmpty) = t :: fields.filter fun f => !f.isEmpty :=
  List.filter_cons_of_pos (by simp [h])

theorem Joins.splitOnP_eq {ts : List (List Char)} {body : List Char} (h : Joins ts body) :
    (body.splitOnP separatesSubtags).filter (fun f => !f.isEmpty) = ts := by
  induction h with
  | nil => rfl
  | last ht =>
    rw [List.splitOnP_eq_singleton ht.not_separator, filter_cons_of_ne_nil ht.ne_nil,
      List.filter_nil]
  | separator hc _ ih =>
    rw [List.splitOnP_cons_eq_if_modifyHead, if_pos hc, List.filter_cons_of_neg (by simp), ih]
  | subtag ht hc _ ih =>
    rw [List.splitOnP_append_cons_of_forall_mem ht.not_separator _ hc,
      filter_cons_of_ne_nil ht.ne_nil, ih]

/-- What is cut at the separators is the body, without the white space and the suffix. -/
theorem Spells.firstField_eq {t : List Char} {ts : List (List Char)} {cs : List Char}
    (h : Spells (t :: ts) cs) :
    ∃ body, Joins (t :: ts) body ∧ firstField startsSuffix (trim cs) = body := by
  have hbody : ∀ {body : List Char}, Joins (t :: ts) body → ∀ rest,
      firstField startsSuffix (trim (body ++ rest)) =
        body ++ firstField startsSuffix (trimEnd rest) := by
    intro body hjoin rest
    have hplain := hjoin.not_blank_not_suffix
    rw [trim_append hjoin.ne_nil fun c hc => (hplain c hc).1]
    exact List.takeWhile_append_of_pos fun c hc => by simp [(hplain c hc).2]
  cases h with
  | @bare before body after hbefore hjoin hafter =>
    refine ⟨body, hjoin, ?_⟩
    rw [trim_blank_append hbefore, hbody hjoin, trimEnd_eq_nil hafter]
    exact List.append_nil body
  | @suffixed before body rest c hbefore hjoin hc =>
    refine ⟨body, hjoin, ?_⟩
    have hblank : isBlank c = false := by
      simp only [startsSuffix, Bool.or_eq_true, beq_iff_eq] at hc
      rcases hc with rfl | rfl <;> decide
    have hend : trimEnd ([c] ++ rest) = [c] ++ trimEnd rest :=
      trimEnd_append (by simpa using hblank) rest
    rw [trim_blank_append hbefore, hbody hjoin, ← List.singleton_append, hend,
      List.singleton_append, firstField, List.takeWhile_cons_of_neg (by simp [hc]), List.append_nil]

theorem Spells.subtags_eq {t : List Char} {ts : List (List Char)} {cs : List Char}
    (h : Spells (t :: ts) cs) : subtags cs = t :: ts := by
  obtain ⟨body, hjoin, hfield⟩ := h.firstField_eq
  rw [subtags, hfield, hjoin.splitOnP_eq]

/-! ### Taking an identifier apart -/

theorem of_mem_splitOnP {p : Char → Bool} {cs field : List Char} (h : field ∈ cs.splitOnP p) :
    ∀ c ∈ field, c ∈ cs ∧ p c = false := by
  induction cs generalizing field with
  | nil =>
    obtain rfl := List.mem_singleton.1 h
    exact List.forall_mem_nil _
  | cons x cs ih =>
    have hweaken : ∀ {f : List Char}, f ∈ cs.splitOnP p → ∀ c ∈ f, c ∈ x :: cs ∧ p c = false :=
      fun hf c hc => (ih hf c hc).imp_left (List.mem_cons_of_mem x)
    rw [List.splitOnP_cons_eq_if_modifyHead] at h
    cases hx : p x with
    | true =>
      rw [hx, if_pos rfl] at h
      obtain rfl | h := List.mem_cons.1 h
      · exact List.forall_mem_nil _
      · exact hweaken h
    | false =>
      obtain ⟨f, fs, hfields⟩ := List.exists_cons_of_ne_nil (List.splitOnP_ne_nil p cs)
      rw [hx, if_neg Bool.false_ne_true, hfields, List.modifyHead_cons] at h
      rw [hfields] at hweaken
      obtain rfl | h := List.mem_cons.1 h
      · exact List.forall_mem_cons.2 ⟨⟨List.mem_cons_self, hx⟩, hweaken List.mem_cons_self⟩
      · exact hweaken (List.mem_cons_of_mem f h)

/-- A subtag is not empty, and it has no separator in it and nothing that starts a suffix. -/
theorem of_mem_subtags {cs t : List Char} (h : t ∈ subtags cs) :
    t ≠ [] ∧ ∀ c ∈ t, c ∈ trim cs ∧ separatesSubtags c = false ∧ startsSuffix c = false := by
  obtain ⟨hfield, hne⟩ := List.mem_filter.1 h
  refine ⟨by simpa using hne, fun c hc => ?_⟩
  obtain ⟨hmem, hseparator⟩ := of_mem_splitOnP hfield c hc
  have hsuffix := List.mem_takeWhile_imp hmem
  exact ⟨List.takeWhile_subset _ hmem, hseparator, by simpa using hsuffix⟩

/-- An identifier without white space inside is taken apart into subtags. -/
theorem isSubtag_of_mem_subtags {cs : List Char} (h : ∀ c ∈ trim cs, isBlank c = false)
    {t : List Char} (ht : t ∈ subtags cs) : IsSubtag t := by
  obtain ⟨hne, hparts⟩ := of_mem_subtags ht
  refine ⟨hne, fun c hc => ?_⟩
  obtain ⟨hmem, hfield⟩ := hparts c hc
  exact isPlain_iff.2 ⟨h c hmem, hfield⟩

theorem IsSubtag.subtags_eq {t : List Char} (h : IsSubtag t) : subtags t = [t] := by
  have hspells : Spells [t] ([] ++ (t ++ [])) :=
    .bare (List.forall_mem_nil _) (.last h) (List.forall_mem_nil _)
  rw [List.nil_append, List.append_nil] at hspells
  exact hspells.subtags_eq

/-! ### Regions -/

/-- The subtags that name a region: two letters or three digits. -/
inductive NamesRegion : List Char → Prop
  | letters {a b : Char} (ha : a.isAlpha = true) (hb : b.isAlpha = true) : NamesRegion [a, b]
  | digits {a b c : Char} (ha : a.isDigit = true) (hb : b.isDigit = true)
      (hc : c.isDigit = true) : NamesRegion [a, b, c]

theorem isRegion_iff {subtag : List Char} : isRegion subtag = true ↔ NamesRegion subtag := by
  simp only [isRegion, Bool.or_eq_true, Bool.and_eq_true, beq_iff_eq, List.all_eq_true]
  constructor
  · rintro (⟨hlength, hletters⟩ | ⟨hlength, hdigits⟩)
    · obtain ⟨a, b, rfl⟩ := List.length_eq_two.1 hlength
      exact .letters (hletters a (by simp)) (hletters b (by simp))
    · obtain ⟨a, b, c, rfl⟩ := List.length_eq_three.1 hlength
      exact .digits (hdigits a (by simp)) (hdigits b (by simp)) (hdigits c (by simp))
  · rintro (⟨ha, hb⟩ | ⟨ha, hb, hc⟩)
    · exact .inl ⟨rfl, by simp [ha, hb]⟩
    · exact .inr ⟨rfl, by simp [ha, hb, hc]⟩

/-- The region that the subtags after the language name: the last one that is a region. -/
def lastRegion (others : List (List Char)) : Option (List Char) :=
  (others.filter isRegion).getLast?

theorem lastRegion_eq_none {others : List (List Char)} (h : ∀ t ∈ others, ¬ NamesRegion t) :
    lastRegion others = none := by
  have hnone : others.filter isRegion = [] :=
    List.filter_eq_nil_iff.2 fun t ht => mt isRegion_iff.1 (h t ht)
  rw [lastRegion, hnone, List.getLast?_nil]

theorem lastRegion_append {region : List Char} (before : List (List Char))
    {after : List (List Char)} (hregion : NamesRegion region)
    (hafter : ∀ t ∈ after, ¬ NamesRegion t) :
    lastRegion (before ++ region :: after) = some region := by
  have hnone : after.filter isRegion = [] :=
    List.filter_eq_nil_iff.2 fun t ht => mt isRegion_iff.1 (hafter t ht)
  rw [lastRegion, List.filter_append, List.filter_cons_of_pos (isRegion_iff.2 hregion), hnone,
    List.getLast?_concat]

/-! ### Normal forms -/

/-- The normal form of a language and a region. -/
def normalOf (language : List Char) : Option (List Char) → List Char
  | none => asciiLower language
  | some region => asciiLower language ++ '_' :: asciiUpper region

theorem normalForm_of_subtags {cs language : List Char} {others : List (List Char)}
    (h : subtags cs = language :: others) :
    normalForm cs = normalOf language (lastRegion others) := by
  cases hregion : (others.filter isRegion).getLast? <;>
    simp only [normalForm, h, lastRegion, normalOf, hregion]

theorem normalOf_congr {language₁ language₂ : List Char} {region₁ region₂ : Option (List Char)}
    (hlanguage : asciiLower language₁ = asciiLower language₂)
    (hregion : region₁.map asciiUpper = region₂.map asciiUpper) :
    normalOf language₁ region₁ = normalOf language₂ region₂ := by
  cases region₁ <;> cases region₂ <;> simp_all [normalOf]

/-- White space around an identifier does not show in its normal form. -/
theorem normalForm_trim (cs : List Char) : normalForm (trim cs) = normalForm cs := by
  rw [normalForm, normalForm, subtags, subtags, trim_trim]

/-- Two spellings have one normal form when, up to case, their languages and their last regions are
the same. -/
theorem normalForm_congr {language₁ language₂ cs₁ cs₂ : List Char}
    {others₁ others₂ : List (List Char)} (h₁ : Spells (language₁ :: others₁) cs₁)
    (h₂ : Spells (language₂ :: others₂) cs₂)
    (hlanguage : asciiLower language₁ = asciiLower language₂)
    (hregion : (lastRegion others₁).map asciiUpper = (lastRegion others₂).map asciiUpper) :
    normalForm cs₁ = normalForm cs₂ := by
  rw [normalForm_of_subtags h₁.subtags_eq, normalForm_of_subtags h₂.subtags_eq,
    normalOf_congr hlanguage hregion]

/-- However a language and subtags after it are spelled, the normal form is the language in small
letters, followed by the last region in capitals if a subtag is a region. Nothing else shows in it:
neither the case of the letters, nor the separators, nor subtags that are no regions, nor regions
before the last, nor a code set or a modifier. -/
theorem every_spelling_is_normalized (language : List Char) (others : List (List Char))
    (identifier : String) (h : Spells (language :: others) identifier.toList) :
    ((∀ t ∈ others, ¬ NamesRegion t) →
      normalize identifier = String.ofList (asciiLower language)) ∧
    (∀ before region after, others = before ++ region :: after → NamesRegion region →
      (∀ t ∈ after, ¬ NamesRegion t) →
      normalize identifier = String.ofList (asciiLower language ++ '_' :: asciiUpper region)) ∧
    ∀ (language' : List Char) (others' : List (List Char)) (identifier' : String),
      Spells (language' :: others') identifier'.toList →
      asciiLower language' = asciiLower language →
      (lastRegion others').map asciiUpper = (lastRegion others).map asciiUpper →
      normalize identifier' = normalize identifier := by
  have hnormal : normalForm identifier.toList = normalOf language (lastRegion others) :=
    normalForm_of_subtags h.subtags_eq
  refine ⟨?_, ?_, ?_⟩
  · intro hnone
    rw [normalize, hnormal, lastRegion_eq_none hnone, normalOf]
  · rintro before region after rfl hregion hafter
    rw [normalize, hnormal, lastRegion_append before hregion hafter, normalOf]
  · intro language' others' identifier' h' hlanguage hregion
    rw [normalize, normalize, normalForm_congr h' h hlanguage hregion]

/-- Separators before, between and after, a script before the region and a variant after it, and a
code set with white space in it. -/
theorem every_spelling_is_normalized_taiwanese :
    Spells ["ZH".toList, "hAnt".toList, "tw".toList, "1996".toList]
        " _ZH--hAnt_tw-1996_.UTF-8 @x ".toList ∧
      normalize " _ZH--hAnt_tw-1996_.UTF-8 @x " = "zh_TW" ∧
      normalize "zh-TW" = normalize " _ZH--hAnt_tw-1996_.UTF-8 @x " ∧
      normalize "Sr__latn" = "sr" := by
  have hlong : Spells ["ZH".toList, "hAnt".toList, "tw".toList, "1996".toList]
      ([' '] ++ ("_ZH--hAnt_tw-1996_".toList ++ '.' :: "UTF-8 @x ".toList)) := by
    have hjoin : Joins ["ZH".toList, "hAnt".toList, "tw".toList, "1996".toList]
        "_ZH--hAnt_tw-1996_".toList :=
      .separator rfl (.subtag (by decide +kernel) rfl (.separator rfl
        (.subtag (by decide +kernel) rfl (.subtag (by decide +kernel) rfl
          (.subtag (by decide +kernel) rfl .nil)))))
    exact .suffixed (List.forall_mem_singleton.2 rfl) hjoin rfl
  have hshort : Spells ["zh".toList, "TW".toList] ([] ++ ("zh-TW".toList ++ [])) :=
    .bare (List.forall_mem_nil _) (.subtag (by decide +kernel) rfl (.last (by decide +kernel)))
      (List.forall_mem_nil _)
  have hserbian : Spells ["Sr".toList, "latn".toList] ([] ++ ("Sr__latn".toList ++ [])) :=
    .bare (List.forall_mem_nil _)
      (.subtag (by decide +kernel) rfl (.separator rfl (.last (by decide +kernel))))
      (List.forall_mem_nil _)
  have hvariant : ∀ t ∈ ["1996".toList], ¬ NamesRegion t := by
    simp only [← isRegion_iff]
    decide +kernel
  have hscript : ∀ t ∈ ["latn".toList], ¬ NamesRegion t := by
    simp only [← isRegion_iff]
    decide +kernel
  obtain ⟨-, hregion, hsame⟩ :=
    every_spelling_is_normalized _ _ " _ZH--hAnt_tw-1996_.UTF-8 @x " hlong
  have htaiwan := hregion ["hAnt".toList] "tw".toList ["1996".toList] rfl
    (.letters (by decide) (by decide)) hvariant
  refine ⟨hlong, htaiwan.trans (by decide +kernel), ?_, ?_⟩
  · exact hsame _ _ "zh-TW" hshort (by decide +kernel) (by decide +kernel)
  · exact ((every_spelling_is_normalized _ _ "Sr__latn" hserbian).1 hscript).trans
      (by decide +kernel)

end LocaleClock.Locale
