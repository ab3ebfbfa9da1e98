import Mathlib
import LocaleClock.Proofs.Locale.Languages

/-! What an identifier means. The text of an identifier counts only when it is a known name;
everything else is decided by its normal form, and no candidate of a normal form is in another
language than the normal form itself, Norwegian Bokmål in place of Norwegian apart. -/

namespace LocaleClock.Locale

open Text

/-- An identifier without the white space around it. -/
def bare (identifier : String) : String := String.ofList (trim identifier.toList)

/-- The locale that a normal form means, when the text it comes from is no known name. -/
def ofNormalForm? (normal : List Char) : Option Locale :=
  (namesOfNormalForm normal).findSome? ofName?

theorem ofName?_of_not_mem {name : String} (h : name ∉ names) : ofName? name = none := dif_neg h

/-- Nothing is known by the names that the empty normal form stands for, which have no language. -/
theorem ofNormalForm?_nil : ofNormalForm? [] = none := by
  apply List.findSome?_eq_none_iff.2
  intro name hname
  apply ofName?_of_not_mem
  intro hknown
  rcases languageOf_of_mem_namesOfNormalForm hname with hempty | ⟨hno, -⟩
  · exact (names_checked name hknown).1 hempty
  · cases hno

theorem ofNormalForm?_eq_or (normal : List Char) :
    ofNormalForm? normal =
      (ofName? (String.ofList normal)).or ((namesOfNormalForm normal).tail.findSome? ofName?) := by
  rw [ofNormalForm?, namesOfNormalForm, List.cons_append, List.cons_append, List.tail_cons,
    ← List.singleton_append, List.findSome?_append, List.findSome?_singleton]

/-- A blank identifier and one without subtags stand for fewer candidates than others, but none of
those left out is known. -/
theorem find?_eq_or (identifier : String) :
    find? identifier =
      (ofName? (bare identifier)).or (ofNormalForm? (normalForm identifier.toList)) := by
  have hnormal := normalForm_trim identifier.toList
  unfold find? candidates bare
  by_cases htrim : trim identifier.toList = []
  · have hblank : normalForm identifier.toList = [] := by rw [← hnormal, htrim]; rfl
    have hnone := ofNormalForm?_nil
    rw [ofNormalForm?_eq_or, Option.or_eq_none_iff] at hnone
    rw [htrim, hblank, ofNormalForm?_nil, hnone.1]
    rfl
  · by_cases hempty : normalForm identifier.toList = []
    · simp [htrim, hnormal, hempty, ofNormalForm?_nil]
    · simp only [List.isEmpty_iff, htrim, hnormal, hempty, if_false]
      rw [← List.singleton_append, List.findSome?_append, List.findSome?_singleton, ofNormalForm?]

theorem resolve_eq_ok_iff {identifier : String} {l : Locale} :
    resolve identifier = .ok l ↔ find? identifier = some l := by
  unfold resolve
  cases find? identifier <;> simp

theorem resolve_of_find?_eq_none {identifier : String} (h : find? identifier = none) :
    resolve identifier = .error (.unknownLocale identifier) := by
  simp only [resolve, h]

theorem resolve_eq_error {identifier : String} {e : FormatError}
    (h : resolve identifier = .error e) : e = .unknownLocale identifier := by
  unfold resolve at h
  split at h <;> cases h
  rfl

/-! ### Two identifiers -/

/-- Holds of the identifiers whose text does not count beyond their normal form. -/
def IsLoose (identifier : String) : Prop :=
  bare identifier ∉ names ∨ bare identifier = normalize identifier

instance (identifier : String) : Decidable (IsLoose identifier) :=
  inferInstanceAs (Decidable (_ ∨ _))

/-- Holds of two identifiers that mean one locale, or of which neither means any and each is quoted
as it is given. -/
def MeanTheSame (a b : String) : Prop :=
  (∃ l, resolve a = .ok l ∧ resolve b = .ok l) ∨
    (resolve a = .error (.unknownLocale a) ∧ resolve b = .error (.unknownLocale b))

theorem IsLoose.find?_eq {identifier : String} (h : IsLoose identifier) :
    find? identifier = ofNormalForm? (normalForm identifier.toList) := by
  rw [find?_eq_or]
  rcases h with h | h
  · rw [ofName?_of_not_mem h, Option.none_or]
  · -- The normal form is its own first candidate, so trying it once before changes nothing.
    have hfirst : ofNormalForm? (normalForm identifier.toList) =
        (ofName? (bare identifier)).or (ofNormalForm? (normalForm identifier.toList)) := by
      rw [h, normalize, ofNormalForm?_eq_or, ← Option.or_assoc, Option.or_self]
    exact hfirst.symm

theorem meanTheSame_of_find?_eq {a b : String} (h : find? a = find? b) : MeanTheSame a b := by
  cases hb : find? b with
  | none => exact .inr ⟨resolve_of_find?_eq_none (h.trans hb), resolve_of_find?_eq_none hb⟩
  | some l => exact .inl ⟨l, resolve_eq_ok_iff.2 (h.trans hb), resolve_eq_ok_iff.2 hb⟩

/-- Loose identifiers mean the same when they have the same normal form, and they have the same
normal form however the same language and the same last region are spelled. -/
theorem resolution_depends_on_normal_form (a b : String) (ha : IsLoose a) (hb : IsLoose b) :
    (normalize a = normalize b → MeanTheSame a b) ∧
    ∀ (language₁ language₂ : List Char) (others₁ others₂ : List (List Char)),
      Spells (language₁ :: others₁) a.toList → Spells (language₂ :: others₂) b.toList →
      asciiLower language₁ = asciiLower language₂ →
      (lastRegion others₁).map asciiUpper = (lastRegion others₂).map asciiUpper →
      normalize a = normalize b ∧ MeanTheSame a b := by
  have hsame : normalize a = normalize b → MeanTheSame a b := by
    intro h
    have hnormal : normalForm a.toList = normalForm b.toList := String.ofList_injective h
    exact meanTheSame_of_find?_eq (by rw [ha.find?_eq, hb.find?_eq, hnormal])
  refine ⟨hsame, fun language₁ language₂ others₁ others₂ h₁ h₂ hlanguage hregion => ?_⟩
  have hnormal : normalize a = normalize b := by
    rw [normalize, normalize, normalForm_congr h₁ h₂ hlanguage hregion]
  exact ⟨hnormal, hsame hnormal⟩

theorem resolution_depends_on_normal_form_austrian :
    normalize "de-Latn-at.UTF-8" = normalize " DE__1901_AT@x" ∧
      MeanTheSame "de-Latn-at.UTF-8" " DE__1901_AT@x" := by
  have hloose : IsLoose "de-Latn-at.UTF-8" ∧ IsLoose " DE__1901_AT@x" := by decide +kernel
  have hlatin : Spells ["de".toList, "Latn".toList, "at".toList]
      ([] ++ ("de-Latn-at".toList ++ '.' :: "UTF-8".toList)) := by
    have hjoin : Joins ["de".toList, "Latn".toList, "at".toList] "de-Latn-at".toList :=
      .subtag (by decide +kernel) rfl (.subtag (by decide +kernel) rfl (.last (by decide +kernel)))
    exact .suffixed (List.forall_mem_nil _) hjoin rfl
  have hreformed : Spells ["DE".toList, "1901".toList, "AT".toList]
      ([' '] ++ ("DE__1901_AT".toList ++ '@' :: ['x'])) := by
    have hjoin : Joins ["DE".toList, "1901".toList, "AT".toList] "DE__1901_AT".toList :=
      .subtag (by decide +kernel) rfl
        (.separator rfl (.subtag (by decide +kernel) rfl (.last (by decide +kernel))))
    exact .suffixed (List.forall_mem_singleton.2 rfl) hjoin rfl
  exact (resolution_depends_on_normal_form _ _ hloose.1 hloose.2).2 _ _ _ _ hlatin hreformed
    (by decide +kernel) (by decide +kernel)

/-! ### One identifier -/

theorem find?_bare {identifier : String} {l : Locale} (h : l.name = bare identifier) :
    find? identifier = some l := by
  rw [find?_eq_or, ← h, ofName?_name, Option.some_or]

theorem find?_normalize {identifier : String} {l : Locale} (hbare : bare identifier ∉ names)
    (h : l.name = normalize identifier) : find? identifier = some l := by
  rw [find?_eq_or, ofName?_of_not_mem hbare, Option.none_or, ofNormalForm?_eq_or, ← normalize, ← h,
    ofName?_name, Option.some_or]

/-- A resolved identifier keeps its language, and what is more specific about it wins: its text if
that is a known name, else its normal form if that is one. -/
theorem resolution_keeps_the_language (identifier : String) :
    (∀ l, resolve identifier = .ok l →
      asciiLower (nameLanguage l.name.toList) = languageOf (normalForm identifier.toList) ∨
        (languageOf (normalForm identifier.toList) = "no".toList ∧ l.name = "nb_NO")) ∧
    (bare identifier ∈ names → ∃ l, resolve identifier = .ok l ∧ l.name = bare identifier) ∧
    (bare identifier ∉ names → normalize identifier ∈ names →
      ∃ l, resolve identifier = .ok l ∧ l.name = normalize identifier) := by
  refine ⟨fun l hl => ?_, fun hbare => ?_, fun hbare hnormal => ?_⟩
  · obtain ⟨hname, hlower⟩ := language_of_name l.name l.known
    rw [hname]
    rw [resolve_eq_ok_iff, find?_eq_or, Option.or_eq_some_iff] at hl
    rcases hl with hl | ⟨-, hl⟩
    · have hnormal : normalForm l.name.toList = normalForm identifier.toList := by
        rw [name_of_ofName? hl, bare, String.toList_ofList, normalForm_trim]
      exact .inl (hnormal ▸ hlower)
    · obtain ⟨candidate, hmem, hcandidate⟩ := List.exists_of_findSome?_eq_some hl
      rw [← name_of_ofName? hcandidate] at hmem
      rcases languageOf_of_mem_namesOfNormalForm hmem with hsame | hnorwegian
      · exact .inl (by rw [hsame, asciiLower_languageOf_normalForm])
      · exact .inr hnorwegian
  · exact ⟨⟨bare identifier, hbare⟩, resolve_eq_ok_iff.2 (find?_bare rfl), rfl⟩
  · exact ⟨⟨normalize identifier, hnormal⟩, resolve_eq_ok_iff.2 (find?_normalize hbare rfl), rfl⟩

theorem resolution_keeps_the_language_serbian_brazilian_norwegian :
    (∃ l, resolve " sr_RS@latin " = .ok l ∧ l.name = "sr_RS@latin") ∧
    (∃ l, resolve "PT-Latn-br.UTF-8" = .ok l ∧ l.name = "pt_BR") ∧
    resolve "no" = .ok ⟨"nb_NO", by decide⟩ ∧
    (asciiLower (nameLanguage "nb_NO".toList) = languageOf (normalForm "no".toList) ∨
      (languageOf (normalForm "no".toList) = "no".toList ∧ "nb_NO" = "nb_NO")) := by
  have hlatin : bare " sr_RS@latin " = "sr_RS@latin" := by decide +kernel
  have hbrazil : normalize "PT-Latn-br.UTF-8" = "pt_BR" := by decide +kernel
  have hno : resolve "no" = .ok ⟨"nb_NO", by decide⟩ := by decide +kernel
  obtain ⟨-, hbare, -⟩ := resolution_keeps_the_language " sr_RS@latin "
  obtain ⟨-, -, hnormal⟩ := resolution_keeps_the_language "PT-Latn-br.UTF-8"
  obtain ⟨hlanguage, -, -⟩ := resolution_keeps_the_language "no"
  rw [hlatin] at hbare
  rw [hbrazil] at hnormal
  exact ⟨hbare (by decide), hnormal (by decide +kernel) (by decide), hno, hlanguage _ hno⟩

end LocaleClock.Locale
