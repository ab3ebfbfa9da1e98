import LocaleClock.Proofs.Pattern.Grammar

/-! Which texts can be used as patterns. They are listed here without the reader: the specifiers by
their characters, a pattern as specifiers and other characters in a row. The reader accepts exactly
these texts, and no text mends a percent sign after which no specifier is complete. -/

namespace LocaleClock.Pattern

open Text

/-! ### The specifiers by their characters -/

def numberCharacters : List Char :=
  ['C', 'G', 'H', 'I', 'M', 'S', 'U', 'V', 'W', 'Y', 'd', 'e', 'f', 'g', 'j', 'k', 'l', 'm', 'q',
   's', 'u', 'w', 'y']

/-- The specifiers of one character that are not numbers: words, offsets, several items at once, and
characters that stand for themselves. -/
def otherCharacters : List Char :=
  ['A', 'B', 'D', 'F', 'P', 'R', 'T', 'X', 'Z', 'a', 'b', 'c', 'h', 'n', 'p', 'r', 't', 'v', 'x',
   'z', '%', '+']

def flagCharacters : List Char := ['-', '_', '0']

def longSpecifiers : List (List Char) :=
  [[':', 'z'], [':', ':', 'z'], [':', ':', ':', 'z'], ['#', 'z'],
   ['.', 'f'], ['.', '3', 'f'], ['.', '6', 'f'], ['.', '9', 'f'],
   ['3', 'f'], ['6', 'f'], ['9', 'f']]

/-- The complete specifiers, without the percent sign. -/
inductive IsSpecifier : List Char → Prop
  | number {c : Char} (hc : c ∈ numberCharacters) : IsSpecifier [c]
  | other {c : Char} (hc : c ∈ otherCharacters) : IsSpecifier [c]
  | flagged {f c : Char} (hf : f ∈ flagCharacters) (hc : c ∈ numberCharacters) : IsSpecifier [f, c]
  | long {spec : List Char} (h : spec ∈ longSpecifiers) : IsSpecifier spec

theorem isSome_numberOf?_iff {c : Char} : (numberOf? c).isSome = true ↔ c ∈ numberCharacters := by
  have hall : numberCharacters.all (fun c => (numberOf? c).isSome) = true := by decide
  constructor
  · intro h
    unfold numberOf? at h
    split at h <;> simp [numberCharacters] at h ⊢
  · exact List.all_eq_true.1 hall c

theorem isSome_letter?_iff {c : Char} : (letter? c).isSome = true ↔ c ∈ otherCharacters := by
  have hall : otherCharacters.all (fun c => (letter? c).isSome) = true := by decide
  constructor
  · intro h
    unfold letter? at h
    split at h <;> simp [otherCharacters] at h ⊢
  · exact List.all_eq_true.1 hall c

theorem isSome_flag?_iff {c : Char} : (flag? c).isSome = true ↔ c ∈ flagCharacters := by
  have hall : flagCharacters.all (fun c => (flag? c).isSome) = true := by decide
  constructor
  · intro h
    unfold flag? at h
    split at h <;> simp [flagCharacters] at h ⊢
  · exact List.all_eq_true.1 hall c

theorem isSome_single?_iff {c : Char} :
    (single? c).isSome = true ↔ c ∈ numberCharacters ∨ c ∈ otherCharacters := by
  rw [← isSome_numberOf?_iff, ← isSome_letter?_iff, single?]
  cases numberOf? c <;> simp

theorem exists_of_mem_longSpecifiers {spec : List Char} (h : spec ∈ longSpecifiers) :
    ∃ items, Specifier spec items := by
  simp only [longSpecifiers, List.mem_cons, List.not_mem_nil, or_false] at h
  rcases h with rfl | rfl | rfl | rfl | rfl | rfl | rfl | rfl | rfl | rfl | rfl
  · exact ⟨_, .colon⟩
  · exact ⟨_, .full⟩
  · exact ⟨_, .hours⟩
  · exact ⟨_, .lenient⟩
  · exact ⟨_, .asNeeded⟩
  · exact ⟨_, .pointed rfl⟩
  · exact ⟨_, .pointed rfl⟩
  · exact ⟨_, .pointed rfl⟩
  · exact ⟨_, .bare rfl⟩
  · exact ⟨_, .bare rfl⟩
  · exact ⟨_, .bare rfl⟩

theorem isSpecifier_iff {spec : List Char} :
    IsSpecifier spec ↔ ∃ items, Specifier spec items := by
  constructor
  · intro h
    cases h with
    | number hc =>
      obtain ⟨items, hitems⟩ := Option.isSome_iff_exists.1 (isSome_single?_iff.2 (.inl hc))
      exact ⟨items, .single hitems⟩
    | other hc =>
      obtain ⟨items, hitems⟩ := Option.isSome_iff_exists.1 (isSome_single?_iff.2 (.inr hc))
      exact ⟨items, .single hitems⟩
    | flagged hf hc =>
      obtain ⟨fill, hfill⟩ := Option.isSome_iff_exists.1 (isSome_flag?_iff.2 hf)
      obtain ⟨n, hn⟩ := Option.isSome_iff_exists.1 (isSome_numberOf?_iff.2 hc)
      exact ⟨_, .flagged hfill hn⟩
    | long h => exact exists_of_mem_longSpecifiers h
  · rintro ⟨items, h⟩
    cases h with
    | colon | full | hours | lenient | asNeeded => exact .long (by decide)
    | pointed hd | bare hd =>
      unfold places? at hd
      split at hd <;> cases hd <;> exact .long (by decide)
    | flagged hc hd =>
      exact .flagged (isSome_flag?_iff.1 (Option.isSome_of_eq_some hc))
        (isSome_numberOf?_iff.1 (Option.isSome_of_eq_some hd))
    | single hc =>
      exact (isSome_single?_iff.1 (Option.isSome_of_eq_some hc)).elim .number .other

/-- No specifier is the start of another one. -/
theorem IsSpecifier.eq_of_prefix {spec spec' : List Char} (h : IsSpecifier spec)
    (h' : IsSpecifier spec') (hstart : spec <+: spec') : spec = spec' := by
  obtain ⟨items, hread⟩ := isSpecifier_iff.1 h
  obtain ⟨items', hread'⟩ := isSpecifier_iff.1 h'
  obtain ⟨rest, rfl⟩ := hstart
  have hshort := hread.specifier?_append rest
  have hlong := hread'.specifier?_append []
  rw [List.append_nil, hshort] at hlong
  cases hlong
  exact (List.append_nil spec).symm

/-! ### Rows of pieces -/

inductive IsPiece : List Char → Prop
  | literal {c : Char} (hc : c ≠ '%') : IsPiece [c]
  | specifier {spec : List Char} (h : IsSpecifier spec) : IsPiece ('%' :: spec)

/-- Holds of the texts that consist of pieces one after another. -/
def IsRowOfPieces (cs : List Char) : Prop :=
  ∃ pieces : List (List Char), (∀ piece ∈ pieces, IsPiece piece) ∧ cs = pieces.flatten

/-- Holds of the texts that can be used: pieces one after another with a character that is not white
space. -/
def IsPattern (cs : List Char) : Prop := (∃ c ∈ cs, isBlank c = false) ∧ IsRowOfPieces cs

theorem isRowOfPieces_iff {cs : List Char} : IsRowOfPieces cs ↔ ∃ items, Reads cs items := by
  constructor
  · rintro ⟨pieces, hpieces, rfl⟩
    induction pieces with
    | nil => exact ⟨_, .nil⟩
    | cons piece pieces ih =>
      obtain ⟨hpiece, hrest⟩ := List.forall_mem_cons.1 hpieces
      obtain ⟨items, hitems⟩ := ih hrest
      cases hpiece with
      | literal hc => exact ⟨_, .literal hc hitems⟩
      | specifier hs =>
        obtain ⟨own, hown⟩ := isSpecifier_iff.1 hs
        exact ⟨_, .specifier hown hitems⟩
  · rintro ⟨items, h⟩
    induction h with
    | nil => exact ⟨[], List.forall_mem_nil _, rfl⟩
    | literal hc _ ih =>
      obtain ⟨pieces, hpieces, rfl⟩ := ih
      exact ⟨_ :: pieces, List.forall_mem_cons.2 ⟨.literal hc, hpieces⟩, rfl⟩
    | specifier hs _ ih =>
      obtain ⟨pieces, hpieces, rfl⟩ := ih
      exact ⟨_ :: pieces,
        List.forall_mem_cons.2 ⟨.specifier (isSpecifier_iff.2 ⟨_, hs⟩), hpieces⟩, rfl⟩

/-- After a row of pieces a percent sign is read as if it stood at the start, so it is not
understood when no specifier comes after it. -/
theorem not_isRowOfPieces_of_percent {before rest : List Char} (hbefore : IsRowOfPieces before)
    (hrest : ∀ spec, IsSpecifier spec → ¬spec <+: rest) :
    ¬IsRowOfPieces (before ++ '%' :: rest) := by
  rw [isRowOfPieces_iff] at hbefore ⊢
  rintro ⟨items, h⟩
  obtain ⟨first, hfirst⟩ := hbefore
  have hread := h.items?_eq
  rw [hfirst.items?_append, items?_percent, Option.map_eq_some_iff] at hread
  obtain ⟨_, hread, -⟩ := hread
  obtain ⟨⟨own, rest'⟩, hspec, -⟩ := Option.bind_eq_some_iff.1 hread
  obtain ⟨spec, rfl, hs⟩ := exists_specifier hspec
  exact hrest spec (isSpecifier_iff.2 ⟨own, hs⟩) (List.prefix_append spec rest')

/-! ### Validation -/

theorem isUsable_iff {cs : List Char} : isUsable cs = true ↔ IsPattern cs := by
  rw [isUsable, IsPattern, Bool.and_eq_true, isRowOfPieces_iff, Option.isSome_iff_exists]
  simp only [allBlank, items?_eq_some_iff, Bool.not_eq_true', List.all_eq_false,
    Bool.not_eq_true]

theorem validate_eq_ok_iff {pattern : String} :
    validate pattern = .ok () ↔ isUsable pattern.toList = true := by
  unfold validate
  split <;> simp_all

theorem validate_eq_error {pattern : String} {e : FormatError} (h : validate pattern = .error e) :
    e = .invalidPattern pattern := by
  unfold validate at h
  split at h <;> cases h
  rfl

theorem exists_reads_of_validate {pattern : String} (h : validate pattern = .ok ()) :
    ∃ items, Reads pattern.toList items :=
  isRowOfPieces_iff.1 (isUsable_iff.1 (validate_eq_ok_iff.1 h)).2

/-- A text is accepted exactly when it is a pattern, and otherwise refused as it is given. So it is
refused whenever pieces come before a percent sign and no complete specifier stands behind the sign,
whatever else does, and also when the text ends inside the specifier. -/
theorem accepted_texts_are_patterns (pattern : String) :
    (validate pattern = .ok () ↔ IsPattern pattern.toList) ∧
    (¬IsPattern pattern.toList → validate pattern = .error (.invalidPattern pattern)) ∧
    ∀ before rest : List Char, pattern.toList = before ++ '%' :: rest → IsRowOfPieces before →
      ((∀ spec, IsSpecifier spec → ¬spec <+: rest) ∨
        ∃ spec, IsSpecifier spec ∧ rest <+: spec ∧ rest ≠ spec) →
      validate pattern = .error (.invalidPattern pattern) := by
  have hrefused : ¬IsPattern pattern.toList →
      validate pattern = .error (.invalidPattern pattern) := by
    intro h
    rw [validate, if_neg (mt isUsable_iff.1 h)]
  refine ⟨validate_eq_ok_iff.trans isUsable_iff, hrefused, ?_⟩
  intro before rest hpattern hbefore hrest
  have hnone : ∀ spec, IsSpecifier spec → ¬spec <+: rest := by
    rcases hrest with hnone | ⟨whole, hwhole, hstart, hne⟩
    · exact hnone
    · -- A specifier in an unfinished one would be the start of the whole one, so all of it.
      intro spec hspec hstarts
      have heq := hspec.eq_of_prefix hwhole (hstarts.trans hstart)
      exact hne (hstart.eq_of_length_le (heq ▸ hstarts.length_le))
  apply hrefused
  rintro ⟨-, hrow⟩
  rw [hpattern] at hrow
  exact not_isRowOfPieces_of_percent hbefore hnone hrow

theorem accepted_texts_are_patterns_cut_off :
    IsPattern "%%%-d".toList ∧ validate "%%%-d" = .ok () ∧
      IsSpecifier [':', ':', 'z'] ∧ [':'] <+: [':', ':', 'z'] ∧
      validate "%%%-d%:" = .error (.invalidPattern "%%%-d%:") := by
  have hpieces : IsRowOfPieces "%%%-d".toList := by
    refine ⟨[['%', '%'], ['%', '-', 'd']], ?_, by decide⟩
    simp only [List.forall_mem_cons]
    exact ⟨.specifier (.other (by decide)), .specifier (.flagged (by decide) (by decide)),
      List.forall_mem_nil _⟩
  have hpattern : IsPattern "%%%-d".toList := ⟨⟨'%', by decide, rfl⟩, hpieces⟩
  have hlong : IsSpecifier [':', ':', 'z'] := .long (by decide)
  refine ⟨hpattern, (accepted_texts_are_patterns _).1.2 hpattern, hlong, by decide, ?_⟩
  exact (accepted_texts_are_patterns _).2.2 "%%%-d".toList [':'] (by decide) hpieces
    (.inr ⟨_, hlong, by decide, by decide⟩)

end LocaleClock.Pattern
