import Mathlib.Data.List.DropRight
import LocaleClock.Text.Blank

/-! What trimming leaves of a text: blank characters around it make no difference, a text without
any stays as it is, and a second time changes nothing. -/

namespace LocaleClock.Text

theorem trimStart_cons {c : Char} (hc : isBlank c = false) (cs : List Char) :
    trimStart (c :: cs) = c :: cs :=
  List.dropWhile_cons_of_neg (by simp [hc])

theorem trimStart_eq_self {cs : List Char} (h : ∀ c ∈ cs, isBlank c = false) :
    trimStart cs = cs := by
  cases cs with
  | nil => rfl
  | cons c cs => exact trimStart_cons (h c List.mem_cons_self) cs

theorem trimEnd_eq_self {cs : List Char} (h : ∀ c ∈ cs, isBlank c = false) : trimEnd cs = cs := by
  have hreverse := trimStart_eq_self fun c hc => h c (List.mem_reverse.1 hc)
  rw [trimStart] at hreverse
  rw [trimEnd, hreverse, List.reverse_reverse]

/-- What is cut off at the end comes from what stands after the last character that is not blank. -/
theorem trimEnd_append {cs : List Char} (h : ∀ c ∈ cs, isBlank c = false) (rest : List Char) :
    trimEnd (cs ++ rest) = cs ++ trimEnd rest := by
  have hcs := trimEnd_eq_self h
  unfold trimEnd at hcs ⊢
  rw [List.reverse_append, List.dropWhile_append]
  split
  case isTrue hempty => rw [hcs, List.isEmpty_iff.1 hempty, List.reverse_nil, List.append_nil]
  case isFalse => rw [List.reverse_append, List.reverse_reverse]

theorem trimEnd_eq_nil {cs : List Char} (h : ∀ c ∈ cs, isBlank c = true) : trimEnd cs = [] :=
  List.rdropWhile_eq_nil_iff.2 h

theorem trim_blank_append {before : List Char} (h : ∀ c ∈ before, isBlank c = true)
    (cs : List Char) : trim (before ++ cs) = trim cs := by
  rw [trim, trimStart, List.dropWhile_append_of_pos h]
  rfl

/-- Nothing is cut off at the end before a character that is not blank. -/
theorem trimEnd_append_cons {c : Char} (hc : isBlank c = false) (cs rest : List Char) :
    trimEnd (cs ++ c :: rest) = cs ++ c :: trimEnd rest := by
  have hkept : (c :: cs.reverse).dropWhile isBlank = c :: cs.reverse := trimStart_cons hc _
  have hreverse : (cs ++ c :: rest).reverse = rest.reverse ++ c :: cs.reverse := by simp
  unfold trimEnd
  rw [hreverse, List.dropWhile_append, hkept]
  split
  case isTrue hempty => simp [List.isEmpty_iff.1 hempty]
  case isFalse => simp

theorem trimEnd_eq_nil_iff {cs : List Char} : trimEnd cs = [] ↔ ∀ c ∈ cs, isBlank c = true :=
  List.rdropWhile_eq_nil_iff

/-- A text is what trimming leaves of it, with blank characters around it. -/
theorem exists_eq_append_trim (cs : List Char) :
    ∃ before after, (∀ c ∈ before, isBlank c = true) ∧ (∀ c ∈ after, isBlank c = true) ∧
      cs = before ++ (trim cs ++ after) := by
  refine ⟨cs.takeWhile isBlank, (trimStart cs).rtakeWhile isBlank,
    fun c hc => List.mem_takeWhile_imp hc, fun c hc => List.mem_rtakeWhile_imp hc, ?_⟩
  have hend : trim cs ++ (trimStart cs).rtakeWhile isBlank = trimStart cs :=
    List.rdropWhile_append_rtakeWhile
  rw [hend, trimStart, List.takeWhile_append_dropWhile]

theorem trim_append {cs : List Char} (hne : cs ≠ []) (h : ∀ c ∈ cs, isBlank c = false)
    (rest : List Char) : trim (cs ++ rest) = cs ++ trimEnd rest := by
  cases cs with
  | nil => exact absurd rfl hne
  | cons c cs =>
    rw [trim, List.cons_append, trimStart_cons (h c List.mem_cons_self), ← List.cons_append,
      trimEnd_append h]

theorem trim_eq_self {cs : List Char} (h : ∀ c ∈ cs, isBlank c = false) : trim cs = cs := by
  rw [trim, trimStart_eq_self h, trimEnd_eq_self h]

/-- Holds of the texts that neither start nor end with white space. -/
def IsTrimmed (cs : List Char) : Prop :=
  (∀ c ∈ cs.head?, isBlank c = false) ∧ ∀ c ∈ cs.getLast?, isBlank c = false

theorem trimStart_eq_self_iff {cs : List Char} :
    trimStart cs = cs ↔ ∀ c ∈ cs.head?, isBlank c = false := by
  cases cs with
  | nil => simp [trimStart]
  | cons c cs =>
    rw [trimStart, List.dropWhile_eq_self_iff]
    simp

theorem trimEnd_eq_self_iff {cs : List Char} :
    trimEnd cs = cs ↔ ∀ c ∈ cs.getLast?, isBlank c = false := by
  have hlast : trimEnd cs = cs ↔ ∀ hne : cs ≠ [], ¬ isBlank (cs.getLast hne) = true :=
    List.rdropWhile_eq_self_iff
  rw [hlast]
  cases cs with
  | nil => simp
  | cons c cs => simp [List.getLast?_eq_some_getLast]

theorem trim_eq_self_iff {cs : List Char} : trim cs = cs ↔ IsTrimmed cs := by
  constructor
  · intro h
    -- both steps leave the text as it is, since neither makes it longer
    have hend : (trim cs).length ≤ (trimStart cs).length :=
      (List.rdropWhile_prefix isBlank (trimStart cs)).length_le
    have hsuffix : trimStart cs <:+ cs := List.dropWhile_suffix isBlank
    have hstart : trimStart cs = cs := by
      rw [h] at hend
      exact hsuffix.eq_of_length_le hend
    rw [trim, hstart] at h
    exact ⟨trimStart_eq_self_iff.1 hstart, trimEnd_eq_self_iff.1 h⟩
  · rintro ⟨hstart, hend⟩
    rw [trim, trimStart_eq_self_iff.2 hstart, trimEnd_eq_self_iff.2 hend]

instance (cs : List Char) : Decidable (IsTrimmed cs) := decidable_of_iff _ trim_eq_self_iff

theorem trimStart_trimEnd {cs : List Char} (h : trimStart cs = cs) :
    trimStart (trimEnd cs) = trimEnd cs := by
  cases hend : trimEnd cs with
  | nil => rfl
  | cons c kept =>
    have hstart : trimEnd cs <+: cs := List.rdropWhile_prefix isBlank cs
    rw [hend] at hstart
    obtain ⟨rest, rfl⟩ := hstart
    -- what is left starts like the text, and the text does not start with a blank
    cases hc : isBlank c with
    | false => exact trimStart_cons hc kept
    | true =>
      have hlength := congrArg List.length h
      have hle := (List.dropWhile_sublist isBlank (l := kept ++ rest)).length_le
      rw [trimStart, List.cons_append, List.dropWhile_cons_of_pos hc, List.length_cons] at hlength
      omega

theorem trim_trim (cs : List Char) : trim (trim cs) = trim cs := by
  have hstart : trimStart (trimStart cs) = trimStart cs := List.dropWhile_idempotent isBlank cs
  rw [trim, trim, trimStart_trimEnd hstart]
  exact List.rdropWhile_idempotent isBlank (trimStart cs)

end LocaleClock.Text
