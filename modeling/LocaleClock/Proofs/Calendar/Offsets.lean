import LocaleClock.Calendar.Offset
import LocaleClock.Proofs.Text.Numbers
import LocaleClock.Proofs.Text.Trimming

/-! Offsets read and written. What is read is always a whole number of minutes, and a whole number
of minutes is read back from its text. -/

namespace LocaleClock.Offset

open Text

/-! ### Reading -/

theorem ofSeconds?_eq_some_iff {n : Int} {o : Offset} :
    ofSeconds? n = some o ↔ o.seconds = n := by
  obtain ⟨s, hs⟩ := o
  unfold ofSeconds?
  split
  case isTrue => simp [eq_comm]
  case isFalse h =>
    constructor
    · intro ho
      cases ho
    · rintro rfl
      exact absurd hs h

theorem signed?_spelled {c h₁ h₀ m₁ m₀ : Char} {sign : Int} {hours minutes : Nat}
    (hc : sign? c = some sign) (hhours : twoDigits? h₁ h₀ = some hours) {separators : List Char}
    (hs : ∀ s ∈ separators, isSeparator s = true) (hm : isSeparator m₁ = false)
    (hminutes : twoDigits? m₁ m₀ = some minutes) (rest : List Char) :
    signed? (c :: h₁ :: h₀ :: (separators ++ m₁ :: m₀ :: rest)) =
      if minutes < 60 then ofSeconds? (sign * (hours * 3600 + minutes * 60 : Nat)) else none := by
  have hdrop : (separators ++ m₁ :: m₀ :: rest).dropWhile isSeparator = m₁ :: m₀ :: rest := by
    rw [List.dropWhile_append_of_pos hs, List.dropWhile_cons_of_neg (by simp [hm])]
  simp [signed?, hc, hhours, hdrop, hminutes]

theorem dvd_of_signed? {cs : List Char} {o : Offset} (h : signed? cs = some o) :
    60 ∣ o.seconds := by
  unfold signed? at h
  split at h
  case h_2 => cases h
  case h_1 =>
    simp only [Option.bind_eq_bind, Option.bind_eq_some_iff] at h
    obtain ⟨sign, -, hours, -, h⟩ := h
    split at h
    case h_2 => cases h
    case h_1 =>
      obtain ⟨minutes, -, h⟩ := Option.bind_eq_some_iff.1 h
      split at h
      case isFalse => cases h
      case isTrue =>
        rw [ofSeconds?_eq_some_iff.1 h]
        exact Dvd.dvd.mul_left (by omega) sign

theorem dvd_of_parse {text : String} {o : Offset} (h : parse text = .ok o) : 60 ∣ o.seconds := by
  unfold parse at h
  split at h
  case h_2 => cases h
  case h_1 o' hread =>
    cases h
    unfold parse? at hread
    dsimp only at hread
    split at hread
    · cases hread
      exact Int.dvd_zero 60
    · exact dvd_of_signed? hread

/-! ### Reading what is written -/

theorem twoDigits?_digit {n : Nat} (hn : n < 100) :
    twoDigits? (digit (n / 10)) (digit (n % 10)) = some n := by
  have htens : n / 10 < 10 := by omega
  have hones : n % 10 < 10 := by omega
  simp [twoDigits?, digitValue?_digit htens, digitValue?_digit hones, Nat.div_add_mod]

theorem isSeparator_of_isDigit {c : Char} (h : c.isDigit = true) : isSeparator c = false := by
  have hcolon : c ≠ ':' := by
    rintro rfl
    cases h
  simp [isSeparator, isBlank_of_isDigit h, hcolon]

theorem colonText_of_dvd {o : Offset} (h : 60 ∣ o.seconds) :
    o.colonText =
      o.signChar :: twoDigits (o.size / 3600) ++ ':' :: twoDigits (o.size / 60 % 60) := by
  have hrounded : o.roundedMinutes = o.size / 60 := by
    rw [roundedMinutes, size]
    omega
  have hhours : o.size / 60 / 60 = o.size / 3600 := Nat.div_div_eq_div_mul _ _ _
  rw [colonText, hrounded, hhours]

theorem size_lt (o : Offset) : o.size < 86400 := by
  have h := o.inDay
  rw [size]
  omega

theorem isBlank_of_mem_colonText {o : Offset} (h : 60 ∣ o.seconds) :
    ∀ c ∈ o.colonText, isBlank c = false := by
  have hsize := o.size_lt
  have hsign : isBlank o.signChar = false := by
    rw [signChar]
    split <;> rfl
  have hdigits : ∀ {n : Nat}, n < 100 → ∀ c ∈ twoDigits n, isBlank c = false :=
    fun hn c hc => isBlank_of_isDigit (isDigit_of_mem_twoDigits hn c hc)
  rw [colonText_of_dvd h, List.forall_mem_append, List.forall_mem_cons, List.forall_mem_cons]
  exact ⟨⟨hsign, hdigits (by omega)⟩, rfl, hdigits (by omega)⟩

theorem parse_eq_ok_iff {text : String} {o : Offset} :
    parse text = .ok o ↔ parse? text = some o := by
  unfold parse
  cases parse? text <;> simp

theorem parse_eq_error {text : String} {e : FormatError} (h : parse text = .error e) :
    e = .invalidOffset text := by
  unfold parse at h
  split at h <;> cases h
  rfl

theorem sign?_signChar (o : Offset) :
    sign? o.signChar = some (if o.seconds < 0 then -1 else 1) := by
  rw [signChar]
  split <;> rfl

/-- A text of another length than `Z` and `UTC` is read as a signed form. -/
theorem parse?_of_length {cs : List Char} (hblank : ∀ c ∈ cs, isBlank c = false)
    (hlength : 3 < cs.length) : parse? (String.ofList cs) = signed? cs := by
  have hletters : ∀ {ds : List Char}, ds.length ≤ 3 → sameLetters cs ds = false := by
    intro ds hds
    rw [sameLetters, beq_eq_false_iff_ne]
    intro heq
    have := congrArg List.length heq
    simp only [asciiLower, List.length_map] at this
    omega
  rw [parse?, String.toList_ofList, trim_eq_self hblank]
  simp [hletters]

theorem parse_colonText {o : Offset} (h : 60 ∣ o.seconds) :
    parse (String.ofList o.colonText) = .ok o := by
  have hsize := o.size_lt
  have hhours : o.size / 3600 < 100 := by omega
  have hminutes : o.size / 60 % 60 < 100 := by omega
  have hminute : isSeparator (digit (o.size / 60 % 60 / 10)) = false :=
    isSeparator_of_isDigit (isDigit_digit (by omega))
  have hcolon : ∀ s ∈ [':'], isSeparator s = true := by simp [isSeparator]
  have hread := signed?_spelled (sign?_signChar o) (twoDigits?_digit hhours) hcolon hminute
    (twoDigits?_digit hminutes) []
  have htext : o.colonText = o.signChar :: digit (o.size / 3600 / 10) ::
      digit (o.size / 3600 % 10) :: ([':'] ++ digit (o.size / 60 % 60 / 10) ::
        digit (o.size / 60 % 60 % 10) :: []) := colonText_of_dvd h
  have hlength : 3 < o.colonText.length := by simp [htext]
  rw [parse_eq_ok_iff, parse?_of_length (isBlank_of_mem_colonText h) hlength, htext, hread,
    if_pos (by omega), ofSeconds?_eq_some_iff]
  -- the size and the sign make up the seconds again
  rw [size] at hsize ⊢
  split <;> omega

end LocaleClock.Offset
