import LocaleClock.Proofs.Calendar.Offsets

/-! Which texts are read as offsets. Apart from the names of the zero offset, a text is read when a
signed form stands at its start: a sign, two digits of hours, separators and two digits of minutes.
A text has at most one such form at its start, and what comes after the form changes neither whether
the text is read nor what it means. -/

namespace LocaleClock.Offset

open Text

/-! ### Signed forms -/

/-- The texts of hours and minutes with a sign, which is one or minus one: the sign, two digits,
separators in any number and two digits again. -/
inductive IsSignedForm (sign : Int) (hours minutes : Nat) : List Char → Prop
  | mk {c h₁ h₀ m₁ m₀ : Char} {separators : List Char}
      (hsign : c = '+' ∧ sign = 1 ∨ (c = '-' ∨ c = '\u2212') ∧ sign = -1)
      (hhours : number? [h₁, h₀] = some hours)
      (hseparators : ∀ s ∈ separators, s = ':' ∨ isBlank s = true)
      (hminutes : number? [m₁, m₀] = some minutes) :
      IsSignedForm sign hours minutes (c :: h₁ :: h₀ :: (separators ++ [m₁, m₀]))

/-- Holds of the texts that spell an offset with hours and minutes. -/
def Spells (o : Offset) (cs : List Char) : Prop :=
  ∃ sign hours minutes, IsSignedForm sign hours minutes cs ∧ hours < 24 ∧ minutes < 60 ∧
    o.seconds = sign * (hours * 3600 + minutes * 60 : Nat)

/-- The names of the zero offset, in any case. -/
def IsZeroName (cs : List Char) : Prop := asciiLower cs = ['z'] ∨ asciiLower cs = ['u', 't', 'c']

theorem sign?_eq_some_iff {c : Char} {sign : Int} :
    sign? c = some sign ↔ c = '+' ∧ sign = 1 ∨ (c = '-' ∨ c = '\u2212') ∧ sign = -1 := by
  unfold sign?
  split
  case isTrue h => simp [h, eq_comm]
  case isFalse h => split <;> simp_all [eq_comm]

theorem twoDigits?_eq_number? (tens ones : Char) : twoDigits? tens ones = number? [tens, ones] := by
  have hvalue : ∀ c, digitValue? c = if c.isDigit then some (c.toNat - 48) else none :=
    fun c => rfl
  cases htens : tens.isDigit <;> cases hones : ones.isDigit <;>
    simp [twoDigits?, hvalue, number?, htens, hones, Nat.ofDigitChars]

theorem isSeparator_iff {c : Char} : isSeparator c = true ↔ c = ':' ∨ isBlank c = true := by
  rw [isSeparator, Bool.or_eq_true, beq_iff_eq]

/-- Separators end where a character is none, whatever follows. -/
theorem separators_unique {separators separators' rest rest' : List Char} {m m' : Char}
    (hs : ∀ c ∈ separators, isSeparator c = true) (hm : isSeparator m = false)
    (hs' : ∀ c ∈ separators', isSeparator c = true) (hm' : isSeparator m' = false)
    (h : separators ++ m :: rest = separators' ++ m' :: rest') :
    separators = separators' ∧ m :: rest = m' :: rest' := by
  have htake : ∀ {ss : List Char} {x : Char} (r : List Char),
      (∀ c ∈ ss, isSeparator c = true) → isSeparator x = false →
      (ss ++ x :: r).takeWhile isSeparator = ss := by
    intro ss x r hss hx
    rw [List.takeWhile_append_of_pos hss, List.takeWhile_cons_of_neg (by simp [hx]),
      List.append_nil]
  have hsame : separators = separators' := by
    rw [← htake rest hs hm, h, htake rest' hs' hm']
  rw [hsame] at h
  exact ⟨hsame, List.append_cancel_left h⟩

namespace IsSignedForm

variable {sign sign' : Int} {hours hours' minutes minutes' : Nat} {form form' : List Char}

/-- A text starts with at most one signed form. -/
theorem unique (h : IsSignedForm sign hours minutes form)
    (h' : IsSignedForm sign' hours' minutes' form') {rest rest' : List Char}
    (heq : form ++ rest = form' ++ rest') : form = form' ∧ rest = rest' := by
  obtain @⟨c, h₁, h₀, m₁, m₀, separators, -, -, hs, hm⟩ := h
  obtain @⟨c', h₁', h₀', m₁', m₀', separators', -, -, hs', hm'⟩ := h'
  have hminute : ∀ {x y : Char} {n : Nat}, number? [x, y] = some n → isSeparator x = false :=
    fun hn => isSeparator_of_isDigit (isDigit_of_number? hn _ List.mem_cons_self)
  simp only [List.cons_append, List.append_assoc, List.cons.injEq, List.nil_append] at heq ⊢
  obtain ⟨rfl, rfl, rfl, hrest⟩ := heq
  obtain ⟨rfl, htail⟩ := separators_unique (fun c hc => isSeparator_iff.2 (hs c hc)) (hminute hm)
    (fun c hc => isSeparator_iff.2 (hs' c hc)) (hminute hm') hrest
  simp_all

theorem exists_eq (h : IsSignedForm sign hours minutes form) :
    ∃ c middle m, form = c :: (middle ++ [m]) ∧ (c = '+' ∨ c = '-' ∨ c = '\u2212') ∧
      m.isDigit = true := by
  obtain @⟨c, h₁, h₀, m₁, m₀, separators, hsign, -, -, hminutes⟩ := h
  refine ⟨c, h₁ :: h₀ :: (separators ++ [m₁]), m₀, by simp, ?_,
    isDigit_of_number? hminutes _ (by simp)⟩
  exact hsign.imp And.left And.left

theorem trim_append (h : IsSignedForm sign hours minutes form) (rest : List Char) :
    trim (form ++ rest) = form ++ trimEnd rest := by
  obtain ⟨c, middle, m, rfl, hc, hm⟩ := h.exists_eq
  have hsign : isBlank c = false := by rcases hc with rfl | rfl | rfl <;> decide
  have hkept := trimEnd_append_cons (isBlank_of_isDigit hm) (c :: middle) rest
  simpa [trim, trimStart_cons hsign] using hkept

/-- No signed form starts like a name of the zero offset. -/
theorem not_isZeroName (h : IsSignedForm sign hours minutes form) (rest : List Char) :
    ¬ IsZeroName (form ++ rest) := by
  obtain ⟨c, middle, m, rfl, hc, -⟩ := h.exists_eq
  rintro (hname | hname) <;>
    rcases hc with rfl | rfl | rfl <;>
    cases hname

theorem signed?_append (h : IsSignedForm sign hours minutes form) (rest : List Char) :
    signed? (form ++ rest) =
      if minutes < 60 then ofSeconds? (sign * (hours * 3600 + minutes * 60 : Nat)) else none := by
  obtain @⟨c, h₁, h₀, m₁, m₀, separators, hsign, hhours, hs, hminutes⟩ := h
  have hminute := isSeparator_of_isDigit (isDigit_of_number? hminutes m₁ List.mem_cons_self)
  rw [← twoDigits?_eq_number?] at hhours hminutes
  have hread := signed?_spelled (sign?_eq_some_iff.2 hsign) hhours
    (fun s hmem => isSeparator_iff.2 (hs s hmem)) hminute hminutes rest
  simpa using hread

end IsSignedForm

/-! ### Reading -/

/-- The signed reader accepts exactly the texts that start with a signed form. -/
theorem signed?_eq_some_iff {cs : List Char} {o : Offset} :
    signed? cs = some o ↔ ∃ form rest, cs = form ++ rest ∧ Spells o form := by
  constructor
  · intro h
    unfold signed? at h
    split at h
    case h_2 => cases h
    case h_1 c h₁ h₀ tail =>
      simp only [Option.bind_eq_bind, Option.bind_eq_some_iff] at h
      obtain ⟨sign, hsign, hours, hhours, h⟩ := h
      split at h
      case h_2 => cases h
      case h_1 m₁ m₀ rest htail =>
        obtain ⟨minutes, hminutes, h⟩ := Option.bind_eq_some_iff.1 h
        split at h
        case isFalse => cases h
        case isTrue hlt =>
          have hseconds := ofSeconds?_eq_some_iff.1 h
          have hcut : tail.takeWhile isSeparator ++ m₁ :: m₀ :: rest = tail := by
            rw [← htail, List.takeWhile_append_dropWhile]
          refine ⟨c :: h₁ :: h₀ :: (tail.takeWhile isSeparator ++ [m₁, m₀]), rest, by simp [hcut],
            sign, hours, minutes, ?_, ?_, hlt, hseconds⟩
          · rw [twoDigits?_eq_number?] at hhours hminutes
            exact ⟨sign?_eq_some_iff.1 hsign, hhours,
              fun s hs => isSeparator_iff.1 (List.mem_takeWhile_imp hs), hminutes⟩
          · have hday := o.inDay
            rcases sign?_eq_some_iff.1 hsign with ⟨-, rfl⟩ | ⟨-, rfl⟩ <;> omega
  · rintro ⟨form, rest, rfl, sign, hours, minutes, hform, -, hlt, hseconds⟩
    rw [hform.signed?_append, if_pos hlt, ofSeconds?_eq_some_iff.2 hseconds]

theorem isZeroName_iff {cs : List Char} :
    IsZeroName cs ↔ (sameLetters cs ['z'] || sameLetters cs ['u', 't', 'c']) = true := by
  rw [Bool.or_eq_true, sameLetters, sameLetters, beq_iff_eq, beq_iff_eq]
  rfl

theorem parse?_of_isZeroName {text : String} (h : IsZeroName (trim text.toList)) :
    parse? text = some utc :=
  if_pos (isZeroName_iff.1 h)

theorem parse?_of_not_isZeroName {text : String} (h : ¬ IsZeroName (trim text.toList)) :
    parse? text = signed? (trim text.toList) :=
  if_neg fun hname => h (isZeroName_iff.2 hname)

/-- A text is read as an offset exactly when it is a name of the zero offset or starts with a signed
form, white space around it apart. -/
theorem parse_eq_ok_iff_spells {text : String} {o : Offset} :
    parse text = .ok o ↔
      (IsZeroName (trim text.toList) ∧ o = utc) ∨
        ∃ form rest, trim text.toList = form ++ rest ∧ Spells o form := by
  rw [parse_eq_ok_iff]
  by_cases hzero : IsZeroName (trim text.toList)
  · rw [parse?_of_isZeroName hzero]
    constructor
    · intro ho
      exact .inl ⟨hzero, (Option.some.inj ho).symm⟩
    · rintro (⟨-, rfl⟩ | ⟨form, rest, htext, sign, hours, minutes, hform, -⟩)
      · rfl
      · exact absurd (htext ▸ hzero) (hform.not_isZeroName rest)
  · rw [parse?_of_not_isZeroName hzero, signed?_eq_some_iff, or_iff_right fun h => hzero h.1]

/-! ### Signed forms by themselves -/

namespace IsSignedForm

variable {sign : Int} {hours minutes : Nat} {form : List Char} {text : String}

theorem sign_eq (h : IsSignedForm sign hours minutes form) : sign = 1 ∨ sign = -1 := by
  obtain ⟨hsign, -, -, -⟩ := h
  exact hsign.imp And.right And.right

/-- A signed form by itself is read when its hours and minutes are those of a time of day. -/
theorem exists_parse_eq (h : IsSignedForm sign hours minutes form)
    (htext : trim text.toList = form) (hhours : hours ≤ 23) (hminutes : minutes ≤ 59) :
    ∃ o, parse text = .ok o ∧ o.seconds = sign * (hours * 3600 + minutes * 60 : Nat) := by
  have hday : -86400 < sign * (hours * 3600 + minutes * 60 : Nat) ∧
      sign * (hours * 3600 + minutes * 60 : Nat) < 86400 := by
    rcases h.sign_eq with rfl | rfl <;> omega
  let o : Offset := ⟨_, hday⟩
  refine ⟨o, parse_eq_ok_iff_spells.2 (.inr ⟨form, [], ?_, ?_⟩), rfl⟩
  · rw [htext, List.append_nil]
  · exact ⟨sign, hours, minutes, h, by omega, by omega, rfl⟩

theorem parse_eq_error (h : IsSignedForm sign hours minutes form)
    (htext : trim text.toList = form) (hlate : ¬ (hours ≤ 23 ∧ minutes ≤ 59)) :
    parse text = .error (.invalidOffset text) := by
  have hname : ¬ IsZeroName (trim text.toList) := by
    rw [htext, ← List.append_nil form]
    exact h.not_isZeroName []
  have hnone : parse? text = none := by
    rw [parse?_of_not_isZeroName hname, htext, ← List.append_nil form, h.signed?_append]
    split
    case isFalse => rfl
    case isTrue hlt =>
      have hday : ¬ (-86400 < sign * (hours * 3600 + minutes * 60 : Nat) ∧
          sign * (hours * 3600 + minutes * 60 : Nat) < 86400) := by
        rcases h.sign_eq with rfl | rfl <;> omega
      exact dif_neg hday
  rw [parse, hnone]

end IsSignedForm

/-- A signed form with white space around it is an offset exactly when it has less than 24 hours and
less than 60 minutes, and then it is the offset of so many hours and minutes in the direction of the
sign. Any other is quoted as it is given. Whatever is read, it is a whole number of minutes and less
than a day. -/
theorem spelled_offset_is_read :
    (∀ (sign : Int) (hours minutes : Nat) (before form after : List Char),
      IsSignedForm sign hours minutes form →
      (∀ c ∈ before, isBlank c = true) → (∀ c ∈ after, isBlank c = true) →
      let text := String.ofList (before ++ (form ++ after))
      (hours ≤ 23 ∧ minutes ≤ 59 →
        ∃ o, parse text = .ok o ∧ o.seconds = sign * (hours * 3600 + minutes * 60 : Nat)) ∧
      (¬ (hours ≤ 23 ∧ minutes ≤ 59) → parse text = .error (.invalidOffset text))) ∧
    ∀ text o, parse text = .ok o → 60 ∣ o.seconds ∧ o.seconds.natAbs < 86400 := by
  constructor
  · intro sign hours minutes before form after hform hbefore hafter text
    have htext : trim text.toList = form := by
      rw [String.toList_ofList, trim_blank_append hbefore, hform.trim_append, trimEnd_eq_nil hafter,
        List.append_nil]
    exact ⟨fun ⟨hhours, hminutes⟩ => hform.exists_parse_eq htext hhours hminutes,
      hform.parse_eq_error htext⟩
  · intro text o ho
    exact ⟨dvd_of_parse ho, o.size_lt⟩

/-- The greatest offset west, with the minus sign and wide blanks, and one minute more. -/
theorem spelled_offset_is_read_west :
    let form := '\u2212' :: '2' :: '3' :: ([':', '\u2003', ':'] ++ ['5', '9'])
    let late := '\u2212' :: '2' :: '4' :: ([] ++ ['0', '0'])
    let text := String.ofList (['\u3000'] ++ (form ++ [' ']))
    let lateText := String.ofList (['\u3000'] ++ (late ++ [' ']))
    IsSignedForm (-1) 23 59 form ∧ IsSignedForm (-1) 24 0 late ∧
      (∃ o, parse text = .ok o ∧ o.seconds = -86340 ∧ 60 ∣ o.seconds) ∧
      parse lateText = .error (.invalidOffset lateText) := by
  intro form late text lateText
  have hseparators : ∀ s ∈ [':', '\u2003', ':'], s = ':' ∨ isBlank s = true := by
    simp [isBlank]
  have hform : IsSignedForm (-1) 23 59 form :=
    .mk (by decide) (by decide) hseparators (by decide)
  have hlate : IsSignedForm (-1) 24 0 late :=
    .mk (by decide) (by decide) (List.forall_mem_nil _) (by decide)
  have hbefore : ∀ c ∈ ['\u3000'], isBlank c = true := List.forall_mem_singleton.2 rfl
  have hafter : ∀ c ∈ [' '], isBlank c = true := List.forall_mem_singleton.2 rfl
  obtain ⟨hspelled, hread⟩ := spelled_offset_is_read
  obtain ⟨o, ho, hseconds⟩ := (hspelled _ _ _ _ _ _ hform hbefore hafter).1 (by decide)
  exact ⟨hform, hlate, ⟨o, ho, hseconds, (hread _ _ ho).1⟩,
    (hspelled _ _ _ _ _ _ hlate hbefore hafter).2 (by decide)⟩

/-! ### Texts that go on -/

/-- Holds of a text of which nothing is passed over: it is a name of the zero offset, or a signed
form and no more. -/
def IsReadWhole (text : String) : Prop :=
  IsZeroName (trim text.toList) ∨ ∃ o, Spells o (trim text.toList)

namespace Spells

variable {o : Offset} {form rest : List Char} {text : String}

/-- Only what stands after the signed form is passed over. -/
theorem isReadWhole_iff (h : Spells o form) (htext : trim text.toList = form ++ rest) :
    IsReadWhole text ↔ rest = [] := by
  have ⟨sign, hours, minutes, hform, _⟩ := h
  rw [IsReadWhole, htext, or_iff_right (hform.not_isZeroName rest)]
  constructor
  · rintro ⟨o', sign', hours', minutes', hform', -⟩
    have hsame : form ++ rest = (form ++ rest) ++ [] := (List.append_nil _).symm
    exact (hform.unique hform' hsame).2
  · rintro rfl
    exact ⟨o, by rwa [List.append_nil]⟩

/-- A text that goes on still starts with its signed form, and there is something after the form
when there was, or when the text goes on with more than white space. -/
theorem trim_append (h : Spells o form) (htext : trim text.toList = form ++ rest)
    (suffix : String) :
    ∃ rest', trim (text ++ suffix).toList = form ++ rest' ∧
      (rest' = [] ↔ rest = [] ∧ allBlank suffix.toList = true) := by
  obtain ⟨sign, hours, minutes, hform, -⟩ := h
  -- what is left after the form is trimmed, so it is blank only when it is empty
  have hrest : trimEnd rest = rest := by
    have htrim := trim_trim text.toList
    rw [htext, hform.trim_append] at htrim
    exact List.append_cancel_left htrim
  obtain ⟨before, after, hbefore, hafter, hall⟩ := exists_eq_append_trim text.toList
  refine ⟨trimEnd (rest ++ (after ++ suffix.toList)), ?_, ?_⟩
  · rw [String.toList_append, hall, htext, List.append_assoc, List.append_assoc,
      List.append_assoc, trim_blank_append hbefore, hform.trim_append]
  · rw [trimEnd_eq_nil_iff, List.forall_mem_append, List.forall_mem_append, ← trimEnd_eq_nil_iff,
      hrest, allBlank, List.all_eq_true]
    exact and_congr_right fun _ => and_iff_right hafter

theorem parse_append (h : Spells o form) (htext : trim text.toList = form ++ rest)
    (suffix : String) : parse (text ++ suffix) = .ok o := by
  obtain ⟨rest', hrest', -⟩ := h.trim_append htext suffix
  exact parse_eq_ok_iff_spells.2 (.inr ⟨form, rest', hrest', h⟩)

end Spells

end LocaleClock.Offset
