import LocaleClock.Toml.Document
import LocaleClock.Toml.Writer

/-! Written texts and keys are read back. A text is read in whatever form it was written, and so is
a key, as long as what follows cannot be taken for more of it. The two readers of texts with escapes
take an escape the same way; between three marks in a row, the marks that a text ends with have to
be told from the closing ones. -/

namespace LocaleClock.Toml

/-! ### Characters -/

theorem isPlainChar_of_not_isControl {c : Char} (h : isControl c = false) (hn : c ≠ '\n') :
    isPlainChar c = true := by
  have hline : (c == '\n') = false := by simpa using hn
  simp only [isControl, bne, hline, Bool.not_false, Bool.and_true, Bool.or_eq_false_iff,
    Bool.and_eq_false_iff, decide_eq_false_iff_not, Bool.not_eq_eq_eq_not] at h
  obtain ⟨hlow, hdelete⟩ := h
  simp only [isPlainChar, bne, hdelete, Bool.not_false, Bool.and_true, Bool.or_eq_true,
    decide_eq_true_eq]
  rcases hlow with hlow | htab
  · exact .inr (Nat.not_lt.1 hlow)
  · exact .inl htab

theorem isPlainChar_or_of_not_isControl {c : Char} (h : isControl c = false) :
    isPlainChar c = true ∨ c = '\n' := by
  by_cases hline : c = '\n'
  · exact .inr hline
  · exact .inl (isPlainChar_of_not_isControl h hline)

theorem ne_lineBreak_of_isPlainChar {c : Char} (h : isPlainChar c = true) :
    c ≠ '\n' ∧ c ≠ '\r' := by
  constructor
  · rintro rfl
    exact absurd h (by decide)
  · rintro rfl
    exact absurd h (by decide)

theorem ne_return_of_not_isControl {c : Char} (h : isControl c = false) : c ≠ '\r' := by
  rintro rfl
  exact absurd h (by decide)

theorem toNat_lt_of_needsEscape {c : Char} (h : needsEscape c = true) : c.toNat < 128 := by
  simp only [needsEscape, isControl, Bool.or_eq_true, Bool.and_eq_true, decide_eq_true_eq,
    beq_iff_eq] at h
  rcases h with ((⟨⟨h, -⟩, -⟩ | h) | rfl) | rfl
  · omega
  · omega
  · decide
  · decide

/-! ### Escapes -/

structure ReadsEscapes (read : EscapeState → List Char → Option (List Char × List Char)) :
    Prop where
  backslash : ∀ rest, read .plain ('\\' :: rest) = read .escape rest
  escape : ∀ c rest, (simpleEscape? c).isSome ∨ c = 'u' →
    read .escape (c :: rest) = escapeStep c fun state => read state rest
  number : ∀ digits value c rest, read (.number digits value) (c :: rest) =
    numberStep c digits value fun state => read state rest

def hexDigit (n : Nat) : Char := (Nat.digitChar n).toUpper

theorem hexValue?_hexDigit : ∀ n < 16, Text.hexValue? (hexDigit n) = some n := by decide

theorem escapeNumber_eq : ∀ n < 128,
    Text.padLeft 4 '0' ((Nat.toDigits 16 n).map Char.toUpper) =
      ['0', '0', hexDigit (n / 16), hexDigit (n % 16)] := by
  decide +kernel

namespace ReadsEscapes

variable {read : EscapeState → List Char → Option (List Char × List Char)}

theorem simple (h : ReadsEscapes read) {c d : Char} (hc : simpleEscape? c = some d)
    (rest : List Char) : read .plain ('\\' :: c :: rest) = quoting d (read .plain rest) := by
  rw [h.backslash, h.escape c rest (.inl (by simp [hc])), escapeStep, hc]

theorem number_digit (h : ReadsEscapes read) {n : Nat} (hn : n < 16) (digits value : Nat)
    (rest : List Char) :
    read (.number (digits + 1) value) (hexDigit n :: rest) =
      read (.number digits (value * 16 + n)) rest := by
  rw [h.number, numberStep, hexValue?_hexDigit n hn]
  rfl

theorem last_digit (h : ReadsEscapes read) {n value : Nat} (hn : n < 16) {c : Char}
    (hc : value * 16 + n = c.toNat) (rest : List Char) :
    read (.number 0 value) (hexDigit n :: rest) = quoting c (read .plain rest) := by
  have hchar : charOfNumber? (value * 16 + n) = some c := by
    unfold charOfNumber?
    rw [hc, if_pos (show c.toNat.isValidChar from c.valid), Char.ofNat_toNat]
  have hlast : read (.number 0 value) (hexDigit n :: rest) =
      (charOfNumber? (value * 16 + n)).bind fun c => quoting c (read .plain rest) := by
    rw [h.number, numberStep, hexValue?_hexDigit n hn]
    rfl
  rw [hlast, hchar, Option.bind_some]

theorem number_escape (h : ReadsEscapes read) {c : Char} (hc : c.toNat < 128)
    (rest : List Char) :
    read .plain ('\\' :: 'u' ::
      (Text.padLeft 4 '0' ((Nat.toDigits 16 c.toNat).map Char.toUpper) ++ rest)) =
      quoting c (read .plain rest) := by
  have hzero : '0' = hexDigit 0 := by decide
  have hstart : ∀ rest, read .escape ('u' :: rest) = read (.number 3 0) rest := by
    intro rest
    rw [h.escape 'u' rest (.inr rfl)]
    rfl
  rw [escapeNumber_eq _ hc, h.backslash, hzero]
  simp only [List.cons_append, List.nil_append]
  rw [hstart, h.number_digit (by omega), h.number_digit (by omega), h.number_digit (by omega),
    h.last_digit (c := c) (by omega) (by omega)]

theorem escapeOf (h : ReadsEscapes read) {c : Char} (hc : c.toNat < 128) (rest : List Char) :
    read .plain (Toml.escapeOf c ++ rest) = quoting c (read .plain rest) := by
  unfold Toml.escapeOf
  split
  case h_8 => exact h.number_escape hc rest
  all_goals exact h.simple rfl rest

end ReadsEscapes

theorem readsEscapes_basicText : ReadsEscapes basicText where
  backslash _ := by simp [basicText]
  escape _ _ _ := by simp [basicText]
  number _ _ _ _ := by simp [basicText]

theorem readsEscapes_longBasicText : ReadsEscapes longBasicText where
  backslash _ := by simp [longBasicText]
  escape c rest hc := by
    have hline : c ≠ '\n' := by rintro rfl; simp [simpleEscape?] at hc
    have hreturn : c ≠ '\r' := by rintro rfl; simp [simpleEscape?] at hc
    have hgap : ¬ (c = ' ' ∨ c = '\t') := by rintro (rfl | rfl) <;> simp [simpleEscape?] at hc
    rw [longBasicText, if_neg hgap]
    · exact hline
    · intro _ h
      exact absurd h hreturn
  number _ _ _ _ := by simp [longBasicText]

/-! ### Texts on one line -/

theorem basicText_plain {c : Char} (hc : isPlainChar c = true) (hmark : c ≠ '"')
    (hslash : c ≠ '\\') (rest : List Char) :
    basicText .plain (c :: rest) = quoting c (basicText .plain rest) := by
  rw [basicText, if_pos hc]
  · simpa using hmark
  · simpa using hslash

/-- What is written between double marks on one line is read up to the closing mark. -/
theorem basicText_basicBody (cs rest : List Char) :
    basicText .plain (basicBody cs ++ '"' :: rest) = some (cs, rest) := by
  induction cs with
  | nil => simp [basicBody, basicText]
  | cons c cs ih =>
    have hstep : ∀ more, basicText .plain ((if needsEscape c || c == '\n' || c == '"'
        then escapeOf c else [c]) ++ more) = quoting c (basicText .plain more) := by
      intro more
      split
      case isTrue h =>
        apply readsEscapes_basicText.escapeOf
        simp only [Bool.or_eq_true, beq_iff_eq] at h
        rcases h with (h | rfl) | rfl
        · exact toNat_lt_of_needsEscape h
        · decide
        · decide
      case isFalse h =>
        simp only [needsEscape, Bool.or_eq_true, beq_iff_eq, not_or, Bool.not_eq_true] at h
        obtain ⟨⟨⟨⟨hcontrol, -⟩, hslash⟩, hline⟩, hmark⟩ := h
        exact basicText_plain (isPlainChar_of_not_isControl hcontrol hline) hmark hslash more
    rw [basicBody, List.flatMap_cons, List.append_assoc, hstep]
    rw [basicBody] at ih
    rw [ih]
    rfl

/-- A text without control characters, line breaks and single marks stands between single marks as
it is. -/
theorem literalText_append {cs : List Char} (hcontrol : ∀ c ∈ cs, isControl c = false)
    (hline : '\n' ∉ cs) (hmark : '\'' ∉ cs) (rest : List Char) :
    literalText (cs ++ '\'' :: rest) = some (cs, rest) := by
  induction cs with
  | nil => simp [literalText]
  | cons c cs ih =>
    rw [List.forall_mem_cons] at hcontrol
    rw [List.mem_cons, not_or] at hline hmark
    have hplain := isPlainChar_of_not_isControl hcontrol.1 (Ne.symm hline.1)
    rw [List.cons_append, literalText, if_pos hplain, ih hcontrol.2 hline.2 hmark.2]
    · rfl
    · exact Ne.symm hmark.1

/-! ### Texts between three marks -/

theorem closing_of_ne {mark : Char} {rest : List Char} (h : rest.head? ≠ some mark) :
    closing mark rest = ([], rest) := by
  match rest with
  | [] => rfl
  | [c] => simp [closing, show c ≠ mark by simpa using h]
  | c :: d :: more => simp [closing, show c ≠ mark by simpa using h]

theorem closing_one {mark : Char} {rest : List Char} (h : rest.head? ≠ some mark) :
    closing mark (mark :: rest) = ([mark], rest) := by
  match rest with
  | [] => simp [closing]
  | c :: more => simp [closing, show c ≠ mark by simpa using h]

theorem closing_two (mark : Char) (rest : List Char) :
    closing mark (mark :: mark :: rest) = ([mark, mark], rest) := by
  simp [closing]

/-- A character between three double marks stands for itself when no escape and no three marks
start there. -/
theorem longBasicText_plain {c : Char} {rest : List Char} (hc : isPlainChar c = true ∨ c = '\n')
    (hslash : c ≠ '\\') (hmarks : c = '"' → ∀ more, rest ≠ '"' :: '"' :: more) :
    longBasicText .plain (c :: rest) = quoting c (longBasicText .plain rest) := by
  rcases hc with hc | rfl
  case inr => simp [longBasicText]
  obtain ⟨hline, hreturn⟩ := ne_lineBreak_of_isPlainChar hc
  rw [longBasicText, if_pos hc]
  · exact fun more h hrest => hmarks h more hrest
  · simpa using hslash
  · simpa using hline
  · intro _ h
    exact absurd h hreturn

/-- What is written for a character starts with a backslash or is that character, and a third mark
in a row or a control character is not written as it is. -/
theorem head?_longBasicBody (run : Nat) (c : Char) (cs tail : List Char) :
    (longBasicBody run (c :: cs) ++ tail).head? = some '\\' ∨
      ((longBasicBody run (c :: cs) ++ tail).head? = some c ∧ isControl c = false ∧
        (c = '"' → run ≠ 2)) := by
  have hescape : ∀ more, (escapeOf c ++ more).head? = some '\\' := by
    intro more
    unfold escapeOf
    split <;> rfl
  rw [longBasicBody]
  split
  case isTrue hmark =>
    split
    case isTrue => exact .inl (by rw [List.append_assoc, hescape])
    case isFalse hrun => exact .inr ⟨rfl, by rw [hmark]; decide, fun _ => hrun⟩
  case isFalse hmark =>
    split
    case isTrue => exact .inl (by rw [List.append_assoc, hescape])
    case isFalse hplain =>
      simp only [needsEscape, Bool.or_eq_true, not_or, Bool.not_eq_true] at hplain
      exact .inr ⟨rfl, hplain.1.1, fun h => absurd h hmark⟩

theorem longBasicBody_ne_mark {run : Nat} {c : Char} (h : c ≠ '"' ∨ run = 2)
    (cs tail more : List Char) : longBasicBody run (c :: cs) ++ tail ≠ '"' :: more := by
  intro heq
  have hhead := head?_longBasicBody run c cs tail
  rw [heq] at hhead
  simp only [List.head?_cons, Option.some.injEq] at hhead
  rcases hhead with hslash | ⟨hmark, -, hrun⟩
  · exact absurd hslash (by decide)
  · exact h.elim (fun hc => hc hmark.symm) (hrun hmark.symm)

/-- After a mark that is no third one, either the text goes on with something else than two marks,
or it ends with this mark or the next one. -/
theorem marks_ahead {run : Nat} (hrun : run < 2) (cs rest : List Char) :
    cs = [] ∨ (run = 0 ∧ cs = ['"']) ∨
      ∀ more, longBasicBody (run + 1) cs ++ '"' :: '"' :: '"' :: rest ≠ '"' :: '"' :: more := by
  match cs with
  | [] => exact .inl rfl
  | c :: cs =>
    refine .inr ?_
    by_cases hc : c ≠ '"' ∨ run + 1 = 2
    · exact .inr fun more => longBasicBody_ne_mark hc cs _ _
    · simp only [ne_eq, not_or, Classical.not_not] at hc
      obtain ⟨rfl, hrun'⟩ := hc
      obtain rfl : run = 0 := by omega
      match cs with
      | [] => exact .inl ⟨rfl, rfl⟩
      | d :: cs =>
        refine .inr fun more heq => ?_
        rw [longBasicBody, if_pos rfl, if_neg (by decide), List.cons_append, List.cons.injEq] at heq
        exact longBasicBody_ne_mark (.inr rfl) cs _ _ heq.2

/-- What is written between three double marks is read up to the closing ones. The induction counts
the marks just before the place, of which there are never three. -/
theorem longBasicText_longBasicBody {run : Nat} (hrun : run ≤ 2) (cs : List Char)
    {rest : List Char} (hrest : rest.head? ≠ some '"') :
    longBasicText .plain (longBasicBody run cs ++ '"' :: '"' :: '"' :: rest) =
      some (cs, rest) := by
  induction cs generalizing run with
  | nil => simp [longBasicBody, longBasicText, closing_of_ne hrest]
  | cons c cs ih =>
    rw [longBasicBody]
    split
    case isTrue hmark =>
      subst hmark
      split
      case isTrue =>
        rw [List.append_assoc, readsEscapes_longBasicText.escapeOf (by decide), ih (by omega)]
        rfl
      case isFalse hne =>
        have hlt : run < 2 := by omega
        rw [List.cons_append]
        -- Near the end of the text its own marks run into the closing ones, which come last.
        rcases marks_ahead hlt cs rest with rfl | ⟨rfl, rfl⟩ | hmarks
        · simp [longBasicBody, longBasicText, closing_one hrest]
        · simp [longBasicBody, longBasicText, closing_two]
        · rw [longBasicText_plain (.inl (by decide)) (by decide) (fun _ => hmarks), ih (by omega)]
          rfl
    case isFalse hmark =>
      split
      case isTrue hescape =>
        rw [List.append_assoc,
          readsEscapes_longBasicText.escapeOf (toNat_lt_of_needsEscape hescape), ih (by omega)]
        rfl
      case isFalse hescape =>
        simp only [needsEscape, Bool.or_eq_true, beq_iff_eq, not_or, Bool.not_eq_true] at hescape
        obtain ⟨⟨hcontrol, -⟩, hslash⟩ := hescape
        rw [List.cons_append, longBasicText_plain (isPlainChar_or_of_not_isControl hcontrol) hslash
          (fun h => absurd h hmark), ih (by omega)]
        rfl

/-- A character between three single marks stands for itself when no three marks start there. -/
theorem longLiteralText_plain {c : Char} {rest : List Char}
    (hc : isPlainChar c = true ∨ c = '\n')
    (hmarks : c = '\'' → ∀ more, rest ≠ '\'' :: '\'' :: more) :
    longLiteralText (c :: rest) = quoting c (longLiteralText rest) := by
  rcases hc with hc | rfl
  case inr => simp [longLiteralText]
  obtain ⟨hline, hreturn⟩ := ne_lineBreak_of_isPlainChar hc
  rw [longLiteralText, if_pos hc]
  · exact fun more h hrest => hmarks h more hrest
  · simpa using hline
  · intro _ h
    exact absurd h hreturn

theorem hasTriple_tail {mark c : Char} {cs : List Char} (h : hasTriple mark (c :: cs) = false) :
    hasTriple mark cs = false := by
  match cs with
  | [] => rfl
  | [_] => rfl
  | d :: e :: cs =>
    rw [hasTriple, Bool.or_eq_false_iff] at h
    exact h.2

theorem literal_marks_ahead {cs : List Char} (h : hasTriple '\'' ('\'' :: cs) = false)
    (rest : List Char) :
    cs = [] ∨ cs = ['\''] ∨
      ∀ more, cs ++ '\'' :: '\'' :: '\'' :: rest ≠ '\'' :: '\'' :: more := by
  match cs with
  | [] => exact .inl rfl
  | [c] =>
    by_cases hc : c = '\''
    · exact .inr (.inl (by rw [hc]))
    · exact .inr (.inr fun more heq => hc (List.cons.inj heq).1)
  | c :: d :: cs =>
    refine .inr (.inr fun more heq => ?_)
    simp only [List.cons_append, List.cons.injEq] at heq
    obtain ⟨rfl, rfl, -⟩ := heq
    exact absurd h (by simp [hasTriple])

/-- A text without three single marks in a row stands between three of them as it is. -/
theorem longLiteralText_append {cs : List Char} (hplain : ∀ c ∈ cs, isPlainChar c = true ∨ c = '\n')
    (hmarks : hasTriple '\'' cs = false) {rest : List Char} (hrest : rest.head? ≠ some '\'') :
    longLiteralText (cs ++ '\'' :: '\'' :: '\'' :: rest) = some (cs, rest) := by
  induction cs with
  | nil => simp [longLiteralText, closing_of_ne hrest]
  | cons c cs ih =>
    have hread := ih (fun d hd => hplain d (List.mem_cons_of_mem _ hd)) (hasTriple_tail hmarks)
    have hstep : (c = '\'' → ∀ more, cs ++ '\'' :: '\'' :: '\'' :: rest ≠ '\'' :: '\'' :: more) →
        longLiteralText (c :: (cs ++ '\'' :: '\'' :: '\'' :: rest)) = some (c :: cs, rest) := by
      intro hahead
      rw [longLiteralText_plain (hplain c List.mem_cons_self) hahead, hread]
      rfl
    rw [List.cons_append]
    by_cases hc : c = '\''
    · subst hc
      rcases literal_marks_ahead hmarks rest with rfl | rfl | hahead
      · simp [longLiteralText, closing_one hrest]
      · simp [longLiteralText, closing_two]
      · exact hstep fun _ => hahead
    · exact hstep fun h => absurd h hc

/-! ### The form of a text -/

theorem skipLineBreak_eq_self {cs : List Char} (hline : cs.head? ≠ some '\n')
    (hreturn : cs.head? ≠ some '\r') : skipLineBreak cs = cs := by
  unfold skipLineBreak
  split
  · exact absurd rfl hline
  · exact absurd rfl hreturn
  · rfl

/-- The line break after the opening marks is there exactly when the text has several lines, so
none of the text is taken for it. -/
theorem skipLineBreak_openingBreak {cs body : List Char}
    (hline : '\n' ∉ cs → body.head? ≠ some '\n') (hreturn : body.head? ≠ some '\r') :
    skipLineBreak (openingBreak cs ++ body) = body := by
  unfold openingBreak
  split
  case isTrue => rfl
  case isFalse h =>
    rw [List.nil_append]
    exact skipLineBreak_eq_self (hline (by simpa using h)) hreturn

/-- A text of several lines is written after a line break, and no other starts with one. -/
theorem skipLineBreak_longBasicBody (cs tail : List Char) :
    skipLineBreak (openingBreak cs ++ (longBasicBody 0 cs ++ '"' :: tail)) =
      longBasicBody 0 cs ++ '"' :: tail := by
  have hhead : ∀ c ∈ (longBasicBody 0 cs ++ '"' :: tail).head?,
      c = '"' ∨ c = '\\' ∨ (c ∈ cs ∧ isControl c = false) := by
    intro c hc
    cases cs with
    | nil => exact .inl (by simpa [longBasicBody] using hc.symm)
    | cons d cs =>
      rcases head?_longBasicBody 0 d cs ('"' :: tail) with h | ⟨h, hcontrol, -⟩
      · exact .inr (.inl (Option.some.inj (hc.symm.trans h)))
      · obtain rfl : c = d := Option.some.inj (hc.symm.trans h)
        exact .inr (.inr ⟨List.mem_cons_self, hcontrol⟩)
  apply skipLineBreak_openingBreak
  · intro hline h
    rcases hhead _ h with h | h | h
    · exact absurd h (by decide)
    · exact absurd h (by decide)
    · exact hline h.1
  · intro h
    rcases hhead _ h with h | h | h
    · exact absurd h (by decide)
    · exact absurd h (by decide)
    · exact absurd h.2 (by decide)

theorem write_basic_append (cs rest : List Char) :
    TextForm.basic.write cs ++ rest = '"' :: (basicBody cs ++ '"' :: rest) := by
  rw [TextForm.write, List.append_assoc]
  rfl

theorem write_literal_append (cs rest : List Char) :
    TextForm.literal.write cs ++ rest = '\'' :: (cs ++ '\'' :: rest) := by
  rw [TextForm.write, List.append_assoc]
  rfl

theorem basicBody_ne_mark {c : Char} {cs tail more : List Char} :
    basicBody (c :: cs) ++ tail ≠ '"' :: more := by
  intro heq
  rw [basicBody, List.flatMap_cons, List.append_assoc] at heq
  split at heq
  case isTrue =>
    unfold escapeOf at heq
    split at heq <;> cases heq
  case isFalse h =>
    simp only [Bool.or_eq_true, beq_iff_eq, not_or] at h
    exact h.2 (List.cons.inj heq).1

/-- A text in double marks on one line is not taken for one between three of them. -/
theorem quotedText?_basic (cs : List Char) {rest : List Char} (hrest : rest.head? ≠ some '"') :
    quotedText? (TextForm.basic.write cs ++ rest) = some (cs, rest) := by
  have hmarks : ∀ more, basicBody cs ++ '"' :: rest ≠ '"' :: '"' :: more := by
    intro more heq
    cases cs with
    | nil =>
      obtain rfl : rest = '"' :: more := (List.cons.inj heq).2
      exact hrest rfl
    | cons c cs => exact basicBody_ne_mark heq
  rw [write_basic_append, quotedText?]
  · exact basicText_basicBody cs rest
  · exact fun more heq => hmarks more heq

theorem quotedText?_literal {cs : List Char} (hcontrol : ∀ c ∈ cs, isControl c = false)
    (hline : '\n' ∉ cs) (hmark : '\'' ∉ cs) {rest : List Char} (hrest : rest.head? ≠ some '\'') :
    quotedText? (TextForm.literal.write cs ++ rest) = some (cs, rest) := by
  have hmarks : ∀ more, cs ++ '\'' :: rest ≠ '\'' :: '\'' :: more := by
    intro more heq
    cases cs with
    | nil =>
      obtain rfl : rest = '\'' :: more := (List.cons.inj heq).2
      exact hrest rfl
    | cons c cs => exact hmark ((List.cons.inj heq).1 ▸ List.mem_cons_self)
  rw [write_literal_append, quotedText?]
  · exact literalText_append hcontrol hline hmark rest
  · exact fun more heq => hmarks more heq

theorem quotedText?_longBasic (cs : List Char) {rest : List Char}
    (hrest : rest.head? ≠ some '"') :
    quotedText? (TextForm.longBasic.write cs ++ rest) = some (cs, rest) := by
  simp only [TextForm.write, List.append_assoc, List.cons_append, List.nil_append, quotedText?]
  rw [skipLineBreak_longBasicBody]
  exact longBasicText_longBasicBody (by omega) cs hrest

theorem quotedText?_longLiteral {cs : List Char} (hcontrol : ∀ c ∈ cs, isControl c = false)
    (hmarks : hasTriple '\'' cs = false) {rest : List Char} (hrest : rest.head? ≠ some '\'') :
    quotedText? (TextForm.longLiteral.write cs ++ rest) = some (cs, rest) := by
  have hhead : ∀ c ∈ (cs ++ '\'' :: '\'' :: '\'' :: rest).head?, c = '\'' ∨ c ∈ cs := by
    intro c hc
    cases cs with
    | nil => exact .inl (by simpa using hc.symm)
    | cons d cs => exact .inr (by simp_all)
  have hplain : ∀ c ∈ cs, isPlainChar c = true ∨ c = '\n' := fun c hc =>
    isPlainChar_or_of_not_isControl (hcontrol c hc)
  simp only [TextForm.write, List.append_assoc, List.cons_append, List.nil_append, quotedText?]
  rw [skipLineBreak_openingBreak]
  · exact longLiteralText_append hplain hmarks hrest
  · intro hline h
    rcases hhead _ h with h | h
    · exact absurd h (by decide)
    · exact hline h
  · intro h
    rcases hhead _ h with h | h
    · exact absurd h (by decide)
    · exact ne_return_of_not_isControl (hcontrol _ h) rfl

/-- A written text is read back, whatever its form, unless a mark follows it. -/
theorem quotedText?_writeText (text : String) {rest : List Char}
    (hrest : ∀ c ∈ rest.head?, isMark c = false) :
    quotedText? (writeText text ++ rest) = some (text.toList, rest) := by
  have hdouble : rest.head? ≠ some '"' := fun h => absurd (hrest _ h) (by decide)
  have hsingle : rest.head? ≠ some '\'' := fun h => absurd (hrest _ h) (by decide)
  unfold writeText
  fun_cases TextForm.of text.toList
  case case1 | case5 => exact quotedText?_basic _ hdouble
  case case3 | case6 => exact quotedText?_longBasic _ hdouble
  case case2 plain oneLine _ h =>
    simp only [plain, oneLine, Bool.and_eq_true, Bool.not_eq_true', List.any_eq_false,
      Bool.not_eq_true, List.contains_eq_mem, decide_eq_false_iff_not] at h
    exact quotedText?_literal h.1.1 h.2 h.1.2 hsingle
  case case4 plain oneLine _ _ _ h =>
    simp only [plain, Bool.and_eq_true, Bool.not_eq_true', List.any_eq_false,
      Bool.not_eq_true] at h
    exact quotedText?_longLiteral h.1 h.2 hsingle

/-! ### Keys -/

theorem takeWhile_eq_nil {p : Char → Bool} {cs : List Char} (h : ∀ c ∈ cs.head?, p c = false) :
    cs.takeWhile p = [] ∧ cs.dropWhile p = cs := by
  cases cs with
  | nil => exact ⟨rfl, rfl⟩
  | cons c cs => simp [show p c = false from h c rfl]

/-- A key without marks is read up to the first character that it cannot have. -/
theorem key?_bare {cs : List Char} (hne : cs ≠ []) (hall : ∀ c ∈ cs, isBareKeyChar c = true)
    {rest : List Char} (hrest : ∀ c ∈ rest.head?, isBareKeyChar c = false) :
    key? (cs ++ rest) = some (String.ofList cs, rest) := by
  obtain ⟨htake, hdrop⟩ := takeWhile_eq_nil hrest
  have hword : (cs ++ rest).takeWhile isBareKeyChar = cs := by
    rw [List.takeWhile_append_of_pos hall, htake, List.append_nil]
  have hafter : (cs ++ rest).dropWhile isBareKeyChar = rest := by
    rw [List.dropWhile_append_of_pos hall, hdrop]
  -- The two other forms of a key start with a mark, which this one cannot have.
  have hmark : ∀ mark ∈ (cs ++ rest).head?, isBareKeyChar mark = true := by
    intro mark h
    obtain ⟨c, more, rfl⟩ := List.exists_cons_of_ne_nil hne
    obtain rfl : c = mark := Option.some.inj h
    exact hall c List.mem_cons_self
  rw [key?, hword, hafter, if_neg (by simpa using hne)]
  · intro more heq
    exact absurd (hmark '"' (by simp [heq])) (by decide)
  · intro more heq
    exact absurd (hmark '\'' (by simp [heq])) (by decide)

/-- A written key is read back, unless it is followed by a character that a key without marks may
have. -/
theorem key?_writeKey (key : String) {rest : List Char}
    (hrest : ∀ c ∈ rest.head?, isBareKeyChar c = false) :
    key? (writeKey key ++ rest) = some (key, rest) := by
  have hbasic : key? (TextForm.basic.write key.toList ++ rest) = some (key, rest) := by
    rw [write_basic_append, key?, basicText_basicBody, Option.map_some, String.ofList_toList]
  fun_cases writeKey key
  case case1 cs h =>
    simp only [cs, Bool.and_eq_true, Bool.not_eq_true', List.isEmpty_eq_false_iff,
      List.all_eq_true] at h
    rw [key?_bare h.1 h.2 hrest, String.ofList_toList]
  case case2 | case4 => exact hbasic
  case case3 cs plain _ _ h =>
    simp only [plain, cs, Bool.and_eq_true, Bool.not_eq_true', List.any_eq_false,
      Bool.not_eq_true, List.contains_eq_mem, decide_eq_false_iff_not] at h
    rw [write_literal_append, key?, literalText_append h.1.1 h.1.2 h.2, Option.map_some,
      String.ofList_toList]

/-- A written key starts with a mark or with a character of a key without marks. -/
theorem exists_writeKey (key : String) :
    ∃ c cs, writeKey key = c :: cs ∧ (isMark c = true ∨ isBareKeyChar c = true) := by
  fun_cases writeKey key
  case case1 cs h =>
    simp only [cs, Bool.and_eq_true, Bool.not_eq_true', List.isEmpty_eq_false_iff,
      List.all_eq_true] at h
    obtain ⟨hne, hall⟩ := h
    obtain ⟨c, more, heq⟩ := List.exists_cons_of_ne_nil hne
    exact ⟨c, more, heq, .inr (hall c (heq ▸ List.mem_cons_self))⟩
  case case2 | case4 => exact ⟨'"', _, rfl, .inl rfl⟩
  case case3 => exact ⟨'\'', _, rfl, .inl rfl⟩

end LocaleClock.Toml
