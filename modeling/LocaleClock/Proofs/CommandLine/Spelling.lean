import LocaleClock.Proofs.CommandLine.Given
import LocaleClock.Proofs.Settings.Checks

/-! Arguments are read back as they are written, in any order. An option whose value is a word of
its own is kept aside until the next argument, but with its value it is as good as settled, so
every argument is read the same wherever it stands. A line is accepted exactly when nothing is
given twice, and then gives what is written and nothing else. -/

namespace LocaleClock.CommandLine

/-! ### Between two arguments -/

namespace Reading

variable {r r' : Reading} {a b : Arguments}

/-- Holds of the arguments that a reading amounts to if nothing follows. -/
def AmountsTo (r : Reading) (a : Arguments) : Prop := ∃ s, r.settle = .ok s ∧ s.arguments = a

/-- Holds where an argument may start: the option that is kept aside, if there is one, has its
value. -/
inductive IsBetween : Reading → Prop
  | settled (a : Arguments) : IsBetween ⟨a, none, false⟩
  | aside (a : Arguments) (c : Choice) (value : String) :
      IsBetween ⟨a, some (c, some value), false⟩

theorem IsBetween.onlyValues_eq (h : r.IsBetween) : r.onlyValues = false := by
  cases h <;> rfl

theorem IsBetween.pending_ne (h : r.IsBetween) (c : Choice) : r.pending ≠ some (c, none) := by
  cases h <;> simp

theorem settle_aside_eq_ok_iff {c : Choice} {value : String} {onlyValues : Bool} :
    settle ⟨a, some (c, some value), onlyValues⟩ = .ok r ↔
      a.get c = none ∧ r = ⟨a.set c value, none, onlyValues⟩ := by
  have hsettle : settle ⟨a, some (c, some value), onlyValues⟩ =
      a.setNew c value >>= fun b => .ok ⟨b, none, onlyValues⟩ := rfl
  simp only [hsettle, bind_eq_ok_iff, Arguments.setNew_eq_ok_iff, and_assoc, exists_and_left,
    exists_eq_left, Except.ok.injEq, @eq_comm _ r]

theorem amountsTo_settled {onlyValues : Bool} : AmountsTo ⟨a, none, onlyValues⟩ b ↔ b = a := by
  simp [AmountsTo, settle, eq_comm]

/-- An option that has its value is as good as settled. -/
theorem amountsTo_aside {c : Choice} {value : String} {onlyValues : Bool} :
    AmountsTo ⟨a, some (c, some value), onlyValues⟩ b ↔ a.get c = none ∧ b = a.set c value := by
  simp [AmountsTo, settle_aside_eq_ok_iff, and_assoc, @eq_comm _ _ b]

/-- Where an argument may start, everything goes on from what the reading amounts to. -/
theorem IsBetween.settle_bind_eq_ok_iff (h : r.IsBetween) {f : Reading → Except Stop Reading} :
    (r.settle >>= f) = .ok r' ↔ ∃ a, r.AmountsTo a ∧ f ⟨a, none, false⟩ = .ok r' := by
  rw [bind_eq_ok_iff]
  cases h with
  | settled a => simp [amountsTo_settled, settle]
  | aside a c value => simp [amountsTo_aside, settle_aside_eq_ok_iff, and_assoc]

theorem IsBetween.locale_eq (h : r.IsBetween) (ha : r.AmountsTo a) :
    a.locale = r.arguments.locale := by
  cases h with
  | settled b => rw [amountsTo_settled.1 ha]
  | aside b c value =>
    obtain ⟨-, rfl⟩ := amountsTo_aside.1 ha
    cases c <;> rfl

theorem IsBetween.attach_eq_ok_iff (h : r.IsBetween) {c : Choice} {value : List Char} :
    r.attach c value = .ok r' ↔ ∃ a, r.AmountsTo a ∧
      a.get c = none ∧ r' = ⟨a.set c (String.ofList value), none, false⟩ := by
  rw [attach, h.settle_bind_eq_ok_iff]
  simp only [bind_eq_ok_iff, Arguments.setNew_eq_ok_iff, and_assoc, exists_and_left,
    exists_eq_left, pure, Except.pure, Except.ok.injEq, @eq_comm _ r']

theorem IsBetween.raise_debug_eq_ok_iff (h : r.IsBetween) :
    r.raise .debug = .ok r' ↔ ∃ a, r.AmountsTo a ∧
      a.debug = false ∧ r' = ⟨{ a with debug := true }, none, false⟩ := by
  rw [raise, h.settle_bind_eq_ok_iff]
  simp only [bind_eq_ok_iff, Arguments.raise_debug_eq_ok_iff, and_assoc, exists_and_left,
    exists_eq_left, pure, Except.pure, Except.ok.injEq, @eq_comm _ r']

theorem IsBetween.await_eq_ok_iff (h : r.IsBetween) {c : Choice} :
    r.await c = .ok r' ↔ ∃ a, r.AmountsTo a ∧ r' = ⟨a, some (c, none), false⟩ := by
  rw [await, h.settle_bind_eq_ok_iff]
  simp only [pure, Except.pure, Except.ok.injEq, @eq_comm _ r']

theorem IsBetween.takeLocale_eq_ok_iff (h : r.IsBetween) {word : String} :
    r.takeLocale word = .ok r' ↔ ∃ a, r.AmountsTo a ∧
      a.locale = none ∧ r' = ⟨{ a with locale := some word }, none, false⟩ := by
  have hlocale : ∀ {a}, r.AmountsTo a → a.locale = r.arguments.locale := h.locale_eq
  cases hgiven : r.arguments.locale with
  | some name =>
    simp +contextual [takeLocale, hgiven, hlocale, throw, throwThe, MonadExceptOf.throw, bind,
      Except.bind]
  | none =>
    have htake : r.takeLocale word = r.settle >>= fun s =>
        .ok { s with arguments := { s.arguments with locale := some word } } := by
      simp [takeLocale, hgiven, pure, Except.pure]
    rw [htake, h.settle_bind_eq_ok_iff]
    refine exists_congr fun a => and_congr_right fun ha => ?_
    simp [hlocale ha, hgiven, eq_comm]

end Reading

/-! ### Spellings -/

def Choice.name : Choice → String
  | .format => "format"
  | .offset => "offset"
  | .config => "config"
  | .generateConfig => "generate-config"

/-- Holds of words that do not start with a hyphen. -/
def IsPlain (word : String) : Prop := word.toList.head? ≠ some '-'

inductive Spelling where
  | locale (name : String) (plain : IsPlain name)
  /-- The value of an option after an equals sign. -/
  | attached (c : Choice) (value : String)
  /-- The value of an option as the next word, where only an offset may start with a hyphen. -/
  | apart (c : Choice) (value : String) (fits : c = .offset ∨ IsPlain value)
  | debug

namespace Spelling

def given : Spelling → Given
  | .locale name _ => .locale name
  | .attached c value | .apart c value _ => .value c value
  | .debug => .debug

def words : Spelling → List String
  | .locale name _ => [name]
  | .attached c value => ["--" ++ c.name ++ "=" ++ value]
  | .apart c value _ => ["--" ++ c.name, value]
  | .debug => ["--debug"]

def line (ss : List Spelling) : List String := ss.flatMap words

end Spelling

/-! ### Words -/

namespace Reading

variable {r : Reading}

theorem IsBetween.take_long (h : r.IsBetween) {word : String} {long : List Char}
    (hlong : long ≠ []) (hword : word.toList = '-' :: '-' :: long) :
    r.take word = r.takeLong long := by
  have hoffset : r.pending ≠ some (.offset, none) := h.pending_ne .offset
  obtain ⟨c, long, rfl⟩ := List.exists_cons_of_ne_nil hlong
  simp only [take, h.onlyValues_eq, hoffset, hword, if_false, Bool.false_eq_true]

theorem take_plain (h : r.onlyValues = false) {word : String}
    (hword : r.pending = some (.offset, none) ∨ IsPlain word) : r.take word = r.takeValue word := by
  rw [take, h, if_neg Bool.false_ne_true]
  split
  case isTrue => rfl
  case isFalse hoffset =>
    have hplain : word.toList.head? ≠ some '-' := hword.resolve_left hoffset
    split <;> simp_all

theorem IsBetween.take_locale (h : r.IsBetween) {word : String} (hword : IsPlain word) :
    r.take word = r.takeLocale word := by
  rw [take_plain h.onlyValues_eq (.inr hword), takeValue]
  split
  case h_1 c hc => exact absurd hc (h.pending_ne c)
  case h_2 => rfl

theorem takeLong_attached (r : Reading) (c : Choice) (value : List Char) :
    r.takeLong (c.name.toList ++ '=' :: value) = r.attach c value := by
  have hname : ∀ x ∈ c.name.toList, decide (x ≠ '=') = true := by
    have hall : c.name.toList.all (· ≠ '=') = true := by cases c <;> rfl
    exact List.all_eq_true.1 hall
  have hlong : long? c.name.toList = some (.choice c) := by cases c <;> rfl
  have htake : (c.name.toList ++ '=' :: value).takeWhile (· ≠ '=') = c.name.toList := by
    rw [List.takeWhile_append_of_pos hname, List.takeWhile_cons_of_neg (by decide), List.append_nil]
  have hdrop : (c.name.toList ++ '=' :: value).dropWhile (· ≠ '=') = '=' :: value := by
    rw [List.dropWhile_append_of_pos hname, List.dropWhile_cons_of_neg (by decide)]
  simp only [takeLong, htake, hdrop, hlong]

theorem takeLong_apart (r : Reading) (c : Choice) : r.takeLong c.name.toList = r.await c := by
  cases c <;> rfl

end Reading

/-! ### Lines -/

namespace Spelling

open Reading

variable {r r' : Reading} {a b : Arguments}

/-- Holds of what a spelling makes of arguments. A value that is a word of its own is kept aside
with its option, even where the option has a value; all else is settled at once. -/
def IsReadInto (s : Spelling) (a : Arguments) (r : Reading) : Prop :=
  match s with
  | .apart c value _ => r = ⟨a, some (c, some value), false⟩
  | s => a.find? s.given.switch? = none ∧ r = ⟨a.put s.given, none, false⟩

theorem IsReadInto.isBetween {s : Spelling} (h : s.IsReadInto a r) : r.IsBetween := by
  cases s with
  | apart c value fits =>
    cases h
    exact IsBetween.aside a c value
  | locale | attached | debug =>
    obtain ⟨-, rfl⟩ := h
    exact IsBetween.settled _

/-- Kept aside or not, an argument is added to the others if it is not there yet. -/
theorem exists_isReadInto_iff {s : Spelling} :
    (∃ r, s.IsReadInto a r ∧ r.AmountsTo b) ↔
      a.find? s.given.switch? = none ∧ b = a.put s.given := by
  cases s with
  | apart c value fits =>
    simp [IsReadInto, amountsTo_aside, given, Given.switch?, Arguments.find?, Arguments.put]
  | locale | attached | debug => simp [IsReadInto, amountsTo_settled, and_assoc]

/-- The words of an argument are read as that argument wherever one may start. -/
theorem foldlM_words_eq_ok_iff (h : r.IsBetween) (s : Spelling) :
    s.words.foldlM take r = .ok r' ↔ ∃ a, r.AmountsTo a ∧ s.IsReadInto a r' := by
  cases s with
  | locale name plain =>
    simp [words, h.take_locale plain, h.takeLocale_eq_ok_iff, IsReadInto, given, Given.switch?,
      Arguments.find?, Arguments.put]
  | attached c value =>
    have hword : ("--" ++ c.name ++ "=" ++ value).toList =
        '-' :: '-' :: (c.name.toList ++ '=' :: value.toList) := by simp
    have hlong : c.name.toList ++ '=' :: value.toList ≠ [] := by simp
    simp [words, h.take_long hlong hword, takeLong_attached, h.attach_eq_ok_iff, IsReadInto, given,
      Given.switch?, Arguments.find?, Arguments.put]
  | apart c value fits =>
    have hword : ("--" ++ c.name).toList = '-' :: '-' :: c.name.toList := by simp
    have hlong : c.name.toList ≠ [] := by cases c <;> decide
    have hvalue : ∀ a, take ⟨a, some (c, none), false⟩ value =
        .ok ⟨a, some (c, some value), false⟩ := fun a =>
      take_plain rfl (fits.imp_left fun hc => congrArg (fun c => some (c, none)) hc)
    simp only [words, List.foldlM_cons, h.take_long hlong hword, takeLong_apart, bind_eq_ok_iff,
      h.await_eq_ok_iff, IsReadInto]
    constructor
    · rintro ⟨s, ⟨a, ha, rfl⟩, s', hs', hr⟩
      cases (hvalue a).symm.trans hs'
      cases hr
      exact ⟨a, ha, rfl⟩
    · rintro ⟨a, ha, rfl⟩
      exact ⟨_, ⟨a, ha, rfl⟩, _, hvalue a, rfl⟩
  | debug =>
    have hword : "--debug".toList = '-' :: '-' :: "debug".toList := rfl
    have htake : r.take "--debug" = r.raise .debug := (h.take_long (by decide) hword).trans rfl
    simp [words, htake, h.raise_debug_eq_ok_iff, IsReadInto, given, Given.switch?, Arguments.find?,
      Arguments.put]

/-- A line adds to what has been read exactly the arguments that it spells. -/
theorem exists_foldlM_line_iff (h : r.IsBetween) (ss : List Spelling) :
    (∃ r', (line ss).foldlM take r = .ok r' ∧ r'.AmountsTo b) ↔
      ∃ a, r.AmountsTo a ∧ (a.given ++ ss.map given).Perm b.given := by
  -- After each argument the reading is between two again, so only what it amounts to is carried on.
  induction ss generalizing r with
  | nil =>
    simp only [line, List.flatMap_nil, List.foldlM_nil, List.map_nil, List.append_nil]
    constructor
    · rintro ⟨r', hr, hb⟩
      cases hr
      exact ⟨b, hb, .refl _⟩
    · rintro ⟨a, ha, hperm⟩
      obtain rfl := Arguments.eq_of_perm hperm
      exact ⟨r, rfl, ha⟩
  | cons s ss ih =>
    have hline : line (s :: ss) = s.words ++ line ss := List.flatMap_cons
    simp only [hline, List.foldlM_append, bind_eq_ok_iff, foldlM_words_eq_ok_iff h, List.map_cons]
    constructor
    · rintro ⟨r', ⟨r₁, ⟨a, ha, hs⟩, hrest⟩, hb⟩
      obtain ⟨a₁, ha₁, hperm⟩ := (ih hs.isBetween).1 ⟨r', hrest, hb⟩
      obtain ⟨hfree, rfl⟩ := exists_isReadInto_iff.1 ⟨r₁, hs, ha₁⟩
      exact ⟨a, ha, Arguments.append_cons_perm_iff.2 ⟨hfree, hperm⟩⟩
    · rintro ⟨a, ha, hperm⟩
      obtain ⟨hfree, hperm⟩ := Arguments.append_cons_perm_iff.1 hperm
      obtain ⟨r₁, hs, ha₁⟩ := exists_isReadInto_iff.2 ⟨hfree, rfl⟩
      obtain ⟨r', hrest, hb⟩ := (ih hs.isBetween).2 ⟨_, ha₁, hperm⟩
      exact ⟨r', ⟨r₁, ⟨a, ha, hs⟩, hrest⟩, hb⟩

theorem parse_line_eq_ok_iff (ss : List Spelling) (a : Arguments) :
    parse (line ss) = .ok a ↔ (ss.map given).Perm a.given := by
  have hparse : parse (line ss) = .ok a ↔
      ∃ r, (line ss).foldlM take start = .ok r ∧ r.AmountsTo a := by
    rw [parse, bind_eq_ok_iff]
    simp only [bind_eq_ok_iff, AmountsTo, pure, Except.pure, Except.ok.injEq]
  have hstart : start.IsBetween := IsBetween.settled .none
  rw [hparse, exists_foldlM_line_iff hstart]
  constructor
  · rintro ⟨b, hb, hperm⟩
    rwa [amountsTo_settled.1 hb] at hperm
  · exact fun hperm => ⟨.none, amountsTo_settled.2 rfl, hperm⟩

end Spelling

/-- A line that spells a locale and options by their long names, in any order, is accepted exactly
when nothing is given twice. It then gives the arguments that are on it, with their values and no
others. The value of an offset is the same after an equals sign and as the next word, whatever it
is. -/
theorem arguments_read_back_in_any_order :
    (∀ ss : List Spelling, (∃ a, parse (Spelling.line ss) = .ok a) ↔
      ((ss.map Spelling.given).map Given.switch?).Nodup) ∧
    (∀ (ss : List Spelling) (a : Arguments),
      parse (Spelling.line ss) = .ok a ↔ (ss.map Spelling.given).Perm a.given) ∧
    ∀ (before after : List Spelling) (value : String) (a : Arguments),
      parse (Spelling.line (before ++ .apart .offset value (.inl rfl) :: after)) = .ok a ↔
        parse (Spelling.line (before ++ .attached .offset value :: after)) = .ok a := by
  refine ⟨fun ss => ?_, Spelling.parse_line_eq_ok_iff, fun before after value a => ?_⟩
  · simp only [Spelling.parse_line_eq_ok_iff]
    exact Arguments.exists_perm_given_iff
  · rw [Spelling.parse_line_eq_ok_iff, Spelling.parse_line_eq_ok_iff, List.map_append,
      List.map_append]
    rfl

example : parse ["--offset", "--debug", "--format=", "de", "--debug", "--config=-c=%x"] =
    .ok ⟨some "de", some "", some "--debug", some "-c=%x", none, true⟩ := by
  rfl

end LocaleClock.CommandLine
