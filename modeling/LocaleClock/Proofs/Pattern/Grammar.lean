import LocaleClock.Pattern.Reader

/-! The grammar of patterns. A pattern is a row of pieces: a character other than the percent sign,
or a percent sign with one of the specifiers after it. The reader accepts exactly the rows of
pieces, and it reads a row piece by piece, whatever text comes after it. -/

namespace LocaleClock.Pattern

/-- The places that a digit stands for in the specifiers of a fraction. -/
def places? : Char → Option Nat
  | '3' => some 3
  | '6' => some 6
  | '9' => some 9
  | _ => none

/-- The specifiers, each as the text after the percent sign and the items it stands for. -/
inductive Specifier : List Char → List Item → Prop
  | colon : Specifier [':', 'z'] [.zone .colon]
  | full : Specifier [':', ':', 'z'] [.zone .full]
  | hours : Specifier [':', ':', ':', 'z'] [.zone .hours]
  | lenient : Specifier ['#', 'z'] [.zone .lenient]
  | asNeeded : Specifier ['.', 'f'] [.fraction .asNeeded]
  | pointed {d : Char} {n : Nat} (hd : places? d = some n) :
      Specifier ['.', d, 'f'] [.fraction (.pointed n)]
  | bare {d : Char} {n : Nat} (hd : places? d = some n) : Specifier [d, 'f'] [.fraction (.bare n)]
  | flagged {c d : Char} {fill : Fill} {n : Field × Fill} (hc : flag? c = some fill)
      (hd : numberOf? d = some n) : Specifier [c, d] [.number n.1 fill]
  | single {c : Char} {items : List Item} (hc : single? c = some items) : Specifier [c] items

/-- The rows of pieces, with their items. -/
inductive Reads : List Char → List Item → Prop
  | nil : Reads [] []
  | literal {c : Char} {cs : List Char} {items : List Item} (hc : c ≠ '%') (h : Reads cs items) :
      Reads (c :: cs) (.literal c :: items)
  | specifier {spec cs : List Char} {own items : List Item} (hs : Specifier spec own)
      (h : Reads cs items) : Reads ('%' :: (spec ++ cs)) (own ++ items)

/-! ### Specifiers -/

/-- The characters that start specifiers of more than one character. None is a specifier alone. -/
def openers : List Char := [':', '#', '.', '3', '6', '9', '-', '_', '0']

theorem single?_opener : ∀ c ∈ openers, single? c = none := by
  have hall : openers.all (fun c => (single? c).isNone) = true := by decide
  simpa using hall

theorem not_mem_openers_of_single? {c : Char} {items : List Item} (h : single? c = some items) :
    c ∉ openers := by
  intro hc
  rw [single?_opener c hc] at h
  cases h

theorem flag?_eq_none {c : Char} (hc : c ∉ openers) : flag? c = none := by
  unfold flag?
  split <;> simp_all [openers]

/-- After any other character the reader has to decide at once. -/
theorem specifier?_cons {c : Char} (hc : c ∉ openers) (rest : List Char) :
    specifier? (c :: rest) = (single? c).map fun items => (items, rest) := by
  have hf := flag?_eq_none hc
  unfold specifier?
  split
  case h_13 heq =>
    cases heq
    rw [hf]
  all_goals simp_all [openers]

/-- A character that starts no specifier makes a pattern unreadable for good. -/
theorem specifier?_eq_none {c : Char} (hc : c ∉ openers) (hs : single? c = none)
    (rest : List Char) : specifier? (c :: rest) = none := by
  rw [specifier?_cons hc, hs, Option.map_none]

/-- A specifier is read whatever comes after it. -/
theorem Specifier.specifier?_append {spec : List Char} {items : List Item}
    (h : Specifier spec items) (rest : List Char) :
    specifier? (spec ++ rest) = some (items, rest) := by
  cases h with
  | colon | full | hours | lenient | asNeeded => rfl
  | pointed hd | bare hd =>
    unfold places? at hd
    split at hd <;> cases hd <;> rfl
  | flagged hc hd =>
    unfold flag? at hc
    split at hc <;> cases hc <;> simp [specifier?, flag?, hd]
  | single hc =>
    rw [List.singleton_append, specifier?_cons (not_mem_openers_of_single? hc), hc, Option.map_some]

theorem exists_specifier {cs rest : List Char} {items : List Item}
    (h : specifier? cs = some (items, rest)) :
    ∃ spec, cs = spec ++ rest ∧ Specifier spec items := by
  unfold specifier? at h
  split at h
  case h_1 => cases h
  case h_13 =>
    -- a flag and a number, or a character alone
    split at h
    case h_1 =>
      obtain ⟨n, hd, hn⟩ := Option.map_eq_some_iff.1 h
      cases hn
      exact ⟨[_, _], rfl, .flagged ‹flag? _ = some _› hd⟩
    case h_2 => cases h
    case h_3 =>
      obtain ⟨i, hi, hn⟩ := Option.map_eq_some_iff.1 h
      cases hn
      exact ⟨[_], rfl, .single hi⟩
  all_goals cases h
  · exact ⟨_, rfl, .colon⟩
  · exact ⟨_, rfl, .full⟩
  · exact ⟨_, rfl, .hours⟩
  · exact ⟨_, rfl, .lenient⟩
  · exact ⟨_, rfl, .asNeeded⟩
  · exact ⟨_, rfl, .pointed (d := '3') rfl⟩
  · exact ⟨_, rfl, .pointed (d := '6') rfl⟩
  · exact ⟨_, rfl, .pointed (d := '9') rfl⟩
  · exact ⟨_, rfl, .bare (d := '3') rfl⟩
  · exact ⟨_, rfl, .bare (d := '6') rfl⟩
  · exact ⟨_, rfl, .bare (d := '9') rfl⟩

/-! ### Patterns -/

@[simp] theorem items?_nil : items? [] = some [] := by
  rw [items?]

theorem items?_literal {c : Char} (hc : c ≠ '%') (cs : List Char) :
    items? (c :: cs) = (items? cs).map (.literal c :: ·) := by
  rw [items?]
  simpa using hc

theorem items?_percent (cs : List Char) :
    items? ('%' :: cs) = (specifier? cs).bind fun r => (items? r.2).map (r.1 ++ ·) := by
  rw [items?]
  split <;> simp_all

theorem items?_specifier {spec : List Char} {own : List Item} (hs : Specifier spec own)
    (cs : List Char) : items? ('%' :: (spec ++ cs)) = (items? cs).map (own ++ ·) := by
  rw [items?_percent, hs.specifier?_append, Option.bind_some]

theorem Reads.items?_eq {cs : List Char} {items : List Item} (h : Reads cs items) :
    items? cs = some items := by
  induction h with
  | nil => exact items?_nil
  | literal hc _ ih => rw [items?_literal hc, ih, Option.map_some]
  | specifier hs _ ih => rw [items?_specifier hs, ih, Option.map_some]

theorem reads_of_items? {cs : List Char} {items : List Item} (h : items? cs = some items) :
    Reads cs items := by
  fun_induction items? cs generalizing items with
  | case1 => cases h; exact .nil
  | case2 => cases h
  | case3 rest own rest' hs ih =>
    obtain ⟨read, hr, rfl⟩ := Option.map_eq_some_iff.1 h
    obtain ⟨spec, rfl, hspec⟩ := exists_specifier hs
    exact .specifier hspec (ih hr)
  | case4 c rest hc ih =>
    obtain ⟨read, hr, rfl⟩ := Option.map_eq_some_iff.1 h
    exact .literal hc (ih hr)

theorem items?_eq_some_iff {cs : List Char} {items : List Item} :
    items? cs = some items ↔ Reads cs items :=
  ⟨reads_of_items?, Reads.items?_eq⟩

/-- A row of pieces is read as it is by itself, and then what comes after it. -/
theorem Reads.items?_append {p : List Char} {items : List Item} (h : Reads p items)
    (q : List Char) : items? (p ++ q) = (items? q).map (items ++ ·) := by
  induction h with
  | nil => simp
  | literal hc _ ih =>
    rw [List.cons_append, items?_literal hc, ih, Option.map_map]
    rfl
  | @specifier spec cs own items hs _ ih =>
    rw [List.cons_append, List.append_assoc, items?_specifier hs, ih, Option.map_map]
    congr 1
    funext read
    simp

end LocaleClock.Pattern
