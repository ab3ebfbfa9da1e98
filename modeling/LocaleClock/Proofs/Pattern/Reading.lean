import LocaleClock.Proofs.Pattern.Filling

/-! Texts read as far as they can be read. The own patterns of locales may have a percent sign
before a character that starts no specifier, where a reader stops, while filling in goes on after
it. Both go through a text piece by piece when it is a row of pieces, such places included: then
filling in preferred patterns puts the readings of the own patterns in the place of their items. -/

namespace LocaleClock.Pattern

open LocaleClock.Locale

/-! ### Readings -/

/-- What a reader takes from a text: one item after another, until the text is done or it stops at a
percent sign that starts no complete specifier. -/
inductive Reading where
  | done
  | stopped
  | item (first : Item) (rest : Reading)

namespace Reading

/-- A reading that goes on with another one where it is done. Nothing is read after a stop. -/
def andThen : Reading → Reading → Reading
  | .done, s => s
  | .stopped, _ => .stopped
  | .item i r, s => .item i (r.andThen s)

def items : Reading → List Item
  | .done | .stopped => []
  | .item i r => i :: r.items

def all? : Reading → Option (List Item)
  | .done => some []
  | .stopped => none
  | .item i r => r.all?.map (i :: ·)

/-- The reading of a text that has exactly these items. -/
def ofItems (items : List Item) : Reading := items.foldr .item .done

/-- Puts readings in the place of the preferred patterns. -/
def fill (own : Preferred → Reading) : Reading → Reading
  | .done => .done
  | .stopped => .stopped
  | .item (.preferred p) r => (own p).andThen (r.fill own)
  | .item i r => .item i (r.fill own)

@[simp] theorem done_andThen (r : Reading) : Reading.done.andThen r = r := rfl

@[simp] theorem stopped_andThen (r : Reading) : Reading.stopped.andThen r = .stopped := rfl

@[simp] theorem item_andThen (i : Item) (r s : Reading) :
    (Reading.item i r).andThen s = .item i (r.andThen s) := rfl

@[simp] theorem ofItems_nil : ofItems [] = .done := rfl

@[simp] theorem ofItems_cons (i : Item) (items : List Item) :
    ofItems (i :: items) = .item i (ofItems items) := rfl

@[simp] theorem andThen_done (r : Reading) : r.andThen .done = r := by
  induction r with
  | done | stopped => rfl
  | item i r ih => rw [item_andThen, ih]

theorem andThen_assoc (r s t : Reading) : (r.andThen s).andThen t = r.andThen (s.andThen t) := by
  induction r with
  | done | stopped => rfl
  | item i r ih => rw [item_andThen, item_andThen, item_andThen, ih]

theorem ofItems_append (xs ys : List Item) :
    ofItems (xs ++ ys) = (ofItems xs).andThen (ofItems ys) := by
  induction xs with
  | nil => rfl
  | cons x xs ih => rw [List.cons_append, ofItems_cons, ih, ofItems_cons, item_andThen]

@[simp] theorem items_ofItems (items : List Item) : (ofItems items).items = items := by
  induction items with
  | nil => rfl
  | cons i items ih => rw [ofItems_cons, Reading.items, ih]

theorem all?_ofItems_andThen (items : List Item) (r : Reading) :
    ((ofItems items).andThen r).all? = r.all?.map (items ++ ·) := by
  induction items with
  | nil => cases h : r.all? <;> simp [h]
  | cons i items ih =>
    rw [ofItems_cons, item_andThen, Reading.all?, ih, Option.map_map]
    rfl

theorem all?_andThen_eq_none {r : Reading} (h : r.all? = none) (s : Reading) :
    (r.andThen s).all? = none := by
  induction r with
  | done => cases h
  | stopped => rfl
  | item i r ih =>
    rw [Reading.all?, Option.map_eq_none_iff] at h
    rw [item_andThen, Reading.all?, ih h, Option.map_none]

theorem mem_items_andThen {i : Item} {r s : Reading} (h : i ∈ (r.andThen s).items) :
    i ∈ r.items ∨ i ∈ s.items := by
  induction r with
  | done => exact .inr h
  | stopped => exact .inl h
  | item j r ih =>
    rcases List.mem_cons.1 h with rfl | h
    · exact .inl List.mem_cons_self
    · exact (ih h).imp_left (List.mem_cons_of_mem _)

theorem fill_kept {i : Item} (hi : ∀ p, i ≠ .preferred p) (own : Preferred → Reading)
    (r : Reading) : (Reading.item i r).fill own = .item i (r.fill own) := by
  cases i with
  | preferred p => exact absurd rfl (hi p)
  | _ => rfl

theorem fill_ofItems_andThen {items : List Item} (h : ∀ p, .preferred p ∉ items)
    (own : Preferred → Reading) (r : Reading) :
    ((ofItems items).andThen r).fill own = (ofItems items).andThen (r.fill own) := by
  induction items with
  | nil => rfl
  | cons i items ih =>
    have hi : ∀ p, i ≠ .preferred p := by
      rintro p rfl
      exact h p List.mem_cons_self
    rw [ofItems_cons, item_andThen, fill_kept hi, ih fun p hp => h p (List.mem_cons_of_mem _ hp),
      item_andThen]

end Reading

/-! ### Reading a text -/

/-- Reads a text as far as it can be read. -/
def reading : List Char → Reading
  | [] => .done
  | '%' :: rest =>
    match _h : specifier? rest with
    | none => .stopped
    | some (items, rest') => (Reading.ofItems items).andThen (reading rest')
  | c :: rest => .item (.literal c) (reading rest)
termination_by cs => cs.length
decreasing_by
  · have := length_lt_of_specifier? _h
    simp only [List.length_cons]
    omega
  · simp

@[simp] theorem reading_nil : reading [] = .done := by
  rw [reading]

theorem reading_literal {c : Char} (hc : c ≠ '%') (cs : List Char) :
    reading (c :: cs) = .item (.literal c) (reading cs) := by
  rw [reading]
  simpa using hc

theorem reading_of_none {cs : List Char} (h : specifier? cs = none) :
    reading ('%' :: cs) = .stopped := by
  rw [reading]
  split <;> simp_all

theorem reading_specifier {spec : List Char} {items : List Item} (hs : Specifier spec items)
    (cs : List Char) :
    reading ('%' :: (spec ++ cs)) = (Reading.ofItems items).andThen (reading cs) := by
  have hread := hs.specifier?_append cs
  rw [reading]
  split <;> simp_all

/-- The items of a pattern are those of its reading, if this does not stop before the end. -/
theorem all?_reading (cs : List Char) : (reading cs).all? = items? cs := by
  fun_induction reading cs with
  | case1 => rw [items?_nil]; rfl
  | case2 rest h => rw [items?_percent, h]; rfl
  | case3 rest items rest' h ih =>
    rw [items?_percent, h, Reading.all?_ofItems_andThen, ih]
    rfl
  | case4 c rest hc ih => rw [items?_literal hc, Reading.all?, ih]

theorem Reads.reading_append {p : List Char} {items : List Item} (h : Reads p items)
    (q : List Char) : reading (p ++ q) = (Reading.ofItems items).andThen (reading q) := by
  induction h with
  | nil => rfl
  | literal hc _ ih => rw [List.cons_append, reading_literal hc, ih]; rfl
  | specifier hs _ ih =>
    rw [List.cons_append, List.append_assoc, reading_specifier hs, ih, Reading.ofItems_append,
      Reading.andThen_assoc]

theorem Reads.reading_eq {p : List Char} {items : List Item} (h : Reads p items) :
    reading p = Reading.ofItems items := by
  simpa using h.reading_append []

/-! ### Rows of pieces -/

/-- The rows of pieces. Besides the pieces of patterns, a percent sign may stand before a character
that starts no specifier. -/
inductive IsRow : List Char → Prop
  | nil : IsRow []
  | literal {c : Char} {cs : List Char} (hc : c ≠ '%') (h : IsRow cs) : IsRow (c :: cs)
  | specifier {spec cs : List Char} {items : List Item} (hs : Specifier spec items)
      (h : IsRow cs) : IsRow ('%' :: (spec ++ cs))
  | unknown {c : Char} {cs : List Char} (ho : c ∉ openers) (hc : single? c = none)
      (h : IsRow cs) : IsRow ('%' :: c :: cs)

theorem Reads.isRow {p : List Char} {items : List Item} (h : Reads p items) : IsRow p := by
  induction h with
  | nil => exact .nil
  | literal hc _ ih => exact .literal hc ih
  | specifier hs _ ih => exact .specifier hs ih

theorem IsRow.append {a b : List Char} (ha : IsRow a) (hb : IsRow b) : IsRow (a ++ b) := by
  induction ha with
  | nil => exact hb
  | literal hc _ ih => exact .literal hc ih
  | specifier hs _ ih =>
    rw [List.cons_append, List.append_assoc]
    exact .specifier hs ih
  | unknown ho hc _ ih => exact .unknown ho hc ih

theorem reading_unknown {c : Char} (ho : c ∉ openers) (hc : single? c = none) (cs : List Char) :
    reading ('%' :: c :: cs) = .stopped :=
  reading_of_none (specifier?_eq_none ho hc cs)

/-- A row is read as it is by itself, and then what comes after it. -/
theorem IsRow.reading_append {a : List Char} (ha : IsRow a) (b : List Char) :
    reading (a ++ b) = (reading a).andThen (reading b) := by
  induction ha with
  | nil => rw [List.nil_append, reading_nil, Reading.done_andThen]
  | literal hc _ ih => rw [List.cons_append, reading_literal hc, reading_literal hc, ih]; rfl
  | specifier hs _ ih =>
    rw [List.cons_append, List.append_assoc, reading_specifier hs, reading_specifier hs, ih,
      Reading.andThen_assoc]
  | unknown ho hc _ _ =>
    rw [List.cons_append, List.cons_append, reading_unknown ho hc, reading_unknown ho hc]
    rfl

/-- Where a row is not understood, no text after it mends it. -/
theorem IsRow.isWhole {cs : List Char} (h : IsRow cs) : IsWhole cs := by
  intro hnone rest
  rw [← all?_reading] at hnone ⊢
  rw [h.reading_append]
  exact Reading.all?_andThen_eq_none hnone _

/-- Checks that a text is a row of pieces. -/
def isRow : List Char → Bool
  | [] => true
  | '%' :: rest =>
    match _h : specifier? rest with
    | some (_, rest') => isRow rest'
    | none =>
      match rest with
      | [] => false
      | c :: rest' => !openers.contains c && isRow rest'
  | _ :: rest => isRow rest
termination_by cs => cs.length
decreasing_by
  · have := length_lt_of_specifier? _h
    simp only [List.length_cons]
    omega
  · simp only [List.length_cons]
    omega
  · simp

theorem isRow_of_check {cs : List Char} (h : isRow cs = true) : IsRow cs := by
  fun_induction isRow cs with
  | case1 => exact .nil
  | case2 rest items rest' hread ih =>
    obtain ⟨spec, rfl, hs⟩ := exists_specifier hread
    exact .specifier hs (ih h)
  | case3 => cases h
  | case4 c rest hnone ih =>
    rw [Bool.and_eq_true, Bool.not_eq_true', List.contains_eq_mem, decide_eq_false_iff_not] at h
    rw [specifier?_cons h.1, Option.map_eq_none_iff] at hnone
    exact .unknown h.1 hnone (ih h.2)
  | case5 c rest hc ih => exact .literal hc (ih h)

/-! ### Filling in rows -/

section Substitution

variable {own : Preferred → List Char}

theorem Specifier.isPreferred_or {spec : List Char} {items : List Item}
    (hs : Specifier spec items) :
    (∃ p, items = [.preferred p]) ∨ ∀ p, .preferred p ∉ items :=
  (hs.substitute (fun _ => []) []).imp (fun ⟨p, hp, _⟩ => ⟨p, hp⟩) And.left

theorem Specifier.substitute_preferred {spec : List Char} {p : Preferred}
    (hs : Specifier spec [.preferred p]) (cs : List Char) :
    Pattern.substitute own ('%' :: (spec ++ cs)) = own p ++ Pattern.substitute own cs := by
  rcases hs.substitute own cs with ⟨q, hq, heq⟩ | ⟨hnone, -⟩
  · cases hq
    exact heq
  · exact absurd List.mem_cons_self (hnone p)

theorem Specifier.substitute_kept {spec : List Char} {items : List Item} (hs : Specifier spec items)
    (hi : ∀ p, .preferred p ∉ items) (cs : List Char) :
    Pattern.substitute own ('%' :: (spec ++ cs)) = '%' :: (spec ++ Pattern.substitute own cs) := by
  rcases hs.substitute own cs with ⟨q, rfl, -⟩ | ⟨-, heq⟩
  · exact absurd List.mem_cons_self (hi q)
  · exact heq

theorem preferred?_unknown {c : Char} (hc : single? c = none) : preferred? c = none := by
  cases h : preferred? c with
  | none => rfl
  | some p =>
    rw [single?_of_preferred? h] at hc
    cases hc

theorem substitute_unknown {c : Char} (hc : single? c = none) (cs : List Char) :
    substitute own ('%' :: c :: cs) = '%' :: c :: substitute own cs := by
  rw [substitute, preferred?_unknown hc]

theorem IsRow.substitute_append {a : List Char} (ha : IsRow a) (b : List Char) :
    Pattern.substitute own (a ++ b) = Pattern.substitute own a ++ Pattern.substitute own b := by
  induction ha with
  | nil => rw [List.nil_append, Pattern.substitute, List.nil_append]
  | literal hc _ ih =>
    rw [List.cons_append, substitute_literal hc, substitute_literal hc, ih, List.cons_append]
  | specifier hs _ ih =>
    rw [List.cons_append, List.append_assoc]
    rcases hs.isPreferred_or with ⟨p, rfl⟩ | hkept
    · rw [hs.substitute_preferred, hs.substitute_preferred, ih, List.append_assoc]
    · rw [hs.substitute_kept hkept, hs.substitute_kept hkept, ih, List.cons_append,
        List.append_assoc]
  | unknown ho hc _ ih =>
    rw [List.cons_append, List.cons_append, substitute_unknown hc, substitute_unknown hc, ih]
    rfl

theorem IsRow.substitute (hown : ∀ p, IsRow (own p)) {cs : List Char} (h : IsRow cs) :
    IsRow (Pattern.substitute own cs) := by
  induction h with
  | nil => rw [Pattern.substitute]; exact .nil
  | literal hc _ ih => rw [substitute_literal hc]; exact .literal hc ih
  | specifier hs _ ih =>
    rcases hs.isPreferred_or with ⟨p, rfl⟩ | hkept
    · rw [hs.substitute_preferred]
      exact (hown p).append ih
    · rw [hs.substitute_kept hkept]
      exact .specifier hs ih
  | unknown ho hc _ ih => rw [substitute_unknown hc]; exact .unknown ho hc ih

/-- Filling in a row puts the readings of the own patterns in the place of the preferred ones. -/
theorem IsRow.reading_substitute (hown : ∀ p, IsRow (own p)) {cs : List Char} (h : IsRow cs) :
    reading (Pattern.substitute own cs) = (reading cs).fill fun p => reading (own p) := by
  induction h with
  | nil => rw [Pattern.substitute, reading_nil]; rfl
  | literal hc _ ih => rw [substitute_literal hc, reading_literal hc, reading_literal hc, ih]; rfl
  | specifier hs _ ih =>
    rw [reading_specifier hs]
    rcases hs.isPreferred_or with ⟨p, rfl⟩ | hkept
    · rw [hs.substitute_preferred, (hown p).reading_append, ih]
      rfl
    · rw [hs.substitute_kept hkept, reading_specifier hs, Reading.fill_ofItems_andThen hkept, ih]
  | unknown ho hc _ _ =>
    rw [substitute_unknown hc, reading_unknown ho hc, reading_unknown ho hc]
    rfl

end Substitution

/-! ### The preferred patterns in a text -/

/-- The preferred patterns that filling in meets in a text. -/
def preferredIn : List Char → List Preferred
  | '%' :: s :: rest => (preferred? s).toList ++ preferredIn rest
  | _ :: rest => preferredIn rest
  | [] => []

theorem preferredIn_literal {c : Char} (hc : c ≠ '%') (cs : List Char) :
    preferredIn (c :: cs) = preferredIn cs := by
  rw [preferredIn]
  intro s rest h
  exact absurd h hc

theorem substitute_eq_self {cs : List Char} (h : preferredIn cs = [])
    (own : Preferred → List Char) : substitute own cs = cs := by
  fun_induction preferredIn cs with
  | case1 s rest ih =>
    obtain ⟨hs, hrest⟩ := List.append_eq_nil_iff.1 h
    rw [substitute, Option.toList_eq_nil_iff.1 hs, ih hrest]
  | case2 c rest hne ih => rw [substitute, ih h]; exact hne
  | case3 => rfl

theorem expandTo_eq_self {cs : List Char} (h : preferredIn cs = []) (c : Conventions) (n : Nat) :
    expandTo c n cs = cs := by
  cases n with
  | zero => rfl
  | succ n => exact substitute_eq_self h _

end LocaleClock.Pattern
