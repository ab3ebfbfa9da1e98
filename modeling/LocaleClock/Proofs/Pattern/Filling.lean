import LocaleClock.Pattern.Rendering
import LocaleClock.Proofs.Pattern.Grammar

/-! Filling in preferred patterns. They are filled in as text, before the pattern is read, so a
locale's own pattern might run into the text after it: a percent sign at its end would start a
specifier there. When no own pattern does, a pattern is shown item by item, with the text of the
own pattern in place of each preferred one. -/

namespace LocaleClock.Pattern

open LocaleClock.Locale

variable {c : Conventions} {m : Moment}

/-! ### Texts one after another -/

/-- Two texts one after the other, if there are both. -/
def both? (s t : Option (List Char)) : Option (List Char) := do
  return (← s) ++ (← t)

@[simp] theorem both?_some_some (s t : List Char) : both? (some s) (some t) = some (s ++ t) := rfl

@[simp] theorem both?_none_left (t : Option (List Char)) : both? none t = none := rfl

@[simp] theorem both?_none_right (s : Option (List Char)) : both? s none = none := by
  cases s <;> rfl

@[simp] theorem both?_nil_left (t : Option (List Char)) : both? (some []) t = t := by
  cases t <;> rfl

@[simp] theorem both?_nil_right (s : Option (List Char)) : both? s (some []) = s := by
  cases s <;> simp

theorem both?_assoc (s t u : Option (List Char)) : both? (both? s t) u = both? s (both? t u) := by
  cases s <;> cases t <;> cases u <;> simp

theorem isSome_both? (s t : Option (List Char)) :
    (both? s t).isSome = (s.isSome && t.isSome) := by
  cases s <;> cases t <;> rfl

theorem both?_eq_nil_iff {s t : Option (List Char)} :
    both? s t = some [] ↔ s = some [] ∧ t = some [] := by
  cases s <;> cases t <;> simp

@[simp] theorem itemsText?_nil : itemsText? c m [] = some [] := rfl

theorem itemsText?_cons (item : Item) (items : List Item) :
    itemsText? c m (item :: items) = both? (itemText? c m item) (itemsText? c m items) := rfl

theorem itemsText?_append (xs ys : List Item) :
    itemsText? c m (xs ++ ys) = both? (itemsText? c m xs) (itemsText? c m ys) := by
  induction xs with
  | nil => simp
  | cons x xs ih => rw [List.cons_append, itemsText?_cons, itemsText?_cons, ih, both?_assoc]

/-! ### Whole texts -/

/-- Holds of a text that no text after it turns into another: when it is not understood, it stays
so. -/
def IsWhole (cs : List Char) : Prop := items? cs = none → ∀ rest, items? (cs ++ rest) = none

/-- The text of a pattern that has been filled in. -/
def filledText? (c : Conventions) (m : Moment) (cs : List Char) : Option (List Char) :=
  (items? cs).bind (itemsText? c m)

theorem filledText?_append {p : List Char} (hp : IsWhole p) (q : List Char) :
    filledText? c m (p ++ q) = both? (filledText? c m p) (filledText? c m q) := by
  unfold filledText?
  cases h : items? p with
  | none => rw [hp h q]; rfl
  | some xs =>
    rw [(reads_of_items? h).items?_append]
    cases items? q with
    | none => simp
    | some ys => exact itemsText?_append xs ys

theorem filledText?_literal {x : Char} (hx : x ≠ '%') (cs : List Char) :
    filledText? c m (x :: cs) = both? (some [x]) (filledText? c m cs) := by
  unfold filledText?
  rw [items?_literal hx]
  cases items? cs with
  | none => rfl
  | some items => exact itemsText?_cons _ items

theorem filledText?_specifier {spec : List Char} {items : List Item} (hs : Specifier spec items)
    (cs : List Char) :
    filledText? c m ('%' :: (spec ++ cs)) = both? (itemsText? c m items) (filledText? c m cs) := by
  unfold filledText?
  rw [items?_specifier hs]
  cases items? cs with
  | none => simp
  | some read => exact itemsText?_append items read

/-! ### Filling in -/

/-- The own pattern of a locale for a preferred one, with those nested in it filled in. -/
def own (c : Conventions) (p : Preferred) : List Char := expandTo c (maxNesting - 1) (p.pattern c)

theorem render?_eq_filledText? (c : Conventions) (m : Moment) (pattern : List Char) :
    render? c m pattern = filledText? c m (substitute (own c) pattern) := rfl

theorem substitute_literal {x : Char} (hx : x ≠ '%') (own : Preferred → List Char)
    (cs : List Char) : substitute own (x :: cs) = x :: substitute own cs := by
  rw [substitute]
  intro s rest h
  exact absurd h hx

theorem single?_of_preferred? {s : Char} {p : Preferred} (h : preferred? s = some p) :
    single? s = some [.preferred p] := by
  unfold preferred? at h
  split at h <;> cases h <;> rfl

theorem not_preferred_of_single? {s : Char} {items : List Item} (hs : single? s = some items)
    (hp : preferred? s = none) (p : Preferred) : .preferred p ∉ items := by
  unfold single? at hs
  split at hs
  · cases hs
    simp
  · unfold letter? at hs
    split at hs <;> cases hs <;> simp_all [preferred?, joined]

/-- A specifier is one of a preferred pattern and gives way to the own pattern, or it stays as it
is. -/
theorem Specifier.substitute {spec : List Char} {items : List Item} (hs : Specifier spec items)
    (own : Preferred → List Char) (cs : List Char) :
    (∃ p, items = [.preferred p] ∧
      Pattern.substitute own ('%' :: (spec ++ cs)) = own p ++ Pattern.substitute own cs) ∨
    ((∀ p, .preferred p ∉ items) ∧
      Pattern.substitute own ('%' :: (spec ++ cs)) =
        '%' :: (spec ++ Pattern.substitute own cs)) := by
  cases hs with
  | colon | full | hours | lenient | asNeeded =>
    exact .inr ⟨by simp, by simp [Pattern.substitute, preferred?]⟩
  | pointed hd | bare hd =>
    unfold places? at hd
    split at hd <;> cases hd <;> exact .inr ⟨by simp, by simp [Pattern.substitute, preferred?]⟩
  | @flagged f d fill n hf hd =>
    -- the character after a flag is that of a number, so no specifier starts with it
    have hd' : d ≠ '%' := by
      rintro rfl
      cases hd
    refine .inr ⟨by simp, ?_⟩
    unfold flag? at hf
    split at hf <;> cases hf <;>
      simp [Pattern.substitute, preferred?, substitute_literal hd']
  | @single s items hc =>
    cases hp : preferred? s with
    | some p =>
      have hi := single?_of_preferred? hp
      rw [hc] at hi
      cases hi
      exact .inl ⟨p, rfl, by simp [Pattern.substitute, hp]⟩
    | none =>
      exact .inr ⟨not_preferred_of_single? hc hp, by simp [Pattern.substitute, hp]⟩

/-! ### Item by item -/

/-- The text of an item before filling in: the own pattern stands for a preferred one. -/
def ownText? (c : Conventions) (m : Moment) : Item → Option (List Char)
  | .preferred p => filledText? c m (own c p)
  | item => itemText? c m item

/-- The texts of items before filling in, one after another, if all can be shown. -/
def ownTexts? (c : Conventions) (m : Moment) : List Item → Option (List Char)
  | [] => some []
  | item :: items => both? (ownText? c m item) (ownTexts? c m items)

theorem ownTexts?_append (xs ys : List Item) :
    ownTexts? c m (xs ++ ys) = both? (ownTexts? c m xs) (ownTexts? c m ys) := by
  induction xs with
  | nil => simp [ownTexts?]
  | cons x xs ih => rw [List.cons_append, ownTexts?, ownTexts?, ih, both?_assoc]

theorem ownTexts?_eq_itemsText? {items : List Item} (h : ∀ p, .preferred p ∉ items) :
    ownTexts? c m items = itemsText? c m items := by
  induction items with
  | nil => rfl
  | cons item items ih =>
    rw [ownTexts?, itemsText?_cons, ih fun p hp => h p (List.mem_cons_of_mem _ hp)]
    cases item with
    | preferred p => exact absurd List.mem_cons_self (h p)
    | _ => rfl

/-- Holds of conventions whose own patterns, filled in, do not run into what comes after them. -/
def IsSelfContained (c : Conventions) : Prop := ∀ p, IsWhole (own c p)

/-- A pattern is shown item by item. -/
theorem Reads.render?_eq (hc : IsSelfContained c) {p : List Char} {items : List Item}
    (h : Reads p items) : render? c m p = ownTexts? c m items := by
  rw [render?_eq_filledText?]
  induction h with
  | nil => simp [Pattern.substitute, filledText?, ownTexts?]
  | literal hx _ ih => rw [substitute_literal hx, filledText?_literal hx, ih]; rfl
  | specifier hs _ ih =>
    rw [ownTexts?_append, ← ih]
    rcases hs.substitute (own c) _ with ⟨p, rfl, hp⟩ | ⟨hp, hsub⟩
    · rw [hp, filledText?_append (hc p), ownTexts?, ownTexts?, both?_nil_right, ownText?]
    · rw [hsub, filledText?_specifier hs, ownTexts?_eq_itemsText? hp]

end LocaleClock.Pattern
