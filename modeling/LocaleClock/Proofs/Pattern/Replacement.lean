import LocaleClock.Proofs.Pattern.Reading

/-! Replacing preferred patterns to the end. What a preferred pattern stands for is said without a
bound on nesting: its item gives way to the items of the locale's own pattern, with those nested in
it replaced in the same way. Filling in stops at a fixed depth, so it agrees with this as long as
own patterns are not nested deeper. -/

namespace LocaleClock.Pattern

open LocaleClock.Locale

variable {c : Conventions}

/-! ### Replacing without a bound -/

/-- The reading that is left when every preferred pattern is replaced by what is read of the
locale's own one, and so are those nested in it. -/
inductive Replaced (c : Conventions) : Reading → Reading → Prop
  | done : Replaced c .done .done
  | stopped : Replaced c .stopped .stopped
  | kept {i : Item} {r s : Reading} (hi : ∀ p, i ≠ .preferred p) (h : Replaced c r s) :
      Replaced c (.item i r) (.item i s)
  | own {p : Preferred} {r s t : Reading} (hp : Replaced c (reading (p.pattern c)) s)
      (h : Replaced c r t) : Replaced c (.item (.preferred p) r) (s.andThen t)

theorem Replaced.unique {r s t : Reading} (hs : Replaced c r s) (ht : Replaced c r t) : s = t := by
  induction hs generalizing t with
  | done | stopped => cases ht; rfl
  | kept hi _ ih =>
    cases ht with
    | kept _ h => rw [ih h]
    | own => exact absurd rfl (hi _)
  | own _ _ ihp ih =>
    cases ht with
    | kept hi _ => exact absurd rfl (hi _)
    | own hp h => rw [ihp hp, ih h]

theorem Replaced.not_preferred {r s : Reading} (h : Replaced c r s) (p : Preferred) :
    .preferred p ∉ s.items := by
  induction h with
  | done | stopped => exact List.not_mem_nil
  | kept hi _ ih =>
    intro hmem
    rcases List.mem_cons.1 hmem with heq | hmem
    · exact hi p heq.symm
    · exact ih hmem
  | own _ _ ihp ih =>
    intro hmem
    rcases Reading.mem_items_andThen hmem with hmem | hmem
    · exact ihp hmem
    · exact ih hmem

theorem replaced_self {r : Reading} (h : ∀ p, .preferred p ∉ r.items) : Replaced c r r := by
  induction r with
  | done => exact .done
  | stopped => exact .stopped
  | item i r ih =>
    refine .kept ?_ (ih fun p hp => h p (List.mem_cons_of_mem _ hp))
    rintro p rfl
    exact h p List.mem_cons_self

/-- One level of filling in replaces, if the own patterns are filled with what they stand for. -/
theorem replaced_fill {r : Reading} {own : Preferred → Reading}
    (h : ∀ p, .preferred p ∈ r.items → Replaced c (reading (p.pattern c)) (own p)) :
    Replaced c r (r.fill own) := by
  induction r with
  | done => exact .done
  | stopped => exact .stopped
  | item i r ih =>
    have hrest := ih fun p hp => h p (List.mem_cons_of_mem _ hp)
    cases i with
    | preferred p => exact .own (h p List.mem_cons_self) hrest
    | _ => exact .kept (by simp) hrest

/-! ### The preferred patterns of rows -/

/-- A specifier of a preferred pattern is a single character; filling in goes over any other
specifier without meeting a preferred pattern. -/
theorem Specifier.preferredIn_append {spec : List Char} {items : List Item}
    (hs : Specifier spec items) (cs : List Char) :
    (∃ p, items = [.preferred p] ∧ preferredIn ('%' :: (spec ++ cs)) = p :: preferredIn cs) ∨
      ((∀ p, .preferred p ∉ items) ∧ preferredIn ('%' :: (spec ++ cs)) = preferredIn cs) := by
  cases hs with
  | colon | full | hours | lenient | asNeeded =>
    exact .inr ⟨by simp, by simp [preferredIn, preferred?]⟩
  | pointed hd | bare hd =>
    unfold places? at hd
    split at hd <;> cases hd <;> exact .inr ⟨by simp, by simp [preferredIn, preferred?]⟩
  | @flagged f d fill n hf hd =>
    have hd' : d ≠ '%' := by
      rintro rfl
      cases hd
    refine .inr ⟨by simp, ?_⟩
    unfold flag? at hf
    split at hf <;> cases hf <;> simp [preferredIn, preferred?, preferredIn_literal hd']
  | @single s items hc =>
    cases hp : preferred? s with
    | some p =>
      have hi := single?_of_preferred? hp
      rw [hc] at hi
      cases hi
      exact .inl ⟨p, rfl, by simp [preferredIn, hp]⟩
    | none => exact .inr ⟨not_preferred_of_single? hc hp, by simp [preferredIn, hp]⟩

theorem preferredIn_unknown {s : Char} (hs : single? s = none) (cs : List Char) :
    preferredIn ('%' :: s :: cs) = preferredIn cs := by
  rw [preferredIn, preferred?_unknown hs]
  rfl

theorem IsRow.preferredIn_append {a : List Char} (ha : IsRow a) (b : List Char) :
    preferredIn (a ++ b) = preferredIn a ++ preferredIn b := by
  induction ha with
  | nil => rfl
  | literal hc _ ih => rw [List.cons_append, preferredIn_literal hc, preferredIn_literal hc, ih]
  | @specifier spec cs items hs _ ih =>
    rw [List.cons_append, List.append_assoc]
    rcases hs.preferredIn_append (cs ++ b) with ⟨p, rfl, h⟩ | ⟨hkept, h⟩ <;>
      rcases hs.preferredIn_append cs with ⟨q, hq, h'⟩ | ⟨hkept', h'⟩
    · cases hq
      rw [h, h', ih, List.cons_append]
    · exact absurd List.mem_cons_self (hkept' p)
    · exact absurd (hq ▸ List.mem_cons_self) (hkept q)
    · rw [h, h', ih]
  | unknown _ hc _ ih =>
    rw [List.cons_append, List.cons_append, preferredIn_unknown hc, preferredIn_unknown hc, ih]

/-- The preferred patterns that are read are among those that filling in meets. -/
theorem IsRow.mem_preferredIn {cs : List Char} (h : IsRow cs) {p : Preferred}
    (hp : .preferred p ∈ (reading cs).items) : p ∈ preferredIn cs := by
  induction h with
  | nil =>
    rw [reading_nil] at hp
    exact absurd hp List.not_mem_nil
  | literal hc _ ih =>
    rw [reading_literal hc] at hp
    rw [preferredIn_literal hc]
    exact ih (List.mem_of_ne_of_mem (by simp) hp)
  | @specifier spec cs items hs _ ih =>
    rw [reading_specifier hs] at hp
    have hp := Reading.mem_items_andThen hp
    rw [Reading.items_ofItems] at hp
    rcases hs.preferredIn_append cs with ⟨q, rfl, h⟩ | ⟨hkept, h⟩ <;> rw [h]
    · rcases hp with hp | hp
      · cases List.mem_singleton.1 hp
        exact List.mem_cons_self
      · exact List.mem_cons_of_mem _ (ih hp)
    · exact ih (hp.resolve_left (hkept p))
  | unknown ho hc _ _ =>
    rw [reading_unknown ho hc] at hp
    exact absurd hp List.not_mem_nil

/-- What is read to the end has all the preferred patterns that filling in meets. -/
theorem Reads.mem_of_mem_preferredIn {cs : List Char} {items : List Item} (h : Reads cs items)
    {p : Preferred} (hp : p ∈ preferredIn cs) : .preferred p ∈ items := by
  induction h with
  | nil => exact absurd hp List.not_mem_nil
  | literal hc _ ih =>
    rw [preferredIn_literal hc] at hp
    exact List.mem_cons_of_mem _ (ih hp)
  | @specifier spec cs own items hs _ ih =>
    rcases hs.preferredIn_append cs with ⟨q, rfl, h⟩ | ⟨-, h⟩ <;> rw [h] at hp
    · rcases List.mem_cons.1 hp with rfl | hp
      · exact List.mem_cons_self
      · exact List.mem_append_right _ (ih hp)
    · exact List.mem_append_right _ (ih hp)

/-- Nothing is left to fill in when the own patterns that are put in have nothing to fill in. -/
theorem IsRow.preferredIn_substitute {own : Preferred → List Char} (hown : ∀ p, IsRow (own p))
    {cs : List Char} (h : IsRow cs) (hfilled : ∀ p ∈ preferredIn cs, preferredIn (own p) = []) :
    preferredIn (Pattern.substitute own cs) = [] := by
  induction h with
  | nil => rw [Pattern.substitute]; rfl
  | literal hc _ ih =>
    rw [preferredIn_literal hc] at hfilled
    rw [substitute_literal hc, preferredIn_literal hc, ih hfilled]
  | @specifier spec cs items hs _ ih =>
    rcases hs.preferredIn_append cs with ⟨p, rfl, h⟩ | ⟨hkept, h⟩ <;> rw [h] at hfilled
    · rw [hs.substitute_preferred, (hown p).preferredIn_append, hfilled p List.mem_cons_self,
        ih fun q hq => hfilled q (List.mem_cons_of_mem _ hq)]
      rfl
    · rw [hs.substitute_kept hkept]
      rcases hs.preferredIn_append (Pattern.substitute own cs) with ⟨q, rfl, -⟩ | ⟨-, h⟩
      · exact absurd List.mem_cons_self (hkept q)
      · rw [h, ih hfilled]
  | unknown _ hc _ ih =>
    rw [preferredIn_unknown hc] at hfilled
    rw [substitute_unknown hc, preferredIn_unknown hc, ih hfilled]

/-! ### Nesting -/

/-- Holds when the preferred patterns in a text, those in their own patterns and so on go at most so
many levels deep. -/
def nestsWithin (own : Preferred → List Char) : Nat → List Char → Bool
  | 0, cs => (preferredIn cs).isEmpty
  | depth + 1, cs => (preferredIn cs).all fun p => nestsWithin own depth (own p)

/-- Holds of conventions whose own patterns are rows of pieces and, nested in one another, stay
within the depth to which they are filled in. -/
structure IsFillable (c : Conventions) : Prop where
  row : ∀ p : Preferred, IsRow (p.pattern c)
  nested : ∀ p : Preferred, nestsWithin (Preferred.pattern c) (maxNesting - 1) (p.pattern c) = true

theorem IsRow.expandTo (hc : ∀ p : Preferred, IsRow (p.pattern c)) (depth : Nat) {cs : List Char}
    (h : IsRow cs) : IsRow (Pattern.expandTo c depth cs) := by
  induction depth generalizing cs with
  | zero => exact h
  | succ depth ih => exact h.substitute fun p => ih (hc p)

/-- Filling in to a depth replaces everything that is not nested deeper. -/
theorem IsRow.replaced_expandTo (hc : ∀ p : Preferred, IsRow (p.pattern c)) {depth : Nat}
    {cs : List Char} (h : IsRow cs) (hn : nestsWithin (Preferred.pattern c) depth cs = true) :
    Replaced c (reading cs) (reading (Pattern.expandTo c depth cs)) := by
  induction depth generalizing cs with
  | zero =>
    apply replaced_self
    intro p hp
    have hempty := List.isEmpty_iff.1 hn
    have hmem := h.mem_preferredIn hp
    rw [hempty] at hmem
    exact List.not_mem_nil hmem
  | succ depth ih =>
    rw [Pattern.expandTo, h.reading_substitute fun p => (hc p).expandTo hc depth]
    apply replaced_fill
    intro p hp
    exact ih (hc p) (List.all_eq_true.1 hn p (h.mem_preferredIn hp))

theorem IsRow.preferredIn_expandTo (hc : ∀ p : Preferred, IsRow (p.pattern c)) {depth : Nat}
    {cs : List Char} (h : IsRow cs) (hn : nestsWithin (Preferred.pattern c) depth cs = true) :
    preferredIn (Pattern.expandTo c depth cs) = [] := by
  induction depth generalizing cs with
  | zero => exact List.isEmpty_iff.1 hn
  | succ depth ih =>
    apply h.preferredIn_substitute fun p => (hc p).expandTo hc depth
    intro p hp
    exact ih (hc p) (List.all_eq_true.1 hn p hp)

/-- Such conventions are self-contained: their own patterns stay rows when they are filled in. -/
theorem IsFillable.isSelfContained (hc : IsFillable c) : IsSelfContained c :=
  fun p => ((hc.row p).expandTo hc.row (maxNesting - 1)).isWhole

theorem IsFillable.nestsWithin (hc : IsFillable c) (cs : List Char) :
    Pattern.nestsWithin (Preferred.pattern c) maxNesting cs = true :=
  List.all_eq_true.2 fun p _ => hc.nested p

end LocaleClock.Pattern
