import LocaleClock.Proofs.Formatter.Outcome

/-! Patterns as texts that can be taken apart. No accepted pattern runs into the text after it, and
neither does what filling in puts into it. So filling in replaces every preferred pattern and
touches nothing else, and a pattern that is put together from two is accepted and shown as the two
are, one after the other. -/

namespace LocaleClock.Pattern

open LocaleClock.Locale

/-! ### Complete replacement -/

/-- Filling in is complete for the locales of any table in which own patterns are rows of pieces,
nested within the depth of filling in. The text is read without a preferred pattern, as the items of
the pattern with each preferred one replaced by those of the own pattern, however nested, and none
is left behind a place where the reader stops. A second time changes nothing, and nothing changes
where no preferred pattern is. Every other specifier stays whole between what stands before and
after it. -/
theorem filling_in_is_complete (table : Locale → Conventions)
    (fillable : ∀ l, IsFillable (table l)) (l : Locale) (pattern : String)
    (accepted : validate pattern = .ok ()) :
    let filled := expand (table l) pattern.toList
    items? filled = (reading filled).all? ∧
      (∀ p, .preferred p ∉ (reading filled).items) ∧
      (∀ r, Replaced (table l) (reading pattern.toList) r ↔ r = reading filled) ∧
      preferredIn filled = [] ∧ expand (table l) filled = filled ∧
      ((∀ p, .preferred p ∉ (reading pattern.toList).items) → filled = pattern.toList) ∧
      ∀ (before after spec : List Char) (readBefore items : List Item),
        pattern.toList = before ++ '%' :: (spec ++ after) → Reads before readBefore →
          Specifier spec items → (∀ p, .preferred p ∉ items) →
            filled = expand (table l) before ++ '%' :: (spec ++ expand (table l) after) := by
  set c := table l
  have hc : IsFillable c := fillable l
  intro filled
  obtain ⟨items, hread⟩ := exists_reads_of_validate accepted
  have hreplaced : Replaced c (reading pattern.toList) (reading filled) :=
    hread.isRow.replaced_expandTo hc.row (hc.nestsWithin _)
  have hfilled : preferredIn filled = [] :=
    hread.isRow.preferredIn_expandTo hc.row (hc.nestsWithin _)
  refine ⟨(all?_reading filled).symm, hreplaced.not_preferred, ?_, hfilled,
    expandTo_eq_self hfilled c maxNesting, ?_, ?_⟩
  · intro r
    constructor
    · intro h
      exact h.unique hreplaced
    · rintro rfl
      exact hreplaced
  · intro hnone
    rw [hread.reading_eq, Reading.items_ofItems] at hnone
    have hempty : preferredIn pattern.toList = [] :=
      List.eq_nil_iff_forall_not_mem.2 fun p hp => hnone p (hread.mem_of_mem_preferredIn hp)
    exact expandTo_eq_self hempty c maxNesting
  · intro before after spec readBefore own hpattern hbefore hs hkept
    calc filled = substitute (Pattern.own c) (before ++ '%' :: (spec ++ after)) := by
          rw [← hpattern]
          rfl
      _ = expand c before ++ substitute (Pattern.own c) ('%' :: (spec ++ after)) :=
          hbefore.isRow.substitute_append _
      _ = expand c before ++ '%' :: (spec ++ expand c after) := by
          rw [hs.substitute_kept hkept]
          rfl

/-- American English, where the time of day is the time on a dial and the date with a time has the
latter in it; and a pattern that has nothing to be filled in, but looks like it. -/
theorem filling_in_is_complete_nested :
    let c := Locale.americanEnglish.sample
    let pattern := "100%% %-d %c%:z %.3f%X%%c"
    let filled := expand c pattern.toList
    let plain := "%%c %_d %::z%9f"
    (∀ l : Locale, IsFillable l.sample) ∧ c.dateTime = "%a %d %b %Y %r %Z" ∧ c.time = "%r" ∧
      validate pattern = .ok () ∧ validate plain = .ok () ∧
      String.ofList filled =
        "100%% %-d %a %d %b %Y %I:%M:%S %p %Z%:z %.3f%I:%M:%S %p%%c" ∧
      items? filled = (reading filled).all? ∧
      (∀ p, .preferred p ∉ (reading filled).items) ∧
      (∀ r, Replaced c (reading pattern.toList) r ↔ r = reading filled) ∧
      preferredIn filled = [] ∧ expand c filled = filled ∧
      filled = expand c "100%% %-d %c".toList ++
        '%' :: ([':', 'z'] ++ expand c " %.3f%X%%c".toList) ∧
      (∀ p, .preferred p ∉ (reading plain.toList).items) ∧
      expand c plain.toList = plain.toList := by
  intro c pattern filled plain
  have usable : validate pattern = .ok () := by decide +kernel
  have plainUsable : validate plain = .ok () := by decide +kernel
  have before : Reads "100%% %-d %c".toList
      ("100".toList.map .literal ++ [.literal '%', .literal ' ', .number .day .none, .literal ' ',
        .preferred .dateTime]) :=
    reads_of_items? (by decide +kernel)
  have noneIn : ∀ p, .preferred p ∉ (reading plain.toList).items := by
    intro p
    cases p <;> decide +kernel
  obtain ⟨hitems, hnone, hreplaced, hleft, hagain, -, hapart⟩ :=
    filling_in_is_complete Locale.sample sample_isFillable .americanEnglish pattern usable
  obtain ⟨-, -, -, -, -, hplain, -⟩ :=
    filling_in_is_complete Locale.sample sample_isFillable .americanEnglish plain plainUsable
  exact ⟨sample_isFillable, by decide +kernel, by decide +kernel, usable, plainUsable,
    by decide +kernel, hitems, hnone, hreplaced, hleft, hagain,
    hapart _ " %.3f%X%%c".toList _ _ _ (by decide +kernel) before .colon (by simp), noneIn,
    hplain noneIn⟩

/-! ### Patterns one after another -/

theorem Reads.append {p q : List Char} {xs ys : List Item} (hp : Reads p xs) (hq : Reads q ys) :
    Reads (p ++ q) (xs ++ ys) := by
  apply reads_of_items?
  rw [hp.items?_append, hq.items?_eq, Option.map_some]

theorem validate_append {p q : String} (hp : validate p = .ok ()) (hq : validate q = .ok ()) :
    validate (p ++ q) = .ok () := by
  obtain ⟨xs, hxs⟩ := exists_reads_of_validate hp
  obtain ⟨ys, hys⟩ := exists_reads_of_validate hq
  have hblank := (Bool.and_eq_true_iff.1 (validate_eq_ok_iff.1 hp)).1
  rw [Bool.not_eq_true'] at hblank
  rw [validate_eq_ok_iff, String.toList_append, isUsable, (hxs.append hys).items?_eq,
    Text.allBlank, List.all_append, ← Text.allBlank, hblank]
  rfl

section Showing

variable {c : Conventions} {m : Moment}

theorem Reads.render?_append (hc : IsSelfContained c) {p q : List Char} {xs ys : List Item}
    (hp : Reads p xs) (hq : Reads q ys) :
    render? c m (p ++ q) = both? (render? c m p) (render? c m q) := by
  rw [(hp.append hq).render?_eq hc, hp.render?_eq hc, hq.render?_eq hc, ownTexts?_append]

theorem reads_literals {cs : List Char} (h : '%' ∉ cs) : Reads cs (cs.map .literal) := by
  induction cs with
  | nil => exact .nil
  | cons x cs ih =>
    have hx : x ≠ '%' := by
      rintro rfl
      exact h List.mem_cons_self
    exact .literal hx (ih fun hmem => h (List.mem_cons_of_mem x hmem))

theorem ownTexts?_literals (cs : List Char) : ownTexts? c m (cs.map .literal) = some cs := by
  induction cs with
  | nil => rfl
  | cons x cs ih => rw [List.map_cons, ownTexts?, ih]; rfl

end Showing

/-- Showing respects concatenation in the locales of any table in which own patterns do not run into
what comes after them. Two accepted patterns one after the other are accepted; they are shown, at
any moment, as the two texts one after the other, and not at all if one of them is not. A text
without a percent sign is shown as it is. -/
theorem showing_respects_concatenation (table : Locale → Conventions)
    (selfContained : ∀ l, IsSelfContained (table l)) :
    (∀ p q : String, validate p = .ok () → validate q = .ok () →
      validate (p ++ q) = .ok () ∧
        ∀ (l : Locale) (m : Moment),
          (∀ a b, render? (table l) m p.toList = some a → render? (table l) m q.toList = some b →
            render? (table l) m (p ++ q).toList = some (a ++ b)) ∧
          (render? (table l) m p.toList = none ∨ render? (table l) m q.toList = none →
            render? (table l) m (p ++ q).toList = none)) ∧
      ∀ (text : String) (l : Locale) (m : Moment), '%' ∉ text.toList →
        render? (table l) m text.toList = some text.toList := by
  refine ⟨?_, ?_⟩
  · intro p q hp hq
    obtain ⟨xs, hxs⟩ := exists_reads_of_validate hp
    obtain ⟨ys, hys⟩ := exists_reads_of_validate hq
    refine ⟨validate_append hp hq, ?_⟩
    intro l m
    rw [String.toList_append, hxs.render?_append (selfContained l) hys]
    refine ⟨?_, ?_⟩
    · intro a b ha hb
      rw [ha, hb, both?_some_some]
    · rintro (hnone | hnone)
      · rw [hnone, both?_none_left]
      · rw [hnone, both?_none_right]
  · intro text l m htext
    rw [(reads_literals htext).render?_eq (selfContained l), ownTexts?_literals]

/-- Two patterns in Austrian German at the first instant there is. The date at the end of the first
one stands right before a letter of the second, which is no specifier for that. In a locale that
writes dates in other numerals neither the date nor what it is put together with is shown. -/
theorem showing_respects_concatenation_austrian :
    let austrian : Locale := ⟨"de_AT", by decide⟩
    let iranian : Locale := ⟨"az_IR", by decide⟩
    let m := Moment.of ⟨-8334601228800, 0, by decide⟩ ⟨0, by decide⟩
    let p := "100%% %x"
    let q := "d %-d. %B%.3f"
    (∀ l : Locale, IsSelfContained l.sample) ∧
      validate p = .ok () ∧ validate q = .ok () ∧ validate (p ++ q) = .ok () ∧
      render? austrian.sample m p.toList = some "100% -262143-01-01".toList ∧
      render? austrian.sample m q.toList = some "d 1. Jänner,000".toList ∧
      render? austrian.sample m (p ++ q).toList =
        some ("100% -262143-01-01".toList ++ "d 1. Jänner,000".toList) ∧
      render? iranian.sample m p.toList = none ∧ render? iranian.sample m (p ++ q).toList = none ∧
      '%' ∉ "Uhr".toList ∧ render? austrian.sample m "Uhr".toList = some "Uhr".toList := by
  intro austrian iranian m p q
  obtain ⟨shown, asItIs⟩ := showing_respects_concatenation Locale.sample sample_isSelfContained
  have hp : validate p = .ok () := by decide +kernel
  have hq : validate q = .ok () := by decide +kernel
  have hfirst : render? austrian.sample m p.toList = some "100% -262143-01-01".toList := by
    decide +kernel
  have hsecond : render? austrian.sample m q.toList = some "d 1. Jänner,000".toList := by
    decide +kernel
  have hnone : render? iranian.sample m p.toList = none := by decide +kernel
  have hliteral : '%' ∉ "Uhr".toList := by decide +kernel
  obtain ⟨haccepted, hboth⟩ := shown p q hp hq
  exact ⟨sample_isSelfContained, hp, hq, haccepted, hfirst, hsecond,
    (hboth austrian m).1 _ _ hfirst hsecond, hnone, (hboth iranian m).2 (.inl hnone), hliteral,
    asItIs "Uhr" austrian m hliteral⟩

end LocaleClock.Pattern
