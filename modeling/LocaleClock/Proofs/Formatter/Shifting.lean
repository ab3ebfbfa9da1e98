import Mathlib.Control.Monad.Basic
import LocaleClock.Formatter.Formatting
import LocaleClock.Proofs.Pattern.Filling

/-! The display offset as a shift of the clock. All items but the offset, the timestamp and the form
of timestamps are read off the clock: the date, the second of the day and the fraction, which an
offset moves by its seconds and nothing else. So an instant at an offset is shown like the instant
that is later by the offset at Coordinated Universal Time. -/

namespace LocaleClock

open LocaleClock.Locale (Conventions)

/-! ### Moments -/

namespace Moment

/-- Holds of two moments at which the clock reads the same, at whatever offsets. -/
structure ReadsLike (m m' : Moment) : Prop where
  date : m.date = m'.date
  secondOfDay : m.secondOfDay = m'.secondOfDay
  nanos : m.nanos = m'.nanos

/-- At an offset the clock reads what it reads later by the offset without one. -/
theorem readsLike_of {t t' : Instant} {o : Offset} (hseconds : t'.seconds = t.seconds + o.seconds)
    (hnanos : t'.nanos = t.nanos) : (Moment.of t o).ReadsLike (Moment.of t' .utc) := by
  have hshown : t'.seconds + Offset.utc.seconds = t.seconds + o.seconds := by
    rw [hseconds, Offset.utc, Int.add_zero]
  constructor
  · simp only [Moment.of, hshown]
  · simp only [Moment.of, hshown]
  · exact hnanos.symm

end Moment

/-- The instant that is later by an offset, unless it is out of range or the offset would move a
leap second off the end of its minute. -/
theorem Instant.exists_shifted (t : Instant) {o : Offset}
    (hlow : -8334601228800 ≤ t.seconds + o.seconds) (hhigh : t.seconds + o.seconds ≤ 8210266876799)
    (hleap : t.nanos < 1000000000 ∨ 60 ∣ o.seconds) :
    ∃ t', Instant.of? (t.seconds + o.seconds) t.nanos = some t' ∧
      t'.seconds = t.seconds + o.seconds ∧ t'.nanos = t.nanos := by
  have hvalid := t.valid
  simp only [isInstant, Bool.and_eq_true, Bool.or_eq_true, decide_eq_true_eq, beq_iff_eq] at hvalid
  have hshifted : isInstant (t.seconds + o.seconds) t.nanos = true := by
    simp only [isInstant, Bool.and_eq_true, Bool.or_eq_true, decide_eq_true_eq, beq_iff_eq]
    refine ⟨⟨⟨hlow, hhigh⟩, hvalid.1.2⟩, ?_⟩
    omega
  exact ⟨⟨_, _, hshifted⟩, dif_pos hshifted, rfl, rfl⟩

/-! ### Patterns -/

namespace Pattern

/-- Holds of the items that are read off the clock. -/
def Item.isOnClock : Item → Bool
  | .number .timestamp _ | .zone _ | .stamp => false
  | .number _ _ | .literal _ | .word _ | .fraction _ | .preferred _ => true

/-- Holds of a pattern of which every item is read off the clock, after preferred patterns are
filled in. -/
def isOnClock (c : Conventions) (pattern : List Char) : Bool :=
  (items? (expand c pattern)).all fun items => items.all Item.isOnClock

variable {c : Conventions} {m m' : Moment}

theorem itemText?_congr (h : m.ReadsLike m') {item : Item} (hitem : item.isOnClock = true) :
    itemText? c m item = itemText? c m' item := by
  obtain ⟨date, secondOfDay, nanos, o, timestamp⟩ := m
  obtain ⟨date', secondOfDay', nanos', o', timestamp'⟩ := m'
  obtain ⟨rfl, rfl, rfl⟩ := h
  cases item with
  | number field fill =>
    cases field with
    | timestamp => cases hitem
    | _ => rfl
  | zone z => cases hitem
  | stamp => cases hitem
  | literal | word | fraction | preferred => rfl

theorem itemsText?_congr (h : m.ReadsLike m') {items : List Item}
    (hitems : ∀ item ∈ items, item.isOnClock = true) :
    itemsText? c m items = itemsText? c m' items := by
  induction items with
  | nil => rfl
  | cons item items ih =>
    obtain ⟨hitem, hrest⟩ := List.forall_mem_cons.1 hitems
    rw [itemsText?_cons, itemsText?_cons, itemText?_congr h hitem, ih hrest]

/-- What is read off the clock is shown alike wherever the clock reads alike. -/
theorem render?_congr (h : m.ReadsLike m') {pattern : List Char}
    (hpattern : isOnClock c pattern = true) : render? c m pattern = render? c m' pattern := by
  unfold isOnClock at hpattern
  unfold render?
  cases hitems : items? (expand c pattern) with
  | none => rfl
  | some items =>
    rw [hitems, Option.all_some, List.all_eq_true] at hpattern
    exact itemsText?_congr h hpattern

end Pattern

/-! ### Formatters -/

namespace Formatter

theorem render_withOffset_congr (zone : TimeZone) (f : Formatter) {c : Conventions}
    {t t' : Instant} {o o' : Offset} (h : (Moment.of t o).ReadsLike (Moment.of t' o'))
    {pattern : String} (hpattern : Pattern.isOnClock c pattern.toList = true) :
    (f.withOffset o).render zone c t pattern = (f.withOffset o').render zone c t' pattern := by
  have hsame := Pattern.render?_congr h hpattern
  have hmoment : ∀ (t : Instant) (o : Offset), (f.withOffset o).moment zone t = Moment.of t o :=
    fun _ _ => rfl
  rw [render, render, hmoment, hmoment, hsame]

/-- A display offset only shifts the clock. With a pattern that, filled in, has no offset and no
timestamp in it, an instant at an offset is shown, or fails to be shown, and is recorded like the
instant that is later by the offset at Coordinated Universal Time. There is such an instant whenever
its second is in range, unless the instant is in a leap second and the offset no whole number of
minutes. -/
theorem offset_shifts_the_clock (table : Locale → Conventions) (zone : TimeZone) (f : Formatter)
    (identifier : String) (t : Instant) (o : Offset)
    (hlow : -8334601228800 ≤ t.seconds + o.seconds) (hhigh : t.seconds + o.seconds ≤ 8210266876799)
    (hleap : t.nanos < 1000000000 ∨ 60 ∣ o.seconds)
    (honClock : Pattern.isOnClock (table (f.localeFor identifier).value)
      (f.patternFor identifier).toList = true) :
    ∃ t', Instant.of? (t.seconds + o.seconds) t.nanos = some t' ∧
      (f.withOffset o).tryFormatBy table zone t identifier =
        (f.withOffset .utc).tryFormatBy table zone t' identifier := by
  obtain ⟨t', ht', hseconds, hnanos⟩ := t.exists_shifted hlow hhigh hleap
  refine ⟨t', ht', ?_⟩
  have hrender := render_withOffset_congr zone f (Moment.readsLike_of hseconds hnanos) honClock
  have hpattern : ∀ o, (f.withOffset o).patternFor identifier = f.patternFor identifier :=
    fun _ => rfl
  have hlocale : ∀ o, (f.withOffset o).localeFor identifier = f.localeFor identifier :=
    fun _ => rfl
  simp only [tryFormatBy, hpattern, hlocale, Log.Logged.andThen, hrender]

/-- A leap second before 1970 at an offset of whole minutes, which is in the next year there, with
the Austrian date and the week of the year filled in. -/
theorem offset_shifts_the_clock_austrian :
    let f := initial.withPattern "%x %A %j %G-W%V %U %l:%M:%S%.3f"
    let t : Instant := ⟨-1, 1500000000, by decide⟩
    let o : Offset := ⟨19800, by decide⟩
    t.seconds + o.seconds = 19799 ∧ 60 ∣ o.seconds ∧
      Pattern.isOnClock (f.localeFor "de-AT").value.sample (f.patternFor "de-AT").toList =
        true ∧
      ((f.withOffset o).tryFormat t "de-AT").value =
        .ok "1970-01-01 Donnerstag 001 1970-W01 00  5:29:60,500" ∧
      ∃ t', Instant.of? (t.seconds + o.seconds) t.nanos = some t' ∧
        (f.withOffset o).tryFormat t "de-AT" = (f.withOffset .utc).tryFormat t' "de-AT" := by
  intro f t o
  have hminutes : 60 ∣ o.seconds := ⟨330, rfl⟩
  have honClock : Pattern.isOnClock (f.localeFor "de-AT").value.sample
      (f.patternFor "de-AT").toList = true := by
    decide +kernel
  exact ⟨rfl, hminutes, honClock, by decide +kernel,
    offset_shifts_the_clock Locale.sample .utc f "de-AT" t o (by decide) (by decide)
      (.inr hminutes) honClock⟩

end Formatter

end LocaleClock
