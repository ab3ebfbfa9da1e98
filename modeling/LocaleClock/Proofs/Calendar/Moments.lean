import LocaleClock.Calendar.Moment
import LocaleClock.Proofs.Calendar.Dates
import LocaleClock.Proofs.Text.Numbers

/-! What a clock shows of an instant: an hour of the day, a minute of the hour and a second of the
minute, which is the sixtieth during a leap second. Dates and times are written with digits and one
kind of mark between them. -/

namespace LocaleClock

namespace Moment

open Text

/-! ### The time of day -/

theorem hour_lt (t : Instant) (o : Offset) : (Moment.of t o).hour < 24 := by
  have hday : ((t.seconds + o.seconds) % 86400).toNat < 86400 := by omega
  exact Nat.div_lt_of_lt_mul hday

theorem minute_lt (m : Moment) : m.minute < 60 := Nat.mod_lt _ (by decide)

theorem second_eq_of_lt {m : Moment} (h : m.nanos < 1000000000) :
    m.second = m.secondOfDay % 60 := by
  rw [second, Nat.div_eq_of_lt h, Nat.add_zero]

/-- At an offset of whole minutes a leap second, which is the last second of its minute without the
offset, is the last second of its minute on the clock too. -/
theorem second_eq_of_le {t : Instant} {o : Offset} (hleap : 1000000000 ≤ t.nanos)
    (ho : 60 ∣ o.seconds) :
    (Moment.of t o).second = 60 ∧ (Moment.of t o).secondOfDay % 60 = 59 := by
  have hvalid := t.valid
  simp only [isInstant, Bool.and_eq_true, Bool.or_eq_true, decide_eq_true_eq, beq_iff_eq] at hvalid
  have hlast : ((t.seconds + o.seconds) % 86400).toNat % 60 = 59 := by omega
  have hnanos : t.nanos / 1000000000 = 1 := by omega
  exact ⟨congrArg₂ (· + ·) hlast hnanos, hlast⟩

theorem second_le (t : Instant) {o : Offset} (ho : 60 ∣ o.seconds) :
    (Moment.of t o).second ≤ 60 := by
  obtain hlt | hleap := Nat.lt_or_ge t.nanos 1000000000
  · rw [second_eq_of_lt hlt]
    omega
  · exact (second_eq_of_le hleap ho).1.le

theorem secondOfDay_eq (m : Moment) :
    m.hour * 3600 + m.minute * 60 + m.secondOfDay % 60 = m.secondOfDay := by
  rw [hour, minute]
  omega

theorem toDays_of (t : Instant) (o : Offset) :
    (Moment.of t o).date.toDays * 86400 + (Moment.of t o).secondOfDay = t.seconds + o.seconds := by
  have hdays : (Moment.of t o).date.toDays = (t.seconds + o.seconds) / 86400 :=
    Date.toDays_ofDays _
  have hseconds : ((Moment.of t o).secondOfDay : Int) = (t.seconds + o.seconds) % 86400 :=
    Int.toNat_of_nonneg (Int.emod_nonneg _ (by decide))
  rw [hdays, hseconds]
  omega

/-! ### Characters -/

theorem isDigit_or_of_mem_yearText {year : Int} :
    ∀ c ∈ yearText year, c.isDigit = true ∨ c = '-' ∨ c = '+' := by
  intro c hc
  unfold yearText at hc
  split at hc
  · exact .inl (isDigit_of_mem_zeroPadded _ _ c hc)
  · obtain rfl | hc := List.mem_cons.1 hc
    · split <;> simp
    · exact .inl (isDigit_of_mem_zeroPadded _ _ c hc)

theorem isDigit_or_of_mem_dateText {m : Moment} (h : m.date.isValid = true) :
    ∀ c ∈ m.dateText, c.isDigit = true ∨ c = '-' ∨ c = '+' := by
  obtain ⟨hmonth, hday⟩ := Date.le_of_isValid h
  have hdigits : ∀ {n : Nat}, n < 100 → ∀ c ∈ twoDigits n, c.isDigit = true ∨ c = '-' ∨ c = '+' :=
    fun hn c hc => .inl (isDigit_of_mem_twoDigits hn c hc)
  simp only [dateText, List.forall_mem_append, List.forall_mem_cons]
  exact ⟨⟨isDigit_or_of_mem_yearText, by simp, hdigits (by omega)⟩, by simp, hdigits (by omega)⟩

theorem isDigit_or_of_mem_timeText {m : Moment} (hhour : m.hour < 24) (hsecond : m.second ≤ 60) :
    ∀ c ∈ m.timeText, c.isDigit = true ∨ c = ':' := by
  have hminute := m.minute_lt
  have hdigits : ∀ {n : Nat}, n < 100 → ∀ c ∈ twoDigits n, c.isDigit = true ∨ c = ':' :=
    fun hn c hc => .inl (isDigit_of_mem_twoDigits hn c hc)
  simp only [timeText, List.forall_mem_append, List.forall_mem_cons]
  exact ⟨⟨hdigits (by omega), by simp, hdigits (by omega)⟩, by simp, hdigits (by omega)⟩

end Moment

end LocaleClock
