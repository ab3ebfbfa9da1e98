import LocaleClock.Settings.Validation

/-! What accepted settings satisfy. Validation runs its checks one after another and stops at the
first that fails, so settings are accepted exactly when all checks succeed. -/

namespace LocaleClock

/-! ### Checks one after another -/

theorem bind_eq_ok_iff {ε α β : Type} {x : Except ε α} {f : α → Except ε β} {b : β} :
    (x >>= f) = .ok b ↔ ∃ a, x = .ok a ∧ f a = .ok b := by
  cases x <;> simp [bind, Except.bind]

theorem bind_eq_error_iff {ε α β : Type} {x : Except ε α} {f : α → Except ε β} {e : ε} :
    (x >>= f) = .error e ↔ x = .error e ∨ ∃ a, x = .ok a ∧ f a = .error e := by
  cases x <;> simp [bind, Except.bind]

@[simp] theorem exists_eq_ok_unit_iff {ε : Type} {x : Except ε Unit} :
    (∃ u, x = .ok u) ↔ x = .ok () :=
  ⟨fun ⟨(), h⟩ => h, fun h => ⟨(), h⟩⟩

theorem then_eq_ok_iff {ε β : Type} {x : Except ε Unit} {y : Except ε β} {b : β} :
    (do x; y) = .ok b ↔ x = .ok () ∧ y = .ok b := by
  rw [bind_eq_ok_iff, exists_and_right, exists_eq_ok_unit_iff]

theorem forM_eq_ok_iff {ε α : Type} {f : α → Except ε Unit} {xs : List α} :
    xs.forM f = .ok () ↔ ∀ x ∈ xs, f x = .ok () := by
  induction xs with
  | nil => exact ⟨fun _ => by simp, fun _ => rfl⟩
  | cons x xs ih =>
    rw [List.forall_mem_cons, ← ih]
    exact then_eq_ok_iff

theorem mapM_eq_ok_iff {ε α β : Type} {check : α → Except ε β} {x : Option α} {y : Option β} :
    x.mapM check = .ok y ↔
      (x = none ∧ y = none) ∨ ∃ a b, x = some a ∧ check a = .ok b ∧ y = some b := by
  cases x with
  | none => simp [pure, Except.pure, eq_comm]
  | some a => cases h : check a <;> simp [h, Functor.map, Except.map, eq_comm]

theorem exists_mapM_eq_ok_iff {ε α β : Type} {check : α → Except ε β} {x : Option α} :
    (∃ y, x.mapM check = .ok y) ↔ ∀ a, x = some a → ∃ b, check a = .ok b := by
  cases x with
  | none => exact ⟨fun _ a ha => (nomatch ha), fun _ => ⟨none, rfl⟩⟩
  | some a => cases h : check a <;> simp [h, Functor.map, Except.map]

namespace Settings

/-! ### Single checks -/

theorem accept_eq_ok_iff {α : Type} {fault : FormatError → Fault} {x : Except FormatError α} :
    accept fault x = .ok () ↔ ∃ a, x = .ok a := by
  cases x <;> simp [accept]

theorem acceptOption_eq_ok_iff {α β : Type} {fault : FormatError → Fault}
    {check : α → Except FormatError β} {x : Option α} :
    acceptOption fault check x = .ok () ↔ ∀ a, x = some a → ∃ b, check a = .ok b := by
  cases x with
  | none => simp [acceptOption]
  | some a => simp [acceptOption, accept_eq_ok_iff]

theorem validateSection_eq_ok_iff {identifier : String} {c : Customization} :
    validateSection identifier c = .ok () ↔
      Text.allBlank identifier.toList = false ∧
        (∀ p, c.format = some p → Pattern.validate p = .ok ()) ∧
        ∀ b, c.base = some b → ∃ l, Locale.resolve b = .ok l := by
  unfold validateSection
  cases Text.allBlank identifier.toList with
  | true => simp [throw, throwThe, MonadExceptOf.throw, bind, Except.bind]
  | false =>
    have hchecks := then_eq_ok_iff (b := ())
      (x := acceptOption (.localeFormat identifier) Pattern.validate c.format)
      (y := acceptOption (.localeBase identifier) Locale.resolve c.base)
    simpa [acceptOption_eq_ok_iff] using hchecks

theorem validateLevel_eq_ok_iff {name : String} :
    validateLevel name = .ok () ↔ ∃ t, Log.Threshold.ofName? name = some t := by
  unfold validateLevel
  split
  case isTrue h => simpa using Option.isSome_iff_exists.1 h
  case isFalse h => simp_all

theorem validate_eq_ok_iff {s : Settings} :
    s.validate = .ok () ↔
      Pattern.validate s.formatting.format = .ok () ∧
        (∃ l, Locale.resolve s.formatting.defaultLocale = .ok l) ∧
        (∀ text, s.formatting.utcOffset = some text → ∃ o, Offset.parse text = .ok o) ∧
        (∀ e ∈ s.locales.entries, validateSection e.1 e.2 = .ok ()) ∧
        ∃ t, Log.Threshold.ofName? s.logging.level = some t := by
  unfold validate
  rw [then_eq_ok_iff, then_eq_ok_iff, then_eq_ok_iff, then_eq_ok_iff, accept_eq_ok_iff,
    accept_eq_ok_iff, acceptOption_eq_ok_iff, forM_eq_ok_iff, validateLevel_eq_ok_iff,
    exists_eq_ok_unit_iff]

end Settings

end LocaleClock
