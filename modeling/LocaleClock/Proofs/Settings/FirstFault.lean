import LocaleClock.Proofs.Calendar.Offsets
import LocaleClock.Proofs.Locale.Resolution
import LocaleClock.Proofs.Pattern.Validation
import LocaleClock.Proofs.Settings.Checks
import LocaleClock.Proofs.Text.ByteOrder

/-! The fault that validation reports. Settings have to meet a list of conditions, and validation
goes through the list: settings are accepted when all conditions hold, and otherwise the first one
that does not is the fault. Sections come in the order of the bytes of their identifiers. -/

namespace LocaleClock

/-! ### The first check that fails -/

theorem forM_eq_error_iff {ε α : Type} {f : α → Except ε Unit} {xs : List α} {e : ε} :
    xs.forM f = .error e ↔
      ∃ before x after, xs = before ++ x :: after ∧ (∀ b ∈ before, f b = .ok ()) ∧
        f x = .error e := by
  induction xs with
  | nil =>
    constructor
    · intro h
      cases h
    · rintro ⟨before, x, after, heq, -⟩
      cases before <;> cases heq
  | cons x xs ih =>
    have hstep : (x :: xs).forM f = (do f x; xs.forM f) := rfl
    rw [hstep, bind_eq_error_iff]
    constructor
    · rintro (hx | ⟨u, hx, hrest⟩)
      · exact ⟨[], x, xs, rfl, List.forall_mem_nil _, hx⟩
      · obtain ⟨before, y, after, rfl, hbefore, hy⟩ := ih.1 hrest
        exact ⟨x :: before, y, after, rfl, List.forall_mem_cons.2 ⟨hx, hbefore⟩, hy⟩
    · rintro ⟨before, y, after, heq, hbefore, hy⟩
      -- this check is the one that fails, or one of those before it
      cases before with
      | nil =>
        cases heq
        exact .inl hy
      | cons b before =>
        cases heq
        obtain ⟨hb, hrest⟩ := List.forall_mem_cons.1 hbefore
        exact .inr ⟨(), hb, ih.2 ⟨before, y, after, rfl, hrest, hy⟩⟩

theorem forM_singleton {ε α : Type} (f : α → Except ε Unit) (x : α) : forM [x] f = f x := by
  rw [List.forM_cons, List.forM_nil]
  exact bind_pure (f x)

theorem forM_flatMap {ε α β : Type} (f : β → Except ε Unit) (g : α → List β) (xs : List α) :
    forM (xs.flatMap g) f = forM xs fun x => forM (g x) f := by
  induction xs with
  | nil => rfl
  | cons x xs ih => rw [List.flatMap_cons, List.forM_append, List.forM_cons, ih]

namespace Settings

/-! ### Conditions -/

inductive Condition where
  /-- The pattern can be used. -/
  | format (pattern : String)
  /-- The identifier of the default locale means a locale. -/
  | defaultLocale (identifier : String)
  /-- The text is an offset. -/
  | utcOffset (text : String)
  /-- The identifier of a section has a character that is not white space. -/
  | notBlank (identifier : String)
  /-- The pattern of a section can be used. -/
  | localeFormat (identifier pattern : String)
  /-- The base of a section means a locale. -/
  | localeBase (identifier base : String)
  /-- The level has one of the six names. -/
  | level (name : String)

/-- The names of levels in the order in which a report lists them. -/
def knownLevels : List String := ["off", "error", "warn", "info", "debug", "trace"]

namespace Condition

def Holds : Condition → Prop
  | .format pattern | .localeFormat _ pattern => Pattern.validate pattern = .ok ()
  | .defaultLocale identifier | .localeBase _ identifier => ∃ l, Locale.resolve identifier = .ok l
  | .utcOffset text => ∃ o, Offset.parse text = .ok o
  | .notBlank identifier => ∃ c ∈ identifier.toList, Text.isBlank c = false
  | .level name => ∃ known ∈ knownLevels, Text.sameLetters name.toList known.toList = true

/-- The fault of settings that do not meet a condition. Its cause quotes the value. -/
def fault : Condition → Fault
  | .format pattern => .format (.invalidPattern pattern)
  | .defaultLocale identifier => .defaultLocale (.unknownLocale identifier)
  | .utcOffset text => .utcOffset (.invalidOffset text)
  | .notBlank _ => .blankIdentifier
  | .localeFormat identifier pattern => .localeFormat identifier (.invalidPattern pattern)
  | .localeBase identifier base => .localeBase identifier (.unknownLocale base)
  | .level name => .level name

/-- What is said of settings that do not meet a condition: the message, and the cause if another
part of the program found the fault. -/
def report : Condition → Report
  | .format pattern =>
    ⟨"Invalid [formatter] format", ["Invalid format pattern: '" ++ pattern ++ "'"]⟩
  | .defaultLocale identifier =>
    ⟨"Invalid [formatter] default_locale", ["Unknown locale: '" ++ identifier ++ "'"]⟩
  | .utcOffset text =>
    ⟨"Invalid [formatter] utc_offset",
      ["Invalid UTC offset '" ++ text ++ "', expected something like +02:00"]⟩
  | .notBlank _ => ⟨"Locale identifiers in [locales] cannot be empty", []⟩
  | .localeFormat identifier pattern =>
    ⟨"Locale '" ++ identifier ++ "': invalid format",
      ["Invalid format pattern: '" ++ pattern ++ "'"]⟩
  | .localeBase identifier base =>
    ⟨"Locale '" ++ identifier ++ "': invalid base", ["Unknown locale: '" ++ base ++ "'"]⟩
  | .level name =>
    ⟨"Invalid [logging] level '" ++ name ++ "', expected one of: " ++
      ", ".intercalate knownLevels, []⟩

/-- The check of a condition by itself. -/
def check : Condition → Except Fault Unit
  | .format pattern => accept .format (Pattern.validate pattern)
  | .defaultLocale identifier => accept .defaultLocale (Locale.resolve identifier)
  | .utcOffset text => accept .utcOffset (Offset.parse text)
  | .notBlank identifier =>
    if Text.allBlank identifier.toList then .error .blankIdentifier else .ok ()
  | .localeFormat identifier pattern => accept (.localeFormat identifier) (Pattern.validate pattern)
  | .localeBase identifier base => accept (.localeBase identifier) (Locale.resolve base)
  | .level name => validateLevel name

end Condition

/-- The conditions on a section: its identifier, then its pattern, then its base. -/
def sectionConditions (e : String × Customization) : List Condition :=
  .notBlank e.1 ::
    (e.2.format.toList.map (.localeFormat e.1) ++ e.2.base.toList.map (.localeBase e.1))

/-- The conditions on settings in the order in which they are looked at. -/
def conditions (s : Settings) : List Condition :=
  .format s.formatting.format :: .defaultLocale s.formatting.defaultLocale ::
    (s.formatting.utcOffset.toList.map .utcOffset ++
      (s.locales.entries.flatMap sectionConditions ++ [.level s.logging.level]))

/-! ### Single checks -/

theorem accept_eq_error_iff {α : Type} {fault : FormatError → Fault} {x : Except FormatError α}
    {cause : FormatError} (hcause : ∀ e, x = .error e → e = cause) {e : Fault} :
    accept fault x = .error e ↔ ¬ (∃ a, x = .ok a) ∧ e = fault cause := by
  cases x with
  | ok a => simp [accept]
  | error e' =>
    obtain rfl := hcause e' rfl
    simp [accept, eq_comm]

theorem isSome_ofName?_iff {name : String} :
    (Log.Threshold.ofName? name).isSome = true ↔
      ∃ known ∈ knownLevels, Text.sameLetters name.toList known.toList = true := by
  have hnames : Log.Threshold.all.map (fun t => Text.asciiLower t.name.toList) =
      knownLevels.map fun known => Text.asciiLower known.toList := by
    decide
  simp only [Log.Threshold.ofName?, List.find?_isSome, Text.sameLetters, beq_iff_eq]
  rw [← List.mem_map, hnames, List.mem_map]
  simp only [eq_comm]

namespace Condition

theorem fault_report (c : Condition) : c.fault.report = c.report := by
  cases c with
  | level name =>
    have hnames : levelNames = knownLevels := by decide
    unfold fault Fault.report report
    rw [hnames]
    rfl
  | _ => rfl

theorem check_eq_ok_iff {c : Condition} : c.check = .ok () ↔ c.Holds := by
  cases c with
  | format pattern | localeFormat _ pattern =>
    exact accept_eq_ok_iff.trans exists_eq_ok_unit_iff
  | defaultLocale identifier | localeBase _ identifier => exact accept_eq_ok_iff
  | utcOffset text => exact accept_eq_ok_iff
  | notBlank identifier => simp [check, Holds, Text.allBlank]
  | level name =>
    rw [check, validateLevel_eq_ok_iff, ← Option.isSome_iff_exists, isSome_ofName?_iff, Holds]

theorem check_eq_error_iff {c : Condition} {e : Fault} :
    c.check = .error e ↔ ¬ c.Holds ∧ e = c.fault := by
  cases c with
  | format pattern | localeFormat _ pattern =>
    exact (accept_eq_error_iff fun _ => Pattern.validate_eq_error).trans
      (and_congr_left' (not_congr exists_eq_ok_unit_iff))
  | defaultLocale identifier | localeBase _ identifier =>
    exact accept_eq_error_iff fun _ => Locale.resolve_eq_error
  | utcOffset text => exact accept_eq_error_iff fun _ => Offset.parse_eq_error
  | notBlank identifier =>
    rw [← check_eq_ok_iff, check]
    split <;> simp [fault, eq_comm (a := e)]
  | level name =>
    rw [← check_eq_ok_iff, check, validateLevel]
    split <;> simp [fault, eq_comm (a := e)]

end Condition

/-! ### Validation as a pass through the conditions -/

theorem acceptOption_eq_forM {α β : Type} {fault : FormatError → Fault}
    {check : α → Except FormatError β} {condition : α → Condition}
    (h : ∀ a, (condition a).check = accept fault (check a)) (x : Option α) :
    acceptOption fault check x = forM (x.toList.map condition) Condition.check := by
  cases x with
  | none => rfl
  | some a => rw [acceptOption, ← h a, Option.toList_some, List.map_singleton, forM_singleton]

theorem validateSection_eq_forM (e : String × Customization) :
    validateSection e.1 e.2 = forM (sectionConditions e) Condition.check := by
  rw [sectionConditions, List.forM_cons, List.forM_append,
    ← acceptOption_eq_forM fun _ => rfl, ← acceptOption_eq_forM fun _ => rfl,
    validateSection, Condition.check]
  split <;> rfl

theorem validate_eq_forM (s : Settings) : s.validate = s.conditions.forM Condition.check := by
  rw [List.forM_eq_forM, conditions, List.forM_cons, List.forM_cons, List.forM_append,
    List.forM_append, forM_flatMap, forM_singleton, ← acceptOption_eq_forM fun _ => rfl]
  simp only [← validateSection_eq_forM]
  rfl

/-- Settings are accepted exactly when they meet all conditions. Otherwise the fault, and what is
reported of it, is that of the first condition they do not meet: of the pattern, the default locale,
the offset, the sections and the level, in this order. The sections are looked at in increasing
order of the bytes of their identifiers, and in each the identifier, the pattern and the base. -/
theorem first_violated_condition_is_reported (s : Settings) :
    (s.validate = .ok () ↔ ∀ c ∈ s.conditions, c.Holds) ∧
    (∀ fault : Fault, s.validate = .error fault ↔
      ∃ before c after, s.conditions = before ++ c :: after ∧ (∀ b ∈ before, b.Holds) ∧
        ¬ c.Holds ∧ fault = c.fault ∧ fault.report = c.report) ∧
    s.locales.entries.Pairwise fun a b => Text.bytesOf a.1 < Text.bytesOf b.1 := by
  rw [validate_eq_forM]
  refine ⟨?_, ?_, ?_⟩
  · rw [forM_eq_ok_iff]
    simp only [Condition.check_eq_ok_iff]
  · intro fault
    have hreport : ∀ c : Condition, fault = c.fault ∧ fault.report = c.report ↔ fault = c.fault :=
      fun c => and_iff_left_of_imp fun h => h ▸ c.fault_report
    rw [forM_eq_error_iff]
    simp only [Condition.check_eq_ok_iff, Condition.check_eq_error_iff, hreport]
  · exact s.locales.increasing.imp Text.bytesOf_lt_iff.2

/-- Capital letters come before small ones, so of these three faults the second is reported. -/
example :
    let sections := Sections.ofList [("a", ⟨some "%", none⟩), ("B", ⟨some "%H", some "xx"⟩)]
    ({ standard with locales := sections, logging := ⟨true, " info", none⟩ } : Settings).validate =
      .error (.localeBase "B" (.unknownLocale "xx")) := by
  decide +kernel

end Settings

end LocaleClock
