import Mathlib.Control.Monad.Basic
import LocaleClock.Formatter.Basic

/-! What sequences of steps make of a formatter. A step sets one part and leaves the others, so
after a run each part is what the last step of its kind made of it. A step that fails is of no kind
and leaves no trace. -/

namespace LocaleClock.Formatter

open Customization (lookupKey languageKey)

/-! ### What a step sets -/

namespace Step

def pattern? : Step → Option String
  | pattern p => some p
  | _ => none

/-- The default locale that a step sets, none when its identifier means no locale. -/
def defaultLocale? : Step → Option Locale
  | defaultLocale identifier => (Locale.resolve identifier).toOption
  | _ => none

def offset? : Step → Option Offset
  | offset o => some o
  | _ => none

def clock? : Step → Option Clock
  | clock c => some c
  | _ => none

def customization? (key : String) : Step → Option Customization
  | register identifier c => if lookupKey identifier = key then some c else none
  | _ => none

/-- What the last step of a kind sets. -/
def last? {α : Type} (read? : Step → Option α) (steps : List Step) : Option α :=
  (steps.filterMap read?).getLast?

theorem last?_cons {α : Type} (read? : Step → Option α) (s : Step) (steps : List Step) :
    last? read? (s :: steps) = (last? read? steps).or (read? s) := by
  unfold last?
  cases hs : read? s with
  | none => rw [List.filterMap_cons_none hs, Option.or_none]
  | some a =>
    rw [List.filterMap_cons_some hs, List.getLast?_cons]
    cases (steps.filterMap read?).getLast? <;> rfl

end Step

/-! ### One step -/

theorem applyOrKeep_defaultLocale (f : Formatter) (identifier : String) :
    f.applyOrKeep (.defaultLocale identifier) =
      { f with defaultLocale := (Locale.resolve identifier).toOption.getD f.defaultLocale } := by
  simp only [applyOrKeep, apply, withDefaultLocale]
  cases Locale.resolve identifier <;> rfl

theorem pattern_applyOrKeep (f : Formatter) (s : Step) :
    (f.applyOrKeep s).pattern = s.pattern?.getD f.pattern := by
  cases s with
  | defaultLocale identifier => rw [applyOrKeep_defaultLocale]; rfl
  | pattern | offset | clock | register => rfl

theorem defaultLocale_applyOrKeep (f : Formatter) (s : Step) :
    (f.applyOrKeep s).defaultLocale = s.defaultLocale?.getD f.defaultLocale := by
  cases s with
  | defaultLocale identifier => rw [applyOrKeep_defaultLocale]; rfl
  | pattern | offset | clock | register => rfl

theorem offset_applyOrKeep (f : Formatter) (s : Step) :
    (f.applyOrKeep s).offset = s.offset?.or f.offset := by
  cases s with
  | defaultLocale identifier => rw [applyOrKeep_defaultLocale]; rfl
  | pattern | offset | clock | register => rfl

theorem clock_applyOrKeep (f : Formatter) (s : Step) :
    (f.applyOrKeep s).clock = s.clock?.getD f.clock := by
  cases s with
  | defaultLocale identifier => rw [applyOrKeep_defaultLocale]; rfl
  | pattern | offset | clock | register => rfl

theorem find?_applyOrKeep (key : String) (f : Formatter) (s : Step) :
    (f.applyOrKeep s).customizations.find? key =
      (s.customization? key).or (f.customizations.find? key) := by
  cases s with
  | defaultLocale identifier => rw [applyOrKeep_defaultLocale]; rfl
  | register identifier c =>
    refine (Registry.find?_insert ..).trans ?_
    rw [Step.customization?]
    by_cases h : key = lookupKey identifier
    · rw [if_pos h, if_pos h.symm, Option.some_or]
    · rw [if_neg h, if_neg (Ne.symm h), Option.none_or]
  | pattern | offset | clock => rfl

/-! ### Runs -/

/-- A part that each step sets or leaves is after a run what the last step that sets it made of
it. -/
theorem applyAll_or {α : Type} (part : Formatter → Option α) {read? : Step → Option α}
    (hstep : ∀ f s, part (f.applyOrKeep s) = (read? s).or (part f)) (f : Formatter)
    (steps : List Step) : part (f.applyAll steps) = (Step.last? read? steps).or (part f) := by
  induction steps generalizing f with
  | nil => rfl
  | cons s steps ih =>
    have hrest : part (f.applyAll (s :: steps)) =
        (Step.last? read? steps).or (part (f.applyOrKeep s)) := ih (f.applyOrKeep s)
    rw [hrest, hstep, Step.last?_cons, Option.or_assoc]

theorem applyAll_getD {α : Type} (part : Formatter → α) {read? : Step → Option α}
    (hstep : ∀ f s, part (f.applyOrKeep s) = (read? s).getD (part f)) (f : Formatter)
    (steps : List Step) : part (f.applyAll steps) = (Step.last? read? steps).getD (part f) := by
  have hsome : ∀ f s, some (part (f.applyOrKeep s)) = (read? s).or (some (part f)) := by
    intro f s
    rw [hstep, Option.or_some]
  have hlast := applyAll_or (fun f => some (part f)) hsome f steps
  rw [Option.or_some] at hlast
  exact Option.some.inj hlast

theorem find?_applyAll (f : Formatter) (steps : List Step) (key : String) :
    (f.applyAll steps).customizations.find? key =
      (Step.last? (Step.customization? key) steps).or (f.customizations.find? key) :=
  applyAll_or (fun f => f.customizations.find? key) (find?_applyOrKeep key) f steps

/-- A step that fails can be left out of a run. -/
theorem applyAll_of_apply_error {f : Formatter} {before after : List Step} {s : Step}
    {e : FormatError} (h : (f.applyAll before).apply s = .error e) :
    f.applyAll (before ++ s :: after) = f.applyAll (before ++ after) := by
  have hkeep : (f.applyAll before).applyOrKeep s = f.applyAll before := by
    rw [applyOrKeep, h]
  unfold applyAll at hkeep ⊢
  rw [List.foldl_append, List.foldl_append, List.foldl_cons, hkeep]

/-! ### Patterns -/

theorem patternFor_eq (f : Formatter) (identifier : String) :
    f.patternFor identifier =
      (((f.customization? identifier).bind Customization.format).or
        ((f.customizations.find? (languageKey (lookupKey identifier))).bind
          Customization.format)).getD f.pattern := by
  unfold patternFor customization?
  dsimp only
  congr 1
  rw [List.findSome?_cons, List.findSome?_singleton]
  cases (f.customizations.find? (lookupKey identifier)).bind Customization.format <;> rfl

/-- After any steps, the pattern, the default locale, the offset and the clock are those of the last
step of their kind that did not fail. The customization of an identifier is the last one that was
registered under its key, as a whole. Its pattern is the one of that customization, else the one of
the last customization registered under the key of its language, else the formatter's. A step that
fails might as well not have been taken. -/
theorem state_of_last_steps (steps : List Step) :
    let f := initial.applyAll steps
    f.pattern = (Step.last? Step.pattern? steps).getD defaultPattern ∧
      f.defaultLocale = (Step.last? Step.defaultLocale? steps).getD .americanEnglish ∧
      f.offset = Step.last? Step.offset? steps ∧
      f.clock = (Step.last? Step.clock? steps).getD .system ∧
      (∀ identifier, f.customization? identifier =
        Step.last? (Step.customization? (lookupKey identifier)) steps) ∧
      (∀ identifier, f.patternFor identifier =
        (((Step.last? (Step.customization? (lookupKey identifier)) steps).bind
            Customization.format).or
          ((Step.last? (Step.customization? (languageKey (lookupKey identifier))) steps).bind
            Customization.format)).getD f.pattern) ∧
      ∀ before s after e, steps = before ++ s :: after →
        (initial.applyAll before).apply s = .error e →
        f = initial.applyAll (before ++ after) := by
  intro f
  have hfind (key : String) : f.customizations.find? key =
      Step.last? (Step.customization? key) steps := by
    rw [find?_applyAll]
    exact Option.or_none
  refine ⟨?pattern, ?defaultLocale, ?offset, ?clock, fun identifier => hfind _, ?patternFor, ?trace⟩
  case pattern => exact applyAll_getD _ pattern_applyOrKeep initial steps
  case defaultLocale => exact applyAll_getD _ defaultLocale_applyOrKeep initial steps
  case offset => exact (applyAll_or _ offset_applyOrKeep initial steps).trans Option.or_none
  case clock => exact applyAll_getD _ clock_applyOrKeep initial steps
  case patternFor =>
    intro identifier
    rw [patternFor_eq, customization?, hfind, hfind]
  case trace =>
    rintro before s after e rfl herror
    exact applyAll_of_apply_error herror

/-- A run in which a later empty customization takes the place of an earlier one, a language's
pattern is used for its region, and a default locale that means nothing is passed over. -/
theorem state_of_last_steps_mixed :
    let before : List Step := [.pattern "%F", .register "de" ⟨some "%d.%m.%Y", none⟩,
      .register " De-AT" ⟨some "%x", some "en_GB"⟩, .defaultLocale "sv"]
    let after : List Step := [.register "de_at" .empty, .pattern "%T"]
    let failing : Step := .defaultLocale "no such locale"
    let f := initial.applyAll (before ++ failing :: after)
    (initial.applyAll before).apply failing = .error (.unknownLocale "no such locale") ∧
      f = initial.applyAll (before ++ after) ∧
      f.pattern = "%T" ∧
      some f.defaultLocale = Locale.ofName? "sv_SE" ∧
      f.offset = none ∧
      f.customization? "DE_AT " = some .empty ∧
      f.patternFor "de-at" = "%d.%m.%Y" ∧
      f.patternFor "sv" = "%T" := by
  intro before after failing f
  have hfails : (initial.applyAll before).apply failing =
      .error (.unknownLocale "no such locale") := by
    decide +kernel
  obtain ⟨hpattern, hlocale, hoffset, -, hcustomization, hown, htrace⟩ :=
    state_of_last_steps (before ++ failing :: after)
  refine ⟨hfails, htrace before failing after _ rfl hfails, hpattern, ?_, hoffset, ?_, ?_, ?_⟩
  · exact (congrArg some hlocale).trans (by decide +kernel)
  · exact (hcustomization "DE_AT ").trans (by decide +kernel)
  · exact (hown "de-at").trans (by decide +kernel)
  · exact (hown "sv").trans (by decide +kernel)

end LocaleClock.Formatter
