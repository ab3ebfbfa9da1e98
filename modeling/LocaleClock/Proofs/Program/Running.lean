import LocaleClock.Proofs.Log.LifeCycle
import LocaleClock.Proofs.Program.Printing
import LocaleClock.Proofs.Settings.Generating

/-! The ways in which a run can end. A run with loaded settings has two parts. What it comes to, the
printed text or a failure, follows from the settings, the options and the time with its zone, and
logging has no part in it. What it logs leaves the host as it was but for lines where log lines go.
The libraries of the program are arbitrary. -/

namespace LocaleClock

namespace Log

variable {w v : World} {made : Place → Prop} {text : String} {l : Logger}

theorem CanInstall.file_eq {s : Settings.Logging} {verbose : Bool} {path : String}
    (h : CanInstall w s verbose l) (hpath : l.destination = .file path) : s.file = some path := by
  have hdestination := hpath.symm.trans h.destination
  split at hdestination
  case h_1 => cases hdestination
  case h_2 file hfile =>
    cases hdestination
    exact hfile

theorem Delivered.output_eq {d : Destination} (h : Delivered w made text d v) :
    v.output = w.output := by
  cases h <;> rfl

theorem Delivered.logAll (h : Delivered w made text l.destination v) (records : List Record) :
    Delivered w made (text ++ l.lines w.timeZone (records.map (v.time, ·))) l.destination
      ((Log.logAll (some l) records : StateM World Unit) v).2 := by
  induction records generalizing v text with
  | nil =>
    have hnothing : text ++ l.lines w.timeZone [] = text := String.append_empty
    rw [List.map_nil, hnothing]
    exact h
  | cons r records ih =>
    have hrest := ih (h.log r)
    rw [(World.OnlyLogs.log (some l) r).time_eq, String.append_assoc, ← Logger.lines_append] at hrest
    exact hrest

end Log

namespace Program

open CommandLine (Arguments)
open Log (Logger CanInstall Delivered IsOwnFile)

variable {lib : Libraries} {w v u : World} {words : List String} {a : Arguments} {s : Settings}

/-! ### What a run comes to -/

/-- The locale that the date is shown for. -/
def shownLocale (s : Settings) (a : Arguments) : String :=
  a.locale.getD s.formatting.defaultLocale

/-- What a run comes to with these settings: the text that it prints, or why it fails. -/
def outcome (lib : Libraries) (s : Settings) (a : Arguments) (zone : TimeZone) (t : Instant) :
    Except Failure String :=
  (formatterOf s a).map fun f =>
    (f.currentBy lib.conventions zone t (shownLocale s a)).value ++ "\n"

/-- What is recorded on the way, once there is a logger. -/
def recordsOf (lib : Libraries) (s : Settings) (a : Arguments) (zone : TimeZone) (t : Instant) :
    List Log.Record :=
  match formatterOf s a with
  | .error _ => []
  | .ok f =>
    startRecord (shownLocale s a) f ::
      (f.currentBy lib.conventions zone t (shownLocale s a)).records

/-- Prints what a run comes to, if it is a text. -/
def settle : Except Failure String → World → Except Failure Unit × World
  | .ok text, u => (.ok (), { u with output := u.output ++ text })
  | .error e, u => (.error e, u)

/-- The exit code of a run, with the report of a failure. -/
def conclude (lib : Libraries) : Except Failure Unit × World → Nat × World
  | (.ok (), u) => (0, u)
  | (.error e, u) => (1, { u with errorOutput := u.errorOutput ++ (e.report lib).text })

/-! ### What it logs -/

/-- What the log lines of a run make of a host: nothing when no logging is asked for, else they are
added where the settings say, and all the rest stays. -/
inductive HasLogged (lib : Libraries) (w : World) (s : Settings) (a : Arguments) : World → Prop
  | nothing (inactive : (s.logging.enabled || a.debug) = false) : HasLogged lib w s a w
  | lines {l : Logger} {u : World} (installed : CanInstall w s.logging a.debug l)
      (delivered : Delivered w (fun _ => False)
        (l.lines w.timeZone
          ((Log.setupRecord l.threshold :: recordsOf lib s a w.timeZone w.time).map (w.time, ·)))
        l.destination u) (time : u.time = w.time) : HasLogged lib w s a u

theorem HasLogged.output_eq (h : HasLogged lib w s a u) : u.output = w.output := by
  cases h with
  | nothing => rfl
  | lines _ delivered => exact delivered.output_eq

/-- Holds of a place where a file has more text at its end than before; it may be new. -/
def IsAddedTo (before after : FileTree) (q : Place) : Prop :=
  ∃ (content : Option ByteArray) (text : String), before.find? q = content.map .file ∧
    after.find? q = some (.file (content.getD .empty ++ text.toUTF8))

/-- No place changes but that of the log file. -/
theorem HasLogged.find?_eq (h : HasLogged lib w s a u) (q : Place) :
    u.files.find? q = w.files.find? q ∨
      ((s.logging.enabled || a.debug) = true ∧ IsOwnFile w s.logging q ∧
        IsAddedTo w.files u.files q) := by
  have hsame {t : FileTree} (hq : t.StaysAt w.files (fun _ => False) q) :
      t.find? q = w.files.find? q := hq.resolve_right fun hmade => hmade.1
  cases h with
  | nothing => exact .inl rfl
  | @lines l _ installed delivered =>
    generalize hd : l.destination = d at delivered
    cases delivered with
    | errorOutput stays => exact .inl (hsame (stays q))
    | @file path place content _ _ opened holds stays =>
      by_cases hq : q = place
      · subst hq
        obtain ⟨hplace, hfind⟩ := FileTree.openFile_eq_ok_iff.1 opened
        have hown : IsOwnFile w s.logging q := ⟨path, installed.file_eq hd, hplace⟩
        exact .inr ⟨installed.active, hown, content, _, hfind, holds⟩
      · exact .inl (hsame (stays q hq))

/-! ### Showing -/

/-- What is left of a run when logging has been set up. -/
def showOutcome (lib : Libraries) (logger : Option Logger) (s : Settings) (a : Arguments) :
    StateM World (Except Failure Unit) :=
  match formatterOf s a with
  | .error e => return .error e
  | .ok f => do
    showDate lib logger f (shownLocale s a)
    return .ok ()

theorem showOutcome_run (logger : Option Logger) (s : Settings) (a : Arguments) (w : World) :
    showOutcome lib logger s a w = settle (outcome lib s a w.timeZone w.time)
      ((Log.logAll logger (recordsOf lib s a w.timeZone w.time) : StateM World Unit) w).2 := by
  unfold showOutcome outcome recordsOf
  cases formatterOf s a with
  | error e => rfl
  | ok f =>
    dsimp only
    rw [World.bind_run, showDate_run]
    rfl

theorem showWith_run (s : Settings) (a : Arguments) (w : World) :
    (showWith lib s a : StateM World (Except Failure Unit)) w =
      match (Log.setUp none s.logging a.debug : StateM World _) w with
      | (.error e, v) => (.error (.logging e), v)
      | (.ok logger, v) => showOutcome lib logger s a v := by
  rw [showWith, World.bind_run]
  generalize (Log.setUp none s.logging a.debug : StateM World _) w = r
  obtain ⟨_ | logger, v⟩ := r
  · rfl
  · rfl

theorem logAll_none (records : List Log.Record) (w : World) :
    ((Log.logAll none records : StateM World Unit) w).2 = w := by
  induction records with
  | nil => rfl
  | cons r records ih => exact ih

/-- A run with loaded settings ends where logging cannot be set up, or else comes to its outcome. -/
theorem showWith_cases (s : Settings) (a : Arguments) (w : World) :
    ((s.logging.enabled || a.debug) = true ∧ (∀ l, ¬ CanInstall w s.logging a.debug l) ∧
      ∃ e, (showWith lib s a : StateM World (Except Failure Unit)) w = (.error (.logging e), w)) ∨
    ∃ u, HasLogged lib w s a u ∧
      (showWith lib s a : StateM World (Except Failure Unit)) w =
        settle (outcome lib s a w.timeZone w.time) u := by
  rw [showWith_run]
  obtain ⟨hinactive, hsetup⟩ | ⟨hactive, hnone, e, hsetup⟩ |
      ⟨l, files, hinstall, hopened, hsetup⟩ := Log.setUp_cases none s.logging a.debug w
  · rw [hsetup]
    dsimp only
    rw [showOutcome_run, logAll_none]
    exact .inr ⟨w, .nothing hinactive, rfl⟩
  · rw [hsetup]
    exact .inl ⟨hactive, hnone, e, rfl⟩
  · -- The first record is logged during the set-up, the others later: they are one run of lines.
    let opened : World := { w with files }
    let first := ((Log.log (some l) (Log.setupRecord l.threshold) : StateM World Unit) opened).2
    have hstart : Delivered w (fun _ => False) "" l.destination opened :=
      Log.delivered_of_openedDestination hopened _
    have hlines := hstart.logAll
      (Log.setupRecord l.threshold :: recordsOf lib s a w.timeZone w.time)
    have hfirst := World.OnlyLogs.log (some l) (Log.setupRecord l.threshold)
    have htime : first.time = w.time := hfirst.time_eq opened
    have hzone : first.timeZone = w.timeZone := hfirst.timeZone_eq opened
    have hend := (World.OnlyLogs.logAll (some l)
      (Log.setupRecord l.threshold :: recordsOf lib s a w.timeZone w.time)).time_eq opened
    rw [String.empty_append] at hlines
    refine .inr ⟨_, .lines hinstall hlines hend, ?_⟩
    rw [hsetup]
    change showOutcome lib (some l) s a first = _
    rw [showOutcome_run, htime, hzone]
    rfl

/-! ### Running -/

/-- The ways in which a run can end, each with its exit code and what it leaves of the host. -/
inductive Ends (lib : Libraries) (words : List String) (w : World) : Nat × World → Prop
  | help (asked : CommandLine.parse words = .error .help) :
      Ends lib words w (0, { w with output := w.output ++ CommandLine.helpText })
  | version (asked : CommandLine.parse words = .error .version) :
      Ends lib words w (0, { w with output := w.output ++ CommandLine.versionText })
  | misused {e : CommandLine.UsageError} (misused : CommandLine.parse words = .error (.usage e)) :
      Ends lib words w (2, { w with errorOutput := w.errorOutput ++ lib.usageText words e })
  | generating {a : Arguments} {path : String} {r : Except Settings.GenerateError Unit} {v : World}
      (parsed : CommandLine.parse words = .ok a) (asked : a.generateConfig = some path)
      (generated : Settings.HasGenerated w (Settings.targetIn w path) r v) :
      Ends lib words w (conclude lib (failing .generating r, v))
  | unloaded {a : Arguments} {e : Settings.LoadError} (parsed : CommandLine.parse words = .ok a)
      (showing : a.generateConfig = none) (failed : Settings.loadedIn w a.config = .error e) :
      Ends lib words w (conclude lib (.error (.loading e), w))
  | unlogged {a : Arguments} {s : Settings} {e : Log.SetupError}
      (parsed : CommandLine.parse words = .ok a) (showing : a.generateConfig = none)
      (loaded : Settings.loadedIn w a.config = .ok s)
      (active : (s.logging.enabled || a.debug) = true)
      (failed : ∀ l, ¬ CanInstall w s.logging a.debug l) :
      Ends lib words w (conclude lib (.error (.logging e), w))
  | settled {a : Arguments} {s : Settings} {u : World} (parsed : CommandLine.parse words = .ok a)
      (showing : a.generateConfig = none) (loaded : Settings.loadedIn w a.config = .ok s)
      (logged : HasLogged lib w s a u) :
      Ends lib words w (conclude lib (settle (outcome lib s a w.timeZone w.time) u))

theorem run_of_parse (h : CommandLine.parse words = .ok a) (w : World) :
    (runBy lib words : StateM World Nat) w =
      conclude lib ((perform lib a : StateM World (Except Failure Unit)) w) := by
  unfold runBy
  rw [h]
  dsimp only
  rw [World.bind_run]
  generalize (perform lib a : StateM World (Except Failure Unit)) w = r
  obtain ⟨_ | _, v⟩ := r
  · rfl
  · rfl

theorem run_of_generateConfig {path : String} (h : CommandLine.parse words = .ok a)
    (hasked : a.generateConfig = some path) (w : World) :
    (runBy lib words : StateM World Nat) w =
      let r := (Settings.generate path : StateM World (Except Settings.GenerateError Unit)) w
      conclude lib (failing .generating r.1, r.2) := by
  rw [run_of_parse h, perform, hasked]
  rfl

theorem run_of_loadedIn (h : CommandLine.parse words = .ok a) (hshowing : a.generateConfig = none)
    (hloaded : Settings.loadedIn w a.config = .ok s) :
    (runBy lib words : StateM World Nat) w =
      conclude lib ((showWith lib s a : StateM World (Except Failure Unit)) w) := by
  rw [run_of_parse h, perform_run lib hshowing, hloaded]

theorem run_ends (lib : Libraries) (words : List String) (w : World) :
    Ends lib words w ((runBy lib words : StateM World Nat) w) := by
  cases hparse : CommandLine.parse words with
  | error stop =>
    cases stop with
    | help =>
      rw [runBy, hparse]
      exact .help hparse
    | version =>
      rw [runBy, hparse]
      exact .version hparse
    | usage e =>
      rw [runBy, hparse]
      exact .misused hparse
  | ok a =>
    cases hasked : a.generateConfig with
    | some path =>
      rw [run_of_generateConfig hparse hasked]
      exact .generating hparse hasked (Settings.hasGenerated path w)
    | none =>
      cases hloaded : Settings.loadedIn w a.config with
      | error e =>
        rw [run_of_parse hparse, perform_run lib hasked, hloaded]
        exact .unloaded hparse hasked hloaded
      | ok s =>
        rw [run_of_loadedIn hparse hasked hloaded]
        obtain ⟨hactive, hnone, e, hrun⟩ | ⟨u, hlogged, hrun⟩ := showWith_cases s a w
        · rw [hrun]
          exact .unlogged hparse hasked hloaded hactive hnone
        · rw [hrun]
          exact .settled hparse hasked hloaded hlogged

end Program

end LocaleClock
