import LocaleClock.Proofs.Program.Running

/-! All or nothing. A run that fails prints nothing, however far it came, and loses nothing: it may
have added to its log file, or made directories for a settings file. A run that succeeds and was not
asked for anything else prints one line, and it too changes no file but its log file. -/

namespace LocaleClock.Program

open CommandLine (Arguments)
open Log (IsOwnFile)

variable {words : List String} {w u v : World} {q : Place}

/-- Holds of the place of the file that a run is told to add log lines to. -/
def IsLogFile (words : List String) (w : World) (q : Place) : Prop :=
  ∃ a s, CommandLine.parse words = .ok a ∧ a.generateConfig = none ∧
    Settings.loadedIn w a.config = .ok s ∧ (s.logging.enabled || a.debug) = true ∧
    IsOwnFile w s.logging q

/-- Holds of a place that a run leaves as it was, or where it adds to its log file. -/
def IsKept (words : List String) (w v : World) (q : Place) : Prop :=
  v.files.find? q = w.files.find? q ∨ (IsLogFile words w q ∧ IsAddedTo w.files v.files q)

/-- Holds of a place where a run that was asked for a settings file has made a directory. -/
def IsNewDirectory (words : List String) (w v : World) (q : Place) : Prop :=
  (∃ a path, CommandLine.parse words = .ok a ∧ a.generateConfig = some path) ∧
    w.files.find? q = none ∧ v.files.find? q = some .directory

theorem HasLogged.isKept {lib : Libraries} {a : Arguments} {s : Settings}
    (h : HasLogged lib w s a u)
    (parsed : CommandLine.parse words = .ok a) (showing : a.generateConfig = none)
    (loaded : Settings.loadedIn w a.config = .ok s) (q : Place) : IsKept words w u q :=
  (h.find?_eq q).imp_right fun ⟨active, own, added⟩ =>
    ⟨⟨a, s, parsed, showing, loaded, active, own⟩, added⟩

/-- A run that fails prints nothing. Every place keeps what was there; only the log file may have
more text at its end, and directories may be new if a settings file was asked for. A run that
succeeds in showing the date prints the text of its formatter, which is the one of the loaded
settings with the options of the command line, on a line of its own, and keeps every place too. -/
theorem runs_are_all_or_nothing (lib : Libraries) (words : List String) (w : World) :
    let r := (runBy lib words : StateM World Nat) w
    (r.1 ≠ 0 → r.2.output = w.output ∧
      ∀ q, IsKept words w r.2 q ∨ IsNewDirectory words w r.2 q) ∧
    ∀ a, CommandLine.parse words = .ok a → a.generateConfig = none → r.1 = 0 →
      ∃ s f, Settings.loadedIn w a.config = .ok s ∧ formatterOf s a = .ok f ∧
        r.2.output = w.output ++
          ((f.currentBy lib.conventions w.timeZone w.time
            (a.locale.getD s.formatting.defaultLocale)).value ++ "\n") ∧
        ∀ q, IsKept words w r.2 q := by
  have hends := run_ends lib words w
  generalize (runBy lib words : StateM World Nat) w = r at hends ⊢
  cases hends with
  | help asked =>
    refine ⟨fun h => absurd rfl h, fun a parsed => ?_⟩
    cases asked.symm.trans parsed
  | version asked =>
    refine ⟨fun h => absurd rfl h, fun a parsed => ?_⟩
    cases asked.symm.trans parsed
  | misused misused =>
    refine ⟨fun _ => ⟨rfl, fun q => .inl (.inl rfl)⟩, fun a parsed => ?_⟩
    cases misused.symm.trans parsed
  | @generating a path _ _ parsed asked generated =>
    refine ⟨fun hcode => ?_, fun a' parsed' showing => ?_⟩
    · cases generated with
      | ok => exact absurd rfl hcode
      | error _ grown =>
        exact ⟨rfl, fun q => (grown q).imp .inl fun h => ⟨⟨a, path, parsed, asked⟩, h⟩⟩
    · cases parsed.symm.trans parsed'
      cases asked.symm.trans showing
  | unloaded => exact ⟨fun _ => ⟨rfl, fun q => .inl (.inl rfl)⟩, fun _ _ _ => nofun⟩
  | unlogged => exact ⟨fun _ => ⟨rfl, fun q => .inl (.inl rfl)⟩, fun _ _ _ => nofun⟩
  | @settled a s u parsed showing loaded logged =>
    have hkept := logged.isKept parsed showing loaded
    cases hformatter : formatterOf s a with
    | error e =>
      have houtcome : outcome lib s a w.timeZone w.time = .error e := by
        rw [outcome, hformatter]
        rfl
      rw [houtcome]
      exact ⟨fun _ => ⟨logged.output_eq, fun q => .inl (hkept q)⟩, fun _ _ _ => nofun⟩
    | ok f =>
      have houtcome : outcome lib s a w.timeZone w.time =
          .ok ((f.currentBy lib.conventions w.timeZone w.time (shownLocale s a)).value ++
            "\n") := by
        rw [outcome, hformatter]
        rfl
      rw [houtcome]
      refine ⟨fun h => absurd rfl h, fun a' parsed' _ _ => ?_⟩
      cases parsed.symm.trans parsed'
      exact ⟨s, f, loaded, hformatter, congrArg (· ++ _) logged.output_eq, hkept⟩

/-- The settings ask for a log file. A format that cannot be used is found only after logging was
set up, so the log file is there although the run fails. -/
theorem runs_are_all_or_nothing_logging :
    let w : World := {
      files := ⟨[(["work"], .directory), (["work", "datestamp.toml"],
        .file "[logging]\nenabled = true\nlevel = \"debug\"\nfile = \"own.log\"\n".toUTF8)]⟩
      current := ["work"], home := "/home", configHome := none
      time := ⟨0, 0, by decide⟩, output := "", errorOutput := "" }
    let failed := (run ["--format", "%Q"] : StateM World Nat) w
    let shown := (run ["--format", "%Y", "de"] : StateM World Nat) w
    failed.1 = 1 ∧ (failed.2.files.find? ["work", "own.log"]).isSome = true ∧
      failed.2.output = "" ∧
      (∀ q, IsKept ["--format", "%Q"] w failed.2 q ∨
        IsNewDirectory ["--format", "%Q"] w failed.2 q) ∧
      shown.1 = 0 ∧ shown.2.output = "1970\n" ∧
      ∀ q, IsKept ["--format", "%Y", "de"] w shown.2 q := by
  intro w failed shown
  have hfailed : failed.1 = 1 := by decide +kernel
  have hlog : (failed.2.files.find? ["work", "own.log"]).isSome = true := by decide +kernel
  have hshown : shown.1 = 0 := by decide +kernel
  have hprinted : shown.2.output = "1970\n" := by decide +kernel
  have hparse : CommandLine.parse ["--format", "%Y", "de"] =
      .ok { Arguments.none with locale := some "de", format := some "%Y" } := by
    decide +kernel
  obtain ⟨hclean, -⟩ := runs_are_all_or_nothing .sample ["--format", "%Q"] w
  obtain ⟨-, hdone⟩ := runs_are_all_or_nothing .sample ["--format", "%Y", "de"] w
  have hnonzero : failed.1 ≠ 0 := by
    rw [hfailed]
    decide
  obtain ⟨houtput, hkept⟩ := hclean hnonzero
  obtain ⟨-, -, -, -, -, hkept'⟩ := hdone _ hparse rfl hshown
  exact ⟨hfailed, hlog, houtput, hkept, hshown, hprinted, hkept'⟩

end LocaleClock.Program
