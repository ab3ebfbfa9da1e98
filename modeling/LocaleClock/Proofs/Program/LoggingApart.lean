import LocaleClock.Proofs.Program.Running
import LocaleClock.Proofs.Settings.Acceptance

/-! Logging and the result are apart. Two runs that differ in the verbose flag and in the settings
on logging, and agree on all else, have the same exit code and the same output, whichever way they
end. Log lines go to error output or to the configured file and nowhere else. Files are files in a
tree: that none of them is a stream of the process is part of the model of a host. -/

namespace LocaleClock

namespace Settings

variable {w : World} {named : Option String} {s : Settings}

theorem validate_of_ofText {path text : String} (h : ofText path text = .ok s) :
    s.validate = .ok () := by
  unfold ofText at h
  split at h
  · cases h
  · split at h
    case h_1 accepted =>
      cases h
      exact accepted
    case h_2 => cases h

theorem validate_of_loadedIn (h : loadedIn w named = .ok s) : s.validate = .ok () := by
  by_cases hsource : ∃ path, (Answering.answers w).IsSource named path
  · obtain ⟨path, hsource⟩ := hsource
    rw [loadedIn_of_isSource hsource] at h
    split at h
    · exact validate_of_ofText h
    · cases h
  · rw [loadedIn_of_not_isSource (not_exists.1 hsource)] at h
    cases h
    exact validate_standard

end Settings

namespace Log

theorem exists_canInstall {w : World} {s : Settings} {verbose : Bool}
    (accepted : s.validate = .ok ()) (active : (s.logging.enabled || verbose) = true)
    (opens : ∀ path, s.logging.file = some path →
      ∃ opened, w.files.openFile w.current path = .ok opened) :
    ∃ l, CanInstall w s.logging verbose l := by
  obtain ⟨-, -, -, -, t, ht⟩ := Settings.validate_eq_ok_iff.1 accepted
  have hthreshold : ∃ threshold, if verbose then threshold = .upTo .debug
      else Threshold.parse? s.logging.level = some threshold := by
    cases verbose with
    | true => exact ⟨_, rfl⟩
    | false => exact ⟨t, Threshold.parse?_of_ofName? ht⟩
  obtain ⟨threshold, hthreshold⟩ := hthreshold
  exact ⟨⟨threshold, _⟩, active, hthreshold, rfl, opens⟩

end Log

namespace Program

open CommandLine (Arguments)

variable {lib : Libraries} {w v : World} {words words' : List String} {a a' : Arguments}
  {s s' : Settings}

/-- Holds of the settings that a run loads, when their log file can be opened if it is to be. -/
structure Loads (w : World) (a : Arguments) (s : Settings) : Prop where
  loaded : Settings.loadedIn w a.config = .ok s
  opens : (s.logging.enabled || a.debug) = true → ∀ path, s.logging.file = some path →
    ∃ opened, w.files.openFile w.current path = .ok opened

/-- Such a run sets up its logging and comes to its outcome. -/
theorem Loads.run_eq (lib : Libraries) (h : Loads w a s) (parsed : CommandLine.parse words = .ok a)
    (showing : a.generateConfig = none) :
    ∃ u, HasLogged lib w s a u ∧
      (runBy lib words : StateM World Nat) w =
        conclude lib (settle (outcome lib s a w.timeZone w.time) u) := by
  rw [run_of_loadedIn parsed showing h.loaded]
  obtain ⟨hactive, hnone, -⟩ | ⟨u, hlogged, hrun⟩ := showWith_cases s a w
  · have accepted := Settings.validate_of_loadedIn h.loaded
    obtain ⟨l, hl⟩ := Log.exists_canInstall accepted hactive (h.opens hactive)
    exact absurd hl (hnone l)
  · exact ⟨u, hlogged, by rw [hrun]⟩

/-- Neither the settings on logging nor the verbose flag has a part in the outcome. -/
theorem outcome_congr (hsettings : { s' with logging := s.logging } = s)
    (harguments : { a' with debug := a.debug } = a) (zone : TimeZone) (t : Instant) :
    outcome lib s a zone t = outcome lib s' a' zone t := by
  rw [← hsettings, ← harguments]
  rfl

theorem conclude_settle (result : Except Failure String) {u u' : World}
    (h : u.output = u'.output) :
    (conclude lib (settle result u)).1 = (conclude lib (settle result u')).1 ∧
      (conclude lib (settle result u)).2.output = (conclude lib (settle result u')).2.output := by
  cases result with
  | error e => exact ⟨rfl, h⟩
  | ok text => exact ⟨rfl, congrArg (· ++ text) h⟩

theorem conclude_of_sameButTexts (lib : Libraries) (result : Except Failure Unit) {u u' : World}
    (h : World.SameButTexts u u') :
    (conclude lib (result, u)).1 = (conclude lib (result, u')).1 ∧
      World.SameButTexts (conclude lib (result, u)).2 (conclude lib (result, u')).2 := by
  obtain ⟨files, rfl, halike⟩ := h
  cases result with
  | error e => exact ⟨rfl, files, rfl, halike⟩
  | ok => exact ⟨rfl, files, rfl, halike⟩

/-- Two runs on hosts that differ in nothing but what files hold, with arguments that are equal up
to the verbose flag and, where settings are loaded, with settings that are equal up to logging, have
the same exit code and the same output. When a settings file was asked for, the flag leaves no trace
at all; otherwise both come to one outcome after their own log lines, which are where each was told
to write them. -/
theorem logging_never_changes_the_result (lib : Libraries) (alike : World.SameButTexts w v)
    (parsed : CommandLine.parse words = .ok a) (parsed' : CommandLine.parse words' = .ok a')
    (harguments : { a' with debug := a.debug } = a)
    (hloads : a.generateConfig = none →
      ∃ s s', Loads w a s ∧ Loads v a' s' ∧ { s' with logging := s.logging } = s) :
    let r := (runBy lib words : StateM World Nat) w
    let r' := (runBy lib words' : StateM World Nat) v
    r.1 = r'.1 ∧ r.2.output = r'.2.output ∧
      (∀ path, a.generateConfig = some path → World.SameButTexts r.2 r'.2) ∧
      (a.generateConfig = none → ∃ s s' result u u',
        Settings.loadedIn w a.config = .ok s ∧ Settings.loadedIn v a'.config = .ok s' ∧
        HasLogged lib w s a u ∧ HasLogged lib v s' a' u' ∧
        r = conclude lib (settle result u) ∧ r' = conclude lib (settle result u')) := by
  intro r r'
  have hasked : a'.generateConfig = a.generateConfig := by rw [← harguments]
  cases hshowing : a.generateConfig with
  | some path =>
    have hr : r = _ := run_of_generateConfig parsed hshowing w
    have hr' : r' = _ := run_of_generateConfig parsed' (hasked.trans hshowing) v
    obtain ⟨hanswer, hafter⟩ := Settings.respects_generate path w v alike
    dsimp only at hr hr'
    rw [← hanswer] at hr'
    obtain ⟨hcode, hends⟩ := conclude_of_sameButTexts lib _ hafter
    rw [← hr, ← hr'] at hcode hends
    have houtput : r.2.output = r'.2.output := by
      obtain ⟨files, hfiles, -⟩ := hends
      rw [hfiles]
    exact ⟨hcode, houtput, fun _ _ => hends, nofun⟩
  | none =>
    obtain ⟨s, s', hs, hs', hsettings⟩ := hloads hshowing
    obtain ⟨u, hlogged, hr⟩ := hs.run_eq lib parsed hshowing
    obtain ⟨u', hlogged', hr'⟩ := hs'.run_eq lib parsed' (hasked.trans hshowing)
    obtain ⟨files, rfl, -⟩ := alike
    rw [← outcome_congr hsettings harguments] at hr'
    have houtput : u.output = u'.output := hlogged.output_eq.trans hlogged'.output_eq.symm
    obtain ⟨hcode, hprinted⟩ := conclude_settle (outcome lib s a w.timeZone w.time) houtput
    refine ⟨?_, ?_, nofun, fun _ =>
      ⟨s, s', _, u, u', hs.loaded, hs'.loaded, hlogged, hlogged', hr, hr'⟩⟩
    · exact (congrArg Prod.fst hr).trans (hcode.trans (congrArg Prod.fst hr').symm)
    · exact (congrArg (·.2.output) hr).trans (hprinted.trans (congrArg (·.2.output) hr').symm)

/-- The settings of one run ask for a log file, the other run is verbose with settings that ask for
nothing. -/
theorem logging_never_changes_the_result_verbose :
    let host (text : String) : World := {
      files := ⟨[(["work"], .directory), (["work", "datestamp.toml"], .file text.toUTF8)]⟩
      current := ["work"], home := "/home", configHome := none
      time := ⟨0, 0, by decide⟩, output := "", errorOutput := "" }
    let w := host "[logging]\nenabled = true\nlevel = \"debug\"\nfile = \"own.log\"\n"
    let v := host ""
    let r := (run ["--format", "%Y", "tlh"] : StateM World Nat) w
    let r' := (run ["-d", "--format", "%Y", "tlh"] : StateM World Nat) v
    (r.2.files.find? ["work", "own.log"]).isSome = true ∧ r.2.errorOutput = "" ∧
      (r'.2.files.find? ["work", "own.log"]).isSome = false ∧ r'.2.errorOutput ≠ "" ∧
      r.1 = r'.1 ∧ r.2.output = r'.2.output := by
  intro host w v r r'
  have halike : World.SameButTexts w v := by
    refine ⟨v.files, rfl, fun q => ?_⟩
    unfold FileTree.find?
    split
    · rfl
    · simp only [w, v, host, List.lookup_cons]
      split
      · rfl
      · split <;> rfl
  have hparse : CommandLine.parse ["--format", "%Y", "tlh"] =
      .ok { Arguments.none with locale := some "tlh", format := some "%Y" } := by
    decide +kernel
  have hparse' : CommandLine.parse ["-d", "--format", "%Y", "tlh"] =
      .ok { Arguments.none with locale := some "tlh", format := some "%Y", debug := true } := by
    decide +kernel
  have hloaded : Settings.loadedIn w none =
      .ok { Settings.standard with logging := ⟨true, "debug", some "own.log"⟩ } := by
    decide +kernel
  have hloaded' : Settings.loadedIn v none = .ok Settings.standard := by decide +kernel
  have hopens : w.files.openFile w.current "own.log" = .ok (["work", "own.log"], none) := by rfl
  obtain ⟨hcode, hprinted, -⟩ := logging_never_changes_the_result .sample halike hparse hparse' rfl
    fun _ => ⟨_, _, ⟨hloaded, fun _ path hpath => by cases hpath; exact ⟨_, hopens⟩⟩,
      ⟨hloaded', fun _ _ => nofun⟩, rfl⟩
  exact ⟨by decide +kernel, by decide +kernel, by decide +kernel, by decide +kernel, hcode,
    hprinted⟩

end Program

end LocaleClock
