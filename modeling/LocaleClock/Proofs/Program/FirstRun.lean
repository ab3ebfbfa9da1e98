import LocaleClock.Proofs.Program.LoggingApart

/-! The first run with a settings file that was made for a start. The file is read as the standard
settings, which are those of a run without any file, so nothing that a run gives changes when the
file is made where it is looked for. The directories for the user's file must not come to stand in
the place of the file in the current directory, where one would be taken for a file. -/

namespace LocaleClock

theorem Log.Delivered.errorOutput_eq {w v : World} {made : Place → Prop} {text : String}
    (h : Delivered w made text .errorOutput v) : v.errorOutput = w.errorOutput ++ text := by
  cases h
  rfl

namespace Program

open CommandLine (Arguments)
open Settings (CanGenerate generatedText loadFrom localPath standard targetIn userPath)

variable {lib : Libraries} {w v u u' : World} {words : List String} {a : Arguments} {s : Settings}

/-- Log lines that go to error output depend on nothing but the settings, the options and the time
with its zone. -/
theorem HasLogged.errorOutput_congr (htime : w.time = v.time) (hzone : w.timeZone = v.timeZone)
    (herror : w.errorOutput = v.errorOutput) (hfile : s.logging.file = none)
    (h : HasLogged lib w s a u) (h' : HasLogged lib v s a u') :
    u.errorOutput = u'.errorOutput := by
  cases h with
  | nothing inactive =>
    cases h' with
    | nothing => exact herror
    | lines installed => cases inactive.symm.trans installed.active
  | @lines l _ installed delivered =>
    cases h' with
    | nothing inactive => cases inactive.symm.trans installed.active
    | lines installed' delivered' =>
      cases installed'.unique installed
      have hdestination := installed.destination
      rw [hfile] at hdestination
      rw [hdestination] at delivered delivered'
      rw [delivered.errorOutput_eq, delivered'.errorOutput_eq, herror, htime, hzone]

theorem conclude_settle_errorOutput (result : Except Failure String)
    (h : u.errorOutput = u'.errorOutput) :
    (conclude lib (settle result u)).2.errorOutput =
      (conclude lib (settle result u')).2.errorOutput := by
  cases result with
  | error e => exact congrArg (· ++ _) h
  | ok text => exact h

/-- Runs without options for files give the same on hosts with the same time and the same streams
when the settings that are found there are the standard ones. -/
theorem run_congr_of_standard (htime : w.time = v.time) (hzone : w.timeZone = v.timeZone)
    (houtput : w.output = v.output)
    (herror : w.errorOutput = v.errorOutput)
    (hw : Settings.loadedIn w none = .ok standard) (hv : Settings.loadedIn v none = .ok standard)
    (plain : ∀ a, CommandLine.parse words = .ok a → a.config = none ∧ a.generateConfig = none) :
    let r := (runBy lib words : StateM World Nat) w
    let r' := (runBy lib words : StateM World Nat) v
    r.1 = r'.1 ∧ r.2.output = r'.2.output ∧ r.2.errorOutput = r'.2.errorOutput := by
  intro r r'
  cases hparse : CommandLine.parse words with
  | error stop =>
    unfold r r' runBy
    rw [hparse]
    cases stop with
    | help => exact ⟨rfl, congrArg (· ++ _) houtput, herror⟩
    | version => exact ⟨rfl, congrArg (· ++ _) houtput, herror⟩
    | usage e => exact ⟨rfl, houtput, congrArg (· ++ _) herror⟩
  | ok a =>
    obtain ⟨hconfig, hshowing⟩ := plain a hparse
    have hw : Loads w a standard := ⟨by rw [hconfig, hw], fun _ _ => nofun⟩
    have hv : Loads v a standard := ⟨by rw [hconfig, hv], fun _ _ => nofun⟩
    obtain ⟨u, hlogged, hr⟩ := hw.run_eq lib hparse hshowing
    obtain ⟨u', hlogged', hr'⟩ := hv.run_eq lib hparse hshowing
    rw [← htime, ← hzone] at hr'
    have hprinted : u.output = u'.output := by
      rw [hlogged.output_eq, hlogged'.output_eq, houtput]
    have hreported : u.errorOutput = u'.errorOutput :=
      hlogged.errorOutput_congr htime hzone herror rfl hlogged'
    unfold r r'
    rw [hr, hr']
    obtain ⟨hcode, hafter⟩ := conclude_settle (outcome lib standard a w.timeZone w.time) hprinted
    exact ⟨hcode, hafter, conclude_settle_errorOutput _ hreported⟩

theorem loadedIn_none_of_missing (notHere : w.files.pathExists w.current localPath = false)
    (notThere : w.files.pathExists w.current (userPath w.home w.configHome) = false) :
    Settings.loadedIn w none = .ok standard := by
  refine Settings.loadedIn_of_not_isSource fun path hsource => ?_
  cases hsource with
  | inCurrent here => exact Bool.false_ne_true (notHere.symm.trans here)
  | ofUser _ there => exact Bool.false_ne_true (notThere.symm.trans there)

/-- A generated file at the first place where there is something counts, and gives the standard
settings. -/
theorem loadedIn_none_of_generated {looked : String} {q : Place} {t : Instant} {o : Offset}
    (first : looked = localPath ∨ (looked = userPath w.home w.configHome ∧
      w.files.pathExists w.current localPath = false))
    (hlocate : w.files.locate w.current looked = .ok q)
    (hfile : w.files.find? q = some (.file (generatedText (.of t o)).toUTF8)) :
    Settings.loadedIn w none = .ok standard := by
  have there : w.files.pathExists w.current looked = true := by
    rw [FileTree.pathExists_eq hlocate, hfile]
    rfl
  have hsource : (Answering.answers w).IsSource none looked := by
    obtain rfl | ⟨rfl, notHere⟩ := first
    · exact .inCurrent there
    · exact .ofUser notHere there
  have hload : Settings.loadedIn w none = _ := congrArg Prod.fst
    ((Settings.load_of_isSource hsource).trans (Settings.loadFrom_of_find? hlocate hfile))
  rw [hload, Settings.ofText_generatedText]

/-- At any time and for any path that a file can be made at, it is made, and loading it gives the
standard settings. If it is where a file is looked for and there was none before at either place,
then every command line without an option for files gives the same before and after: the same exit
code, output and error output. The file in the user's directory is not looked for when there is
something in the place of the one in the current directory. -/
theorem generated_file_is_neutral (lib : Libraries) (w : World) (path : String)
    (writable : CanGenerate w (targetIn w path)) :
    ∃ v, (Settings.generate path : StateM World _) w = (.ok (), v) ∧
      (∃ p, v.files.locate w.current (targetIn w path) = .ok p ∧
        v.files.find? p = some (.file (generatedText w.localTime).toUTF8)) ∧
      (loadFrom (targetIn w path) : StateM World _) v = (.ok standard, v) ∧
      ∀ looked, looked = localPath ∨ (looked = userPath w.home w.configHome ∧
          v.files.pathExists w.current localPath = false) →
        v.files.locate w.current looked = v.files.locate w.current (targetIn w path) →
        w.files.pathExists w.current localPath = false →
        w.files.pathExists w.current (userPath w.home w.configHome) = false →
        ∀ words : List String,
          (∀ a, CommandLine.parse words = .ok a → a.config = none ∧ a.generateConfig = none) →
          ∀ t : Instant,
            let before := (runBy lib words : StateM World Nat) { w with time := t }
            let after := (runBy lib words : StateM World Nat) { w with files := v.files, time := t }
            before.1 = after.1 ∧ before.2.output = after.2.output ∧
              before.2.errorOutput = after.2.errorOutput := by
  have hgenerated := Settings.hasGenerated path w
  cases hrun : (Settings.generate path : StateM World _) w with
  | mk r v =>
    rw [hrun] at hgenerated
    dsimp only at hgenerated
    cases hgenerated with
    | error cannot => exact absurd writable cannot
    | @ok files p content can grown opened =>
      obtain ⟨q, hlocate, hfile⟩ := (Settings.HasGenerated.ok can grown opened).find?_target
      have hloadFrom := Settings.loadFrom_of_find? hlocate hfile
      rw [World.localTime, Settings.ofText_generatedText] at hloadFrom
      refine ⟨_, rfl, ⟨q, hlocate, hfile⟩, hloadFrom, ?_⟩
      intro looked hlooked hsame notHere notThere words plain t
      -- Before, no file counts; after, the new one does. Both runs have the standard settings.
      have hbefore : Settings.loadedIn { w with time := t } none = .ok standard :=
        loadedIn_none_of_missing notHere notThere
      have hafter : Settings.loadedIn
          { w with
            files := files.put p (.file (generatedText w.localTime).toUTF8)
            time := t } none = .ok standard :=
        loadedIn_none_of_generated hlooked (hsame.trans hlocate) hfile
      exact run_congr_of_standard rfl rfl rfl rfl hbefore hafter plain

/-- The default place, with the verbose flag at a later time: the directories around it are made. -/
theorem generated_file_is_neutral_home :
    let w : World := {
      files := ⟨[(["work"], .directory), (["home"], .directory)]⟩
      current := ["work"], home := "/home", configHome := none
      time := ⟨1705314600, 0, by decide⟩, output := "", errorOutput := "" }
    let later : Instant := ⟨1705401000, 0, by decide⟩
    CanGenerate w (targetIn w "") ∧
      ∃ v, (Settings.generate "" : StateM World _) w = (.ok (), v) ∧
        (loadFrom "/home/.config/datestamp/config.toml" : StateM World _) v = (.ok standard, v) ∧
        let before := (runBy .sample ["-d", "de"] : StateM World Nat) { w with time := later }
        let after := (runBy .sample ["-d", "de"] : StateM World Nat)
          { w with files := v.files, time := later }
        before.1 = after.1 ∧ before.2.output = after.2.output ∧
          before.2.errorOutput = after.2.errorOutput := by
  intro w later
  have hcan : CanGenerate w (targetIn w "") := Settings.canGenerate_iff.2 (by decide +kernel)
  have htarget : targetIn w "" = "/home/.config/datestamp/config.toml" := by decide +kernel
  have hplain : ∀ a, CommandLine.parse ["-d", "de"] = .ok a →
      a.config = none ∧ a.generateConfig = none := by
    intro a ha
    have hparse : CommandLine.parse ["-d", "de"] =
        .ok { CommandLine.Arguments.none with locale := some "de", debug := true } := by
      decide +kernel
    cases hparse.symm.trans ha
    exact ⟨rfl, rfl⟩
  obtain ⟨v, hrun, -, hload, hneutral⟩ := generated_file_is_neutral .sample w "" hcan
  have hfree : v.files.pathExists w.current localPath = false := by
    have hv : v = ((Settings.generate "" : StateM World _) w).2 := by rw [hrun]
    rw [hv]
    decide +kernel
  rw [htarget] at hload
  have hruns := hneutral (userPath w.home w.configHome) (.inr ⟨rfl, hfree⟩) rfl (by decide +kernel)
    (by decide +kernel) ["-d", "de"] hplain later
  exact ⟨hcan, v, hrun, hload, hruns⟩

/-- When the user's directory for settings is inside the place of the file in the current
directory, making the file makes a directory there. Before, there was no file and the run succeeded;
after, that directory is taken for the settings file, and the run fails. -/
theorem generated_file_is_neutral_inside :
    let w : World := {
      files := ⟨[(["work"], .directory)]⟩
      current := ["work"], home := "/home", configHome := some "/work/datestamp.toml"
      time := ⟨0, 0, by decide⟩, output := "", errorOutput := "" }
    let made := (Settings.generate "" : StateM World _) w
    let user := userPath w.home w.configHome
    w.files.pathExists w.current localPath = false ∧ w.files.pathExists w.current user = false ∧
      made.1 = .ok () ∧ made.2.files.pathExists w.current user = true ∧
      ((run ["--format", "x"] : StateM World Nat) w).1 = 0 ∧
      ((run ["--format", "x"] : StateM World Nat) { w with files := made.2.files }).1 = 1 := by
  decide +kernel

end Program

end LocaleClock
