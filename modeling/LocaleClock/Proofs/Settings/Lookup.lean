import LocaleClock.Host.World
import LocaleClock.Program

/-! Where settings come from. At most one file counts: the one that is named, else the one in the
current directory if there is one, else the one in the user's directory. What is at the other places
has no influence, and when the file that counts cannot be used, that is the outcome. All that is
assumed about a host is that asking it changes nothing; a file that is there may be unreadable for
any reason. -/

namespace LocaleClock

/-- The answers of a host to the questions that settings depend on. -/
structure Surroundings where
  home : String
  configHome : Option String
  pathExists : String → Bool
  readText : String → Except FileError String

/-- A host that has an answer to each of these questions and stays as it is when it is asked. -/
class Answering (σ : Type) [Host (StateM σ)] where
  answers : σ → Surroundings
  home_run (s : σ) : (Host.home : StateM σ String) s = ((answers s).home, s)
  configHome_run (s : σ) :
    (Host.configHome : StateM σ (Option String)) s = ((answers s).configHome, s)
  pathExists_run (s : σ) (path : String) :
    (Host.pathExists path : StateM σ Bool) s = ((answers s).pathExists path, s)
  readText_run (s : σ) (path : String) :
    (Host.readText path : StateM σ (Except FileError String)) s = ((answers s).readText path, s)

instance : Answering World where
  answers w := {
    home := w.home
    configHome := w.configHome
    pathExists := w.files.pathExists w.current
    readText := w.files.readText w.current }
  home_run _ := rfl
  configHome_run _ := rfl
  pathExists_run _ _ := rfl
  readText_run _ _ := rfl

namespace Surroundings

def userPath (x : Surroundings) : String := Settings.userPath x.home x.configHome

inductive IsSource (x : Surroundings) : Option String → String → Prop
  | named (path : String) : IsSource x (some path) path
  | inCurrent (here : x.pathExists Settings.localPath = true) : IsSource x none Settings.localPath
  | ofUser (notHere : x.pathExists Settings.localPath = false)
      (there : x.pathExists x.userPath = true) : IsSource x none x.userPath

/-- No file counts when none is named and none is at either place. -/
theorem of_not_isSource {x : Surroundings} {named : Option String}
    (h : ∀ path, ¬ x.IsSource named path) :
    named = none ∧ x.pathExists Settings.localPath = false ∧ x.pathExists x.userPath = false := by
  cases named with
  | some path => exact absurd (.named path) (h path)
  | none =>
    have notHere : x.pathExists Settings.localPath = false :=
      Bool.eq_false_iff.2 fun here => h _ (.inCurrent here)
    exact ⟨rfl, notHere, Bool.eq_false_iff.2 fun there => h _ (.ofUser notHere there)⟩

end Surroundings

namespace FileTree

variable {t : FileTree} {current p : Place} {path : String}

theorem pathExists_eq (hpath : t.locate current path = .ok p) :
    t.pathExists current path = (t.find? p).isSome := by
  rw [pathExists, hpath]

theorem readText_of_directory (hpath : t.locate current path = .ok p)
    (h : t.find? p = some .directory) : t.readText current path = .error .isDirectory := by
  rw [readText, hpath]
  simp only [bind, Except.bind, h]

theorem readText_of_noText {content : ByteArray} (hpath : t.locate current path = .ok p)
    (h : t.find? p = some (.file content)) (hbytes : String.fromUTF8? content = none) :
    t.readText current path = .error .notText := by
  rw [readText, hpath]
  simp only [bind, Except.bind, h, hbytes]

end FileTree

/-- After a question the program goes on where it was. -/
theorem bind_run_of_asked {σ α β : Type} {x : StateM σ α} {s : σ} {a : α} (h : x s = (a, s))
    (f : α → StateM σ β) : (x >>= f) s = f a s := by
  change f (x s).1 (x s).2 = f a s
  rw [h]

section

open Answering (answers)

variable {σ : Type} [Host (StateM σ)] [Answering σ] {s : σ} {named : Option String}

namespace Settings

/-! ### Loading -/

theorem loadFrom_run (s : σ) (path : String) :
    (loadFrom path : StateM σ (Except LoadError Settings)) s =
      (match (answers s).readText path with
        | .ok text => ofText path text
        | .error e => .error (.unreadable path e), s) := by
  rw [loadFrom, bind_run_of_asked (Answering.readText_run s path)]
  cases (answers s).readText path <;> rfl

theorem currentUserPath_run (s : σ) :
    (currentUserPath : StateM σ String) s = ((answers s).userPath, s) := by
  rw [currentUserPath, bind_run_of_asked (Answering.home_run s),
    bind_run_of_asked (Answering.configHome_run s)]
  rfl

theorem findFile_run (s : σ) :
    (findFile : StateM σ (Option String)) s =
      (if (answers s).pathExists localPath then some localPath
        else if (answers s).pathExists (answers s).userPath then some (answers s).userPath
        else none, s) := by
  rw [findFile, bind_run_of_asked (Answering.pathExists_run s localPath)]
  cases (answers s).pathExists localPath with
  | true => rfl
  | false =>
    change ((do
      let path ← currentUserPath
      if ← Host.pathExists path then return some path
      return none : StateM σ (Option String)) s) = _
    rw [bind_run_of_asked (currentUserPath_run s), bind_run_of_asked (Answering.pathExists_run s _)]
    cases (answers s).pathExists (answers s).userPath <;> rfl

/-- What loading gives in a state of a host. -/
def loadedIn (s : σ) (named : Option String) : Except LoadError Settings :=
  ((load named : StateM σ (Except LoadError Settings)) s).1

theorem load_of_isSource {path : String} (h : (answers s).IsSource named path) :
    (load named : StateM σ (Except LoadError Settings)) s =
      (loadFrom path : StateM σ (Except LoadError Settings)) s := by
  cases h with
  | named => rfl
  | inCurrent here =>
    rw [load, bind_run_of_asked (findFile_run s), here]
    rfl
  | ofUser notHere there =>
    rw [load, bind_run_of_asked (findFile_run s), notHere, there]
    rfl

theorem load_of_not_isSource (h : ∀ path, ¬ (answers s).IsSource named path) :
    (load named : StateM σ (Except LoadError Settings)) s = (.ok standard, s) := by
  obtain ⟨rfl, notHere, notThere⟩ := Surroundings.of_not_isSource h
  rw [load, bind_run_of_asked (findFile_run s), notHere, notThere]
  rfl

theorem load_run (s : σ) (named : Option String) :
    (load named : StateM σ (Except LoadError Settings)) s = (loadedIn s named, s) := by
  unfold loadedIn
  by_cases h : ∃ path, (answers s).IsSource named path
  · obtain ⟨path, h⟩ := h
    rw [load_of_isSource h, loadFrom_run]
  · rw [load_of_not_isSource (not_exists.1 h)]

/-- The file that counts is the only one that is read. -/
theorem loadedIn_of_isSource {path : String} (h : (answers s).IsSource named path) :
    loadedIn s named =
      match (answers s).readText path with
      | .ok text => ofText path text
      | .error e => .error (.unreadable path e) := by
  rw [loadedIn, load_of_isSource h, loadFrom_run]

theorem loadedIn_of_not_isSource (h : ∀ path, ¬ (answers s).IsSource named path) :
    loadedIn s named = .ok standard := by
  rw [loadedIn, load_of_not_isSource h]

end Settings

/-! ### Running -/

namespace Program

open CommandLine (Arguments)

/-- A run that makes no file goes on with what is loaded, or ends with the error. -/
theorem perform_run (lib : Libraries) {a : Arguments} (h : a.generateConfig = none) (s : σ) :
    (perform lib a : StateM σ (Except Failure Unit)) s =
      match Settings.loadedIn s a.config with
      | .error e => (.error (.loading e), s)
      | .ok settings => (showWith lib settings a : StateM σ (Except Failure Unit)) s := by
  simp only [perform, h, bind_run_of_asked (Settings.load_run s a.config)]
  cases Settings.loadedIn s a.config <;> rfl

end Program

end

namespace Settings

open Answering (answers)

/-- In any state of any host, the settings are those of the file that counts. Two states give the
same, settings or error, when the same file counts in both and they agree on what it holds, whatever
else there is; when none counts, the settings are the standard ones. A file that counts and cannot
be read, is not well formed or is not accepted is an error, and in a tree of files a directory and
bytes that are no text cannot be read. A run uses what is loaded, and ends with the error. -/
theorem settings_have_one_source {σ τ : Type} [Host (StateM σ)] [Answering σ] [Host (StateM τ)]
    [Answering τ] (s : σ) (s' : τ) (named : Option String) :
    (∀ path, (answers s).IsSource named path → (answers s').IsSource named path →
      (answers s).readText path = (answers s').readText path →
        loadedIn s named = loadedIn s' named) ∧
      ((∀ path, ¬ (answers s).IsSource named path) → loadedIn s named = .ok standard) ∧
      (∀ path, (answers s).IsSource named path →
        (∀ e, (answers s).readText path = .error e →
          loadedIn s named = .error (.unreadable path e)) ∧
        ∀ text, (answers s).readText path = .ok text →
          (parse? text = none → loadedIn s named = .error (.malformed path text)) ∧
          ∀ settings, parse? text = some settings →
            (∀ fault, settings.validate = .error fault →
              loadedIn s named = .error (.invalid fault)) ∧
            (settings.validate = .ok () → loadedIn s named = .ok settings)) ∧
      (∀ (lib : Program.Libraries) (a : CommandLine.Arguments), a.generateConfig = none →
        a.config = named →
        (Program.perform lib a : StateM σ (Except Program.Failure Unit)) s =
          match loadedIn s named with
          | .error e => (.error (.loading e), s)
          | .ok settings =>
            (Program.showWith lib settings a : StateM σ (Except Program.Failure Unit)) s) ∧
      ∀ (w : World) path p, w.files.locate w.current path = .ok p →
        (w.files.find? p = some .directory →
          (answers w).pathExists path = true ∧ (answers w).readText path = .error .isDirectory) ∧
        ∀ content, w.files.find? p = some (.file content) → String.fromUTF8? content = none →
          (answers w).pathExists path = true ∧ (answers w).readText path = .error .notText := by
  refine ⟨?agree, loadedIn_of_not_isSource, ?broken, ?used, ?tree⟩
  case agree =>
    intro path h h' hread
    rw [loadedIn_of_isSource h, loadedIn_of_isSource h', hread]
  case broken =>
    intro path h
    rw [loadedIn_of_isSource h]
    refine ⟨fun e he => by rw [he], fun text htext => ?_⟩
    rw [htext]
    refine ⟨fun hparse => ?_, fun settings hparse => ⟨fun fault hfault => ?_, fun accepted => ?_⟩⟩
    · simp only [ofText, hparse]
    · simp only [ofText, hparse, hfault]
    · simp only [ofText, hparse, accepted]
  case used =>
    rintro lib a hmakes rfl
    exact Program.perform_run lib hmakes s
  case tree =>
    intro w path p hpath
    have hexists {n : Node} (h : w.files.find? p = some n) :
        (answers w).pathExists path = true :=
      (FileTree.pathExists_eq hpath).trans (by rw [h]; rfl)
    exact ⟨fun h => ⟨hexists h, FileTree.readText_of_directory hpath h⟩,
      fun content h hbytes => ⟨hexists h, FileTree.readText_of_noText hpath h hbytes⟩⟩

/-- A directory in the place of the file in the current directory is an error, whatever the file in
the user's directory holds and wherever that is. Where there is neither, the settings are the
standard ones; and the file that is named counts even if it holds nothing well formed. -/
theorem settings_have_one_source_directory :
    let blocked (user : String) (configHome : Option String) : World :=
      { files := ⟨[(["work"], .directory), (["work", "datestamp.toml"], .directory),
          (["work", "own.toml"], .file "format".toUTF8),
          (["etc"], .directory), (["etc", "datestamp"], .directory),
          (["etc", "datestamp", "config.toml"], .file user.toUTF8)]⟩
        current := ["work"], home := "/home", configHome, time := ⟨0, 0, by decide⟩
        output := "", errorOutput := "" }
    let w := blocked "[formatter]\nformat = \"%Y\"\n" (some "/etc")
    let v := blocked "[[" none
    let bare : World := { w with files := ⟨[(["work"], .directory)]⟩ }
    let a := CommandLine.Arguments.none
    (answers w).pathExists (answers w).userPath = true ∧
      loadedIn w none = .error (.unreadable "datestamp.toml" .isDirectory) ∧
      loadedIn w none = loadedIn v none ∧
      (Program.perform .sample a : StateM World (Except Program.Failure Unit)) w =
        (.error (.loading (.unreadable "datestamp.toml" .isDirectory)), w) ∧
      loadedIn w (some "own.toml") = .error (.malformed "own.toml" "format") ∧
      loadedIn bare none = .ok standard := by
  intro blocked w v bare a
  have hother : (answers w).pathExists (answers w).userPath = true := by decide +kernel
  have hw : (answers w).IsSource none localPath := .inCurrent (by decide +kernel)
  have hv : (answers v).IsSource none localPath := .inCurrent (by decide +kernel)
  have hbare : ∀ path, ¬ (answers bare).IsSource none path := by
    rintro path (_ | here | ⟨-, there⟩)
    · exact absurd here (by decide +kernel)
    · exact absurd there (by decide +kernel)
  obtain ⟨hagree, -, hbroken, hused, htree⟩ := settings_have_one_source w v none
  have hplace : w.files.locate w.current localPath = .ok ["work", "datestamp.toml"] := by rfl
  have hread := ((htree w localPath _ hplace).1 (by rfl)).2
  have hdirectory := (hbroken localPath hw).1 _ hread
  have hrun := hused .sample a rfl rfl
  rw [hdirectory] at hrun
  obtain ⟨-, -, hnamed, -, -⟩ := settings_have_one_source w v (some "own.toml")
  obtain ⟨-, hstandard, -, -, -⟩ := settings_have_one_source bare v none
  exact ⟨hother, hdirectory, hagree localPath hw hv (by rfl), hrun,
    ((hnamed "own.toml" (.named _)).2 "format" (by rfl)).1 (by decide +kernel),
    hstandard hbare⟩

end Settings

end LocaleClock
