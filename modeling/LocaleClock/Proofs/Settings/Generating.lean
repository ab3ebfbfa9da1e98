import LocaleClock.Proofs.Host.Likeness
import LocaleClock.Proofs.Host.Writing
import LocaleClock.Proofs.Settings.Lookup
import LocaleClock.Proofs.Settings.Template

/-! Making a settings file. When that fails, all that is new are directories. When it succeeds, the
file is found under its path, it is read as the standard settings, and nothing that was there before
was lost but the file in its place. What files hold has no part in this. -/

namespace LocaleClock

namespace World.IsSequential

variable {P : (α : Type) → StateM World α → Prop}

theorem makeParent (h : IsSequential P) (make : ∀ path, P _ (Host.makeDirectory path))
    (look : ∀ path, P _ (Host.isDirectory path)) (path : String) :
    P _ (Settings.makeParent path) := by
  unfold Settings.makeParent
  split
  · exact h.pure _
  · refine h.bind (h.makeDirectories make look _) fun made => ?_
    split <;> exact h.pure _

end World.IsSequential

namespace Settings

variable {w : World} {path : String}

/-! ### The steps -/

def targetIn (w : World) (path : String) : String :=
  if path.isEmpty then userPath w.home w.configHome else path

def generatedText (m : Moment) : String := template m.dateText

def generatedNote (target : String) : String :=
  "✅ Generated default configuration file: " ++ target ++ "\n"

/-- Writes the file into the directories that are there. -/
def writeGenerated (target : String) (m : Moment) : StateM World (Except GenerateError Unit) := do
  match ← Host.writeText target (generatedText m) with
  | .error e => return .error (.file target e)
  | .ok () =>
    Host.print (generatedNote target)
    return .ok ()

/-- Makes the file at a path, the directory around it first. -/
def generateAt (target : String) : StateM World (Except GenerateError Unit) := do
  let m ← Host.localTime
  match ← makeParent target with
  | .error e => return .error e
  | .ok () => writeGenerated target m

theorem generate_run (path : String) (w : World) :
    (generate path : StateM World (Except GenerateError Unit)) w =
      generateAt (targetIn w path) w := by
  unfold generate targetIn
  split
  · rw [bind_run_of_asked (currentUserPath_run w)]
    rfl
  · rfl

theorem generateAt_run (target : String) (w : World) :
    generateAt target w =
      match (makeParent target : StateM World (Except GenerateError Unit)) w with
      | (.error e, u) => (.error e, u)
      | (.ok (), u) => writeGenerated target w.localTime u := by
  have hnow : (Host.localTime : StateM World Moment) w = (w.localTime, w) := rfl
  rw [generateAt, bind_run_of_asked hnow, World.bind_run]
  generalize (makeParent target : StateM World (Except GenerateError Unit)) w = r
  obtain ⟨_ | _, u⟩ := r
  · rfl
  · rfl

theorem writeGenerated_run (target : String) (m : Moment) (u : World) :
    writeGenerated target m u =
      match u.files.openFile u.current target with
      | .error e => (.error (.file target e), u)
      | .ok opened => (.ok (), { u with
          files := u.files.put opened.1 (.file (generatedText m).toUTF8)
          output := u.output ++ generatedNote target }) := by
  have hwrite : (Host.writeText target (generatedText m) :
      StateM World (Except FileError Unit)) u =
        World.tryFiles (fun files current => files.writeText current target (generatedText m)) u :=
    rfl
  unfold writeGenerated
  rw [World.bind_run, hwrite, World.tryFiles, FileTree.writeText]
  cases u.files.openFile u.current target <;> rfl

/-! ### What is new -/

theorem onlyMakesDirectories_makeParent (path : String) :
    World.OnlyMakesDirectories (makeParent path : StateM World (Except GenerateError Unit)) :=
  World.OnlyMakesDirectories.isSequential.makeParent World.OnlyMakesDirectories.makeDirectory
    (fun _ w => ⟨w.files, rfl, .refl _⟩) path

/-- Holds of a path that a file can be made at: the directories around it are there or can be made,
and it can be written to. -/
def CanGenerate (w : World) (target : String) : Prop :=
  ∃ u opened, (makeParent target : StateM World (Except GenerateError Unit)) w = (.ok (), u) ∧
    u.files.openFile u.current target = .ok opened

/-- What making a file leaves of a host: directories may be new, and if it succeeds the file is in
its place and that is said. -/
inductive HasGenerated (w : World) (target : String) : Except GenerateError Unit → World → Prop
  | error {e : GenerateError} {files : FileTree} (cannot : ¬ CanGenerate w target)
      (grown : files.HasGrownFrom w.files) : HasGenerated w target (.error e) { w with files }
  | ok {files : FileTree} {p : Place} {content : Option ByteArray} (can : CanGenerate w target)
      (grown : files.HasGrownFrom w.files)
      (opened : files.openFile w.current target = .ok (p, content)) :
      HasGenerated w target (.ok ()) { w with
        files := files.put p (.file (generatedText w.localTime).toUTF8)
        output := w.output ++ generatedNote target }

theorem hasGenerated (path : String) (w : World) :
    let r := (generate path : StateM World (Except GenerateError Unit)) w
    HasGenerated w (targetIn w path) r.1 r.2 := by
  dsimp only
  rw [generate_run, generateAt_run]
  generalize targetIn w path = target
  obtain ⟨files, hafter, hgrown⟩ := onlyMakesDirectories_makeParent target w
  cases hmade : (makeParent target : StateM World (Except GenerateError Unit)) w with
  | mk made u =>
    rw [hmade] at hafter
    obtain rfl : u = { w with files } := hafter
    -- Whichever step fails, all that is new by then are the directories.
    cases made with
    | error e =>
      refine .error ?_ hgrown
      rintro ⟨u, opened, hmade', -⟩
      cases hmade.symm.trans hmade'
    | ok =>
      dsimp only
      rw [writeGenerated_run]
      dsimp only
      cases hopened : files.openFile w.current target with
      | error e =>
        refine .error ?_ hgrown
        rintro ⟨u, opened, hmade', hopened'⟩
        cases hmade.symm.trans hmade'
        cases hopened.symm.trans hopened'
      | ok opened =>
        obtain ⟨p, content⟩ := opened
        exact .ok ⟨_, _, hmade, hopened⟩ hgrown hopened

theorem canGenerate_iff : CanGenerate w (targetIn w path) ↔
    ((generate path : StateM World (Except GenerateError Unit)) w).1 = .ok () := by
  have h := hasGenerated path w
  dsimp only at h
  generalize (generate path : StateM World (Except GenerateError Unit)) w = r at h ⊢
  obtain ⟨answer, v⟩ := r
  cases h with
  | error cannot => exact ⟨fun can => absurd can cannot, nofun⟩
  | ok can => exact ⟨fun _ => rfl, fun _ => can⟩

theorem HasGenerated.find?_target {target : String} {v : World}
    (h : HasGenerated w target (.ok ()) v) :
    ∃ p, v.files.locate v.current target = .ok p ∧
      v.files.find? p = some (.file (generatedText w.localTime).toUTF8) := by
  cases h with
  | @ok files p content can grown opened =>
    obtain ⟨hplace, -⟩ := FileTree.openFile_eq_ok_iff.1 opened
    exact ⟨p, FileTree.locate_put_of_openFile opened _,
      FileTree.find?_put_self (FileTree.ne_nil_of_filePlace hplace) _⟩

theorem ofText_generatedText (path : String) (t : Instant) (o : Offset) :
    ofText path (generatedText (.of t o)) = .ok standard := ofText_template path t o

/-! ### Other contents -/

open World (SameButTexts) in
/-- What the files hold makes no difference. -/
theorem respects_generate (path : String) :
    World.Respects SameButTexts
      (generate path : StateM World (Except GenerateError Unit)) := by
  have hseq := World.isSequential_respects SameButTexts
  have hwrite (target : String) (m : Moment) :
      World.Respects SameButTexts (writeGenerated target m) := by
    refine hseq.bind (SameButTexts.writeText _ _) fun written => ?_
    split
    · exact hseq.pure _
    · exact hseq.bind (SameButTexts.print _) fun _ => hseq.pure _
  have hat (target : String) : World.Respects SameButTexts (generateAt target) := by
    refine hseq.bind SameButTexts.localTime fun m =>
      hseq.bind (hseq.makeParent SameButTexts.makeDirectory SameButTexts.isDirectory target)
        fun made => ?_
    split
    · exact hseq.pure _
    · exact hwrite _ _
  intro w v h
  have htarget : targetIn v path = targetIn w path := by
    obtain ⟨files, rfl, -⟩ := h
    rfl
  rw [generate_run, generate_run, htarget]
  exact hat _ w v h

end Settings

end LocaleClock
