import LocaleClock.Proofs.Host.Directories

/-! Programs on two hosts. A program respects a relation of hosts when related ones give it the same
answer and are left related. What the files of a host hold makes no difference for finding a place,
making directories and writing files. -/

namespace LocaleClock

def Node.isFile : Node → Bool
  | .file _ => true
  | .directory => false

namespace FileTree

variable {t u : FileTree} {current : Place} {path : String}

/-! ### Trees with other contents -/

/-- Holds of trees with files and directories in the same places. -/
def IsAlike (t u : FileTree) : Prop :=
  ∀ p, (t.find? p).map Node.isFile = (u.find? p).map Node.isFile

/-- What two changes make of two such trees: they fail for the same reason, or leave such trees. -/
inductive EndsAlike : Except FileError FileTree → Except FileError FileTree → Prop
  | error (e : FileError) : EndsAlike (.error e) (.error e)
  | ok {t u : FileTree} (h : t.IsAlike u) : EndsAlike (.ok t) (.ok u)

theorem checkDirectory_eq_match (t : FileTree) (p : Place) :
    t.checkDirectory p =
      match (t.find? p).map Node.isFile with
      | none => .error .notFound
      | some true => .error .notDirectory
      | some false => .ok () := by
  unfold checkDirectory
  rcases t.find? p with _ | (_ | _) <;> rfl

theorem writeText_eq_match (t : FileTree) (current : Place) (path text : String) :
    t.writeText current path text = (do
      let p ← t.filePlace current path
      match (t.find? p).map Node.isFile with
      | some false => .error .isDirectory
      | _ => .ok (t.put p (.file text.toUTF8))) := by
  rw [writeText, openFile_eq]
  cases t.filePlace current path with
  | error e => rfl
  | ok p =>
    simp only [bind, Except.bind]
    rcases t.find? p with _ | (_ | _) <;> rfl

namespace IsAlike

theorem put (h : t.IsAlike u) (p : Place) {n m : Node} (hkind : n.isFile = m.isFile) :
    (t.put p n).IsAlike (u.put p m) := by
  intro q
  by_cases hq : q = p
  · subst hq
    by_cases hroot : q = []
    · rw [hroot]
      rfl
    · rw [find?_put_self hroot, find?_put_self hroot]
      exact congrArg some hkind
  · rw [find?_put_of_ne hq, find?_put_of_ne hq, h q]

theorem checkDirectory_eq (h : t.IsAlike u) (p : Place) :
    t.checkDirectory p = u.checkDirectory p := by
  rw [checkDirectory_eq_match, checkDirectory_eq_match, h p]

theorem walk_eq (h : t.IsAlike u) (p : Place) (parts : List String) :
    t.walk p parts = u.walk p parts := by
  have hstep : t.step = u.step := by
    funext q part
    rw [step, step, h.checkDirectory_eq]
  rw [walk, walk, hstep]

theorem locate_eq (h : t.IsAlike u) (current : Place) (path : String) :
    t.locate current path = u.locate current path := by
  simp only [locate, h.walk_eq]

theorem locateLast_eq (h : t.IsAlike u) (current : Place) (path : String) :
    t.locateLast current path = u.locateLast current path := by
  simp only [locateLast, h.walk_eq, h.checkDirectory_eq]

theorem isDirectory_eq (h : t.IsAlike u) (current : Place) (path : String) :
    t.isDirectory current path = u.isDirectory current path := by
  simp only [isDirectory, h.locate_eq, h.checkDirectory_eq]

theorem filePlace_eq (h : t.IsAlike u) (current : Place) (path : String) :
    t.filePlace current path = u.filePlace current path := by
  simp only [filePlace, h.locateLast_eq]

theorem find?_eq_none_iff (h : t.IsAlike u) (p : Place) : t.find? p = none ↔ u.find? p = none := by
  have hkind := h p
  rw [← Option.map_eq_none_iff (f := Node.isFile), hkind, Option.map_eq_none_iff]

theorem writeText (h : t.IsAlike u) (current : Place) (path text : String) :
    EndsAlike (t.writeText current path text) (u.writeText current path text) := by
  rw [writeText_eq_match, writeText_eq_match, h.filePlace_eq]
  cases u.filePlace current path with
  | error e => exact .error e
  | ok p =>
    have hput : (t.put p (.file text.toUTF8)).IsAlike (u.put p (.file text.toUTF8)) := h.put p rfl
    simp only [bind, Except.bind, h p]
    split
    · exact .error _
    · exact .ok hput

theorem makeDirectory (h : t.IsAlike u) (current : Place) (path : String) :
    EndsAlike (t.makeDirectory current path) (u.makeDirectory current path) := by
  rw [FileTree.makeDirectory, FileTree.makeDirectory, h.locateLast_eq]
  cases u.locateLast current path with
  | error e => exact .error e
  | ok place =>
    obtain ⟨p, name⟩ := place
    simp only [bind, Except.bind]
    split
    · exact .error _
    · cases child p name with
      | error e => exact .error e
      | ok q =>
        have hsome : (t.find? q).isSome = (u.find? q).isSome := by
          rw [Bool.eq_iff_iff, Option.isSome_iff_ne_none, Option.isSome_iff_ne_none, Ne, Ne,
            h.find?_eq_none_iff]
        simp only [hsome]
        split
        · exact .error _
        · exact .ok (h.put q rfl)

end IsAlike

end FileTree

namespace World

/-! ### Related hosts -/

/-- Holds of programs that related hosts give the same answer and that leave them related. -/
def Respects {α : Type} (R : World → World → Prop) (x : StateM World α) : Prop :=
  ∀ w v, R w v → (x w).1 = (x v).1 ∧ R (x w).2 (x v).2

/-- Holds of hosts that differ in nothing but what their files hold. -/
def SameButTexts (w v : World) : Prop := ∃ files, v = { w with files } ∧ w.files.IsAlike files

theorem isSequential_respects (R : World → World → Prop) :
    IsSequential fun _ x => Respects R x where
  pure _ _ _ h := ⟨rfl, h⟩
  bind {α β x f} hx hf w v h := by
    obtain ⟨hanswer, hafter⟩ := hx w v h
    rw [bind_run, bind_run, ← hanswer]
    exact hf (x w).1 _ _ hafter

namespace SameButTexts

theorem tryFiles {change : FileTree → Place → Except FileError FileTree}
    (h : ∀ t u current, t.IsAlike u → FileTree.EndsAlike (change t current) (change u current)) :
    Respects SameButTexts (World.tryFiles change) := by
  rintro w _ ⟨files, rfl, halike⟩
  have hends := h w.files files w.current halike
  unfold World.tryFiles
  dsimp only
  generalize change w.files w.current = r at hends ⊢
  generalize change files w.current = r' at hends ⊢
  cases hends with
  | error e => exact ⟨rfl, files, rfl, halike⟩
  | ok hafter => exact ⟨rfl, _, rfl, hafter⟩

theorem makeDirectory (path : String) :
    Respects SameButTexts (Host.makeDirectory path : StateM World (Except FileError Unit)) :=
  tryFiles fun _ _ current h => h.makeDirectory current path

theorem writeText (path text : String) :
    Respects SameButTexts (Host.writeText path text : StateM World (Except FileError Unit)) :=
  tryFiles fun _ _ current h => h.writeText current path text

theorem isDirectory (path : String) :
    Respects SameButTexts (Host.isDirectory path : StateM World Bool) := by
  rintro w _ ⟨files, rfl, halike⟩
  exact ⟨halike.isDirectory_eq w.current path, files, rfl, halike⟩

theorem localTime : Respects SameButTexts (Host.localTime : StateM World Moment) := by
  rintro w _ ⟨files, rfl, halike⟩
  exact ⟨rfl, files, rfl, halike⟩

theorem print (text : String) : Respects SameButTexts (Host.print text : StateM World Unit) := by
  rintro w _ ⟨files, rfl, halike⟩
  exact ⟨rfl, files, rfl, halike⟩

theorem makeDirectories (path : String) :
    Respects SameButTexts (Host.makeDirectories path : StateM World _) :=
  (isSequential_respects _).makeDirectories makeDirectory isDirectory path

end SameButTexts

end World

end LocaleClock
