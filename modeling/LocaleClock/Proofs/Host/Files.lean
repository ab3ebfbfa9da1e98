import LocaleClock.Host.World
import LocaleClock.Proofs.Settings.Checks

/-! What changes of a tree of files leave alone. The way along a path depends on the directories
alone, so where a path leads to does not change as long as the directories stay. Opening a file to
add to it makes an empty file where there was none and changes nothing else. -/

namespace LocaleClock.FileTree

variable {t u : FileTree} {current p q : Place} {path text : String}

/-! ### Putting -/

theorem find?_put_self (hp : p ≠ []) (n : Node) : (t.put p n).find? p = some n := by
  rw [find?, if_neg hp, put, List.lookup_cons_self]

theorem find?_put_of_ne (h : q ≠ p) (n : Node) : (t.put p n).find? q = t.find? q := by
  have hrest : (t.nodes.filter fun e => e.1 != p).lookup q = t.nodes.lookup q := by
    rw [List.lookup_eq_findSome?, List.lookup_eq_findSome?, ← List.head?_filterMap,
      ← List.head?_filterMap, List.filterMap_filter]
    congr 2
    funext e
    by_cases he : q = e.1
    · simp [← he, h]
    · simp [he]
  rw [find?, find?, put, List.lookup_cons, beq_false_of_ne h, hrest]

/-! ### The way along a path -/

/-- Holds when all directories of a tree are directories of another one. -/
def HasDirectoriesOf (u t : FileTree) : Prop :=
  ∀ p, t.find? p = some .directory → u.find? p = some .directory

theorem checkDirectory_eq_ok_iff : t.checkDirectory p = .ok () ↔ t.find? p = some .directory := by
  unfold checkDirectory
  split <;> simp_all

theorem HasDirectoriesOf.step (h : u.HasDirectoriesOf t) {part : String}
    (hstep : t.step p part = .ok q) : u.step p part = .ok q := by
  obtain ⟨hdirectory, hrest⟩ := then_eq_ok_iff.1 hstep
  have hdirectory' := checkDirectory_eq_ok_iff.2 (h p (checkDirectory_eq_ok_iff.1 hdirectory))
  exact then_eq_ok_iff.2 ⟨hdirectory', hrest⟩

theorem HasDirectoriesOf.walk (h : u.HasDirectoriesOf t) {parts : List String}
    (hwalk : t.walk p parts = .ok q) : u.walk p parts = .ok q := by
  unfold FileTree.walk at hwalk ⊢
  induction parts generalizing p with
  | nil => exact hwalk
  | cons part parts ih =>
    rw [List.foldlM_cons] at hwalk ⊢
    obtain ⟨p', hfirst, hrest⟩ := bind_eq_ok_iff.1 hwalk
    exact bind_eq_ok_iff.2 ⟨p', h.step hfirst, ih hrest⟩

theorem HasDirectoriesOf.locateLast (h : u.HasDirectoriesOf t) {place : Place × String}
    (hlocate : t.locateLast current path = .ok place) :
    u.locateLast current path = .ok place := by
  obtain ⟨hpath, hlocate⟩ := then_eq_ok_iff.1 hlocate
  obtain ⟨above, hwalk, hlocate⟩ := bind_eq_ok_iff.1 hlocate
  obtain ⟨hdirectory, hplace⟩ := then_eq_ok_iff.1 hlocate
  have hdirectory' := checkDirectory_eq_ok_iff.2 (h above (checkDirectory_eq_ok_iff.1 hdirectory))
  exact then_eq_ok_iff.2
    ⟨hpath, bind_eq_ok_iff.2 ⟨above, h.walk hwalk, then_eq_ok_iff.2 ⟨hdirectory', hplace⟩⟩⟩

/-! ### Places of files -/

/-- The place that a path names as that of a file, whether there is one or not. -/
def filePlace (t : FileTree) (current : Place) (path : String) : Except FileError Place := do
  let (p, name) ← t.locateLast current path
  if isSpecial name || path.toList.getLast? == some '/' then throw .isDirectory
  child p name

theorem openFile_eq (t : FileTree) (current : Place) (path : String) :
    t.openFile current path = do
      let p ← t.filePlace current path
      match t.find? p with
      | none => return (p, none)
      | some .directory => throw .isDirectory
      | some (.file content) => return (p, some content) := by
  unfold openFile filePlace
  cases t.locateLast current path with
  | error e => rfl
  | ok place =>
    simp only [bind, Except.bind]
    split <;> rfl

theorem openFile_eq_ok_iff {content : Option ByteArray} :
    t.openFile current path = .ok (p, content) ↔
      t.filePlace current path = .ok p ∧ t.find? p = content.map .file := by
  rw [openFile_eq, bind_eq_ok_iff]
  constructor
  · rintro ⟨p', hp, hopen⟩
    cases hfind : t.find? p' with
    | none =>
      rw [hfind] at hopen
      cases hopen
      exact ⟨hp, hfind⟩
    | some node =>
      rw [hfind] at hopen
      cases node <;> cases hopen
      exact ⟨hp, hfind⟩
  · rintro ⟨hp, hfind⟩
    refine ⟨p, hp, ?_⟩
    rw [hfind]
    cases content <;> rfl

theorem HasDirectoriesOf.filePlace (h : u.HasDirectoriesOf t)
    (hplace : t.filePlace current path = .ok p) : u.filePlace current path = .ok p := by
  obtain ⟨place, hlocate, hrest⟩ := bind_eq_ok_iff.1 hplace
  exact bind_eq_ok_iff.2 ⟨place, h.locateLast hlocate, hrest⟩

theorem eq_of_child {name : String} (h : child p name = .ok q) : q = p ++ [name] := by
  unfold child at h
  split at h
  · cases h
  · exact (Except.ok.inj h).symm

theorem ne_nil_of_filePlace (h : t.filePlace current path = .ok p) : p ≠ [] := by
  obtain ⟨⟨above, name⟩, -, hrest⟩ := bind_eq_ok_iff.1 h
  dsimp only at hrest
  split at hrest
  · cases hrest
  · rw [eq_of_child hrest]
    simp

theorem append_eq_ok_iff :
    t.append current path text = .ok u ↔
      ∃ p content, t.openFile current path = .ok (p, content) ∧
        u = t.put p (.file (content.getD .empty ++ text.toUTF8)) := by
  rw [append, bind_eq_ok_iff]
  constructor
  · rintro ⟨⟨p, content⟩, hopen, h⟩
    exact ⟨p, content, hopen, (Except.ok.inj h).symm⟩
  · rintro ⟨p, content, hopen, rfl⟩
    exact ⟨⟨p, content⟩, hopen, rfl⟩

/-! ### Trees with more empty files -/

/-- Holds of a place where a tree has what another one has, or else an empty file that may be made
there where the other one has nothing. -/
def StaysAt (u t : FileTree) (made : Place → Prop) (q : Place) : Prop :=
  u.find? q = t.find? q ∨ (made q ∧ t.find? q = none ∧ u.find? q = some (.file .empty))

namespace StaysAt

variable {v : FileTree} {made made' : Place → Prop}

theorem refl (t : FileTree) (q : Place) : t.StaysAt t made q := .inl rfl

theorem mono (h : u.StaysAt t made q) (himp : made q → made' q) : u.StaysAt t made' q :=
  h.imp_right fun hmade => ⟨himp hmade.1, hmade.2⟩

theorem trans (h : u.StaysAt t made q) (h' : v.StaysAt u made q) : v.StaysAt t made q := by
  obtain hsame | ⟨hmade, hnone, hempty⟩ := h'
  · obtain hfirst | ⟨hmade, hnone, hempty⟩ := h
    · exact .inl (hsame.trans hfirst)
    · exact .inr ⟨hmade, hnone, hsame.trans hempty⟩
  · obtain hfirst | ⟨-, -, hfile⟩ := h
    · exact .inr ⟨hmade, hfirst.symm.trans hnone, hempty⟩
    · cases hnone.symm.trans hfile

theorem find?_eq_directory_iff (h : u.StaysAt t made q) :
    u.find? q = some .directory ↔ t.find? q = some .directory := by
  obtain hsame | ⟨-, hnone, hempty⟩ := h
  · rw [hsame]
  · simp [hnone, hempty]

theorem find?_eq_some {n : Node} (h : u.StaysAt t made q) (ht : t.find? q = some n) :
    u.find? q = some n := by
  obtain hsame | ⟨-, hnone, -⟩ := h
  · rw [hsame, ht]
  · cases hnone.symm.trans ht

end StaysAt

/-- Opening a file to add to it makes at most an empty file at its place. -/
theorem staysAt_append_empty (h : t.append current path "" = .ok u) (q : Place) :
    u.StaysAt t (fun q => t.filePlace current path = .ok q) q := by
  obtain ⟨p, content, hopen, rfl⟩ := append_eq_ok_iff.1 h
  obtain ⟨hplace, hfind⟩ := openFile_eq_ok_iff.1 hopen
  by_cases hq : q = p
  · subst hq
    have hput := find?_put_self (t := t) (ne_nil_of_filePlace hplace)
      (.file (content.getD .empty ++ "".toUTF8))
    cases content with
    | none => exact .inr ⟨hplace, hfind, hput⟩
    | some bytes =>
      have hbytes : bytes ++ "".toUTF8 = bytes := ByteArray.append_empty
      rw [Option.getD_some, hbytes] at hput ⊢
      exact .inl (hput.trans hfind.symm)
  · exact .inl (find?_put_of_ne hq _)

end LocaleClock.FileTree

/-! ### Files of a host -/

namespace LocaleClock.World

theorem bind_run {α β : Type} (x : StateM World α) (f : α → StateM World β) (w : World) :
    (x >>= f) w = f (x w).1 (x w).2 := rfl

theorem append_run {w : World} {files : FileTree} {path text : String}
    (h : w.files.append w.current path text = .ok files) :
    (Host.append path text : StateM World Unit) w = ((), { w with files }) := by
  have htry : (tryFiles (fun files current => files.append current path text)) w =
      (.ok (), { w with files }) := by
    rw [tryFiles, h]
  exact congrArg (fun r => ((), r.2)) htry

theorem openForAppending_run (w : World) (path : String) :
    (Host.openForAppending path : StateM World (Except FileError Unit)) w =
      match w.files.append w.current path "" with
      | .ok files => (.ok (), { w with files })
      | .error e => (.error e, w) := rfl

end LocaleClock.World
