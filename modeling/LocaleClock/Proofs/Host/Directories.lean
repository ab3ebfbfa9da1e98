import LocaleClock.Host.Directories
import LocaleClock.Proofs.Host.Files

/-! Making directories with those around them. What holds of making one directory and looking for
one, and of programs in sequence, holds of making them all. In particular, directories are added
where there was nothing and all that was there stays, whether the program succeeds or stops on the
way. -/

namespace LocaleClock

namespace World

/-! ### Programs in sequence -/

/-- Holds of a predicate that a program has when its parts have it. -/
structure IsSequential (P : (α : Type) → StateM World α → Prop) : Prop where
  pure {α : Type} (a : α) : P α (Pure.pure a)
  bind {α β : Type} {x : StateM World α} {f : α → StateM World β} (hx : P α x)
    (hf : ∀ a, P β (f a)) : P β (x >>= f)

namespace IsSequential

variable {P : (α : Type) → StateM World α → Prop}

theorem ensureDirectory (h : IsSequential P) {path : String}
    (make : P _ (Host.makeDirectory path)) (look : P _ (Host.isDirectory path)) :
    P _ (Host.ensureDirectory path) := by
  refine h.bind make fun made => ?_
  split
  · refine h.bind look fun there => ?_
    split <;> exact h.pure _
  · exact h.pure _

theorem ensureFirst (h : IsSequential P) (make : ∀ path, P _ (Host.makeDirectory path))
    (look : ∀ path, P _ (Host.isDirectory path)) (paths : List String) :
    P _ (Host.ensureFirst paths) := by
  induction paths with
  | nil => exact h.pure _
  | cons path around ih =>
    have hensure := h.ensureDirectory (make path) (look path)
    refine h.bind hensure fun made => ?_
    split
    · refine h.bind ih fun outside => ?_
      split
      · exact hensure
      · exact h.pure _
    · exact h.pure _

theorem makeDirectories (h : IsSequential P) (make : ∀ path, P _ (Host.makeDirectory path))
    (look : ∀ path, P _ (Host.isDirectory path)) (path : String) :
    P _ (Host.makeDirectories path) := h.ensureFirst make look _

end IsSequential

end World

namespace FileTree

/-! ### Trees with more directories -/

/-- Holds of a tree that has all of another one, and beyond that nothing but directories. -/
def HasGrownFrom (u t : FileTree) : Prop :=
  ∀ q, u.find? q = t.find? q ∨ (t.find? q = none ∧ u.find? q = some .directory)

namespace HasGrownFrom

variable {t u v : FileTree}

theorem refl (t : FileTree) : t.HasGrownFrom t := fun _ => .inl rfl

theorem trans (h : u.HasGrownFrom t) (h' : v.HasGrownFrom u) : v.HasGrownFrom t := by
  intro q
  obtain hsame | ⟨hnone, hnew⟩ := h' q
  · rw [hsame]
    exact h q
  · obtain hsame | ⟨-, hfirst⟩ := h q
    · exact .inr ⟨hsame ▸ hnone, hnew⟩
    · cases hnone.symm.trans hfirst

end HasGrownFrom

theorem hasGrownFrom_put {t : FileTree} {p : Place} (hne : p ≠ []) (hnone : t.find? p = none) :
    (t.put p .directory).HasGrownFrom t := by
  intro q
  by_cases hq : q = p
  · subst hq
    exact .inr ⟨hnone, find?_put_self hne _⟩
  · exact .inl (find?_put_of_ne hq _)

theorem hasGrownFrom_makeDirectory {t u : FileTree} {current : Place} {path : String}
    (h : t.makeDirectory current path = .ok u) : u.HasGrownFrom t := by
  obtain ⟨⟨above, name⟩, -, h⟩ := bind_eq_ok_iff.1 h
  dsimp only at h
  split at h
  case isTrue => cases h
  case isFalse =>
    obtain ⟨p, hp, h⟩ := bind_eq_ok_iff.1 h
    have hne : p ≠ [] := by simp [eq_of_child hp]
    split at h
    case isTrue => cases h
    case isFalse hfree =>
      cases h
      exact hasGrownFrom_put hne (by simpa using hfree)

end FileTree

namespace World

/-! ### Hosts with more directories -/

/-- Holds of what changes nothing but that it makes directories. -/
def OnlyMakesDirectories {α : Type} (x : StateM World α) : Prop :=
  ∀ w, ∃ files, (x w).2 = { w with files } ∧ files.HasGrownFrom w.files

namespace OnlyMakesDirectories

theorem isSequential : IsSequential @OnlyMakesDirectories where
  pure _ w := ⟨w.files, rfl, .refl _⟩
  bind {α β x f} hx hf w := by
    obtain ⟨files, hfirst, hgrown⟩ := hx w
    obtain ⟨files', hrest, hgrown'⟩ := hf (x w).1 { w with files }
    refine ⟨files', ?_, hgrown.trans hgrown'⟩
    rw [bind_run, hfirst, hrest]

theorem tryFiles {change : FileTree → Place → Except FileError FileTree}
    (h : ∀ t u current, change t current = .ok u → u.HasGrownFrom t) :
    OnlyMakesDirectories (World.tryFiles change) := by
  intro w
  unfold World.tryFiles
  split
  case h_1 files hchange => exact ⟨files, rfl, h _ _ _ hchange⟩
  case h_2 => exact ⟨w.files, rfl, .refl _⟩

theorem makeDirectory (path : String) :
    OnlyMakesDirectories (Host.makeDirectory path : StateM World (Except FileError Unit)) :=
  tryFiles fun _ _ _ => FileTree.hasGrownFrom_makeDirectory

theorem makeDirectories (path : String) :
    OnlyMakesDirectories (Host.makeDirectories path : StateM World _) :=
  isSequential.makeDirectories makeDirectory (fun _ w => ⟨w.files, rfl, .refl _⟩) path

end OnlyMakesDirectories

end World

end LocaleClock
