import LocaleClock.Proofs.Host.Directories

/-! What is written is found again. A path that names a file leads to the place it is written to,
since its last component is a name; and a file in a place where no directory was is in no other
path's way. -/

namespace LocaleClock

namespace Path

theorem exists_splitOnP_concat {α : Type} {p : α → Bool} {cs : List α} (hne : cs ≠ [])
    (hlast : ∀ c ∈ cs.getLast?, p c = false) :
    ∃ before part, cs.splitOnP p = before ++ [part] ∧ part ≠ [] := by
  induction cs with
  | nil => exact absurd rfl hne
  | cons c cs ih =>
    rw [List.splitOnP_cons_eq_if_modifyHead]
    by_cases hend : cs = []
    · have hc : p c = false := hlast c (by simp [hend])
      exact ⟨[], [c], by simp [hend, hc], List.cons_ne_nil _ _⟩
    · obtain ⟨before, part, hrest, hpart⟩ := ih hend fun d hd =>
        hlast d (by rw [List.getLast?_cons, Option.mem_def.1 hd]; rfl)
      rw [hrest]
      split
      · exact ⟨[] :: before, part, rfl, hpart⟩
      · cases before with
        | nil => exact ⟨[], c :: part, rfl, List.cons_ne_nil _ _⟩
        | cons first before => exact ⟨(c :: first) :: before, part, rfl, hpart⟩

theorem exists_components_concat {path : String} (hne : path ≠ "")
    (hslash : path.toList.getLast? ≠ some '/') :
    ∃ above name, components path = above ++ [name] ∧ name ≠ "" := by
  have hlist : path.toList ≠ [] := by simpa using hne
  obtain ⟨before, part, hsplit, hpart⟩ := exists_splitOnP_concat (p := (· == '/')) hlist (by
    rintro c hc
    rw [beq_eq_false_iff_ne]
    rintro rfl
    exact hslash hc)
  refine ⟨before.map String.ofList, String.ofList part, ?_, by simpa using hpart⟩
  rw [components, hsplit, List.map_append]
  rfl

end Path

namespace FileTree

variable {t u : FileTree} {current p q : Place} {path : String}

theorem ne_empty_of_checkPath (h : checkPath path = .ok ()) : path ≠ "" := by
  rintro rfl
  cases h

/-- The way to a file is the way along all components of its path. -/
theorem locate_of_filePlace (h : t.filePlace current path = .ok p) :
    t.locate current path = .ok p := by
  obtain ⟨⟨above, name⟩, hlast, hchild⟩ := bind_eq_ok_iff.1 h
  dsimp only at hchild
  split at hchild
  case isTrue => cases hchild
  case isFalse hname =>
    obtain ⟨hspecial, hslash⟩ : isSpecial name = false ∧ path.toList.getLast? ≠ some '/' := by
      simpa using hname
    obtain ⟨hpath, hlast⟩ := then_eq_ok_iff.1 hlast
    obtain ⟨outer, houter, hlast⟩ := bind_eq_ok_iff.1 hlast
    obtain ⟨hdirectory, hplace⟩ := then_eq_ok_iff.1 hlast
    obtain ⟨before, part, hcomponents, hpart⟩ :=
      Path.exists_components_concat (ne_empty_of_checkPath hpath) hslash
    have hreverse : (Path.components path).reverse = part :: before.reverse := by
      simp [hcomponents]
    simp only [hreverse, List.dropWhile_cons, hpart, decide_false, Bool.false_eq_true, if_false,
      List.tail_cons, List.reverse_reverse] at houter
    obtain ⟨rfl, rfl⟩ : outer = above ∧ part = name := by
      simpa [hreverse, hpart] using Except.ok.inj hplace
    have hstep : t.step outer part = .ok p := by
      refine then_eq_ok_iff.2 ⟨hdirectory, ?_⟩
      have hdots : part ≠ ".." := by
        rintro rfl
        exact absurd hspecial (by decide)
      rw [if_neg hdots, if_neg (by simp [hspecial])]
      exact hchild
    refine then_eq_ok_iff.2 ⟨hpath, ?_⟩
    rw [hcomponents, walk, List.foldlM_append]
    exact bind_eq_ok_iff.2 ⟨outer, houter, by simpa using hstep⟩

theorem HasDirectoriesOf.locate (h : u.HasDirectoriesOf t)
    (hplace : t.locate current path = .ok p) : u.locate current path = .ok p := by
  obtain ⟨hpath, hwalk⟩ := then_eq_ok_iff.1 hplace
  exact then_eq_ok_iff.2 ⟨hpath, h.walk hwalk⟩

theorem hasDirectoriesOf_put (hfree : t.find? p ≠ some .directory) (n : Node) :
    (t.put p n).HasDirectoriesOf t := by
  intro q hq
  have hne : q ≠ p := by
    rintro rfl
    exact hfree hq
  rw [find?_put_of_ne hne, hq]

/-- A file that was opened is found under its path whatever is written to it. -/
theorem locate_put_of_openFile {content : Option ByteArray}
    (h : t.openFile current path = .ok (p, content)) (n : Node) :
    (t.put p n).locate current path = .ok p := by
  obtain ⟨hplace, hfind⟩ := openFile_eq_ok_iff.1 h
  refine (hasDirectoriesOf_put ?_ n).locate (locate_of_filePlace hplace)
  rw [hfind]
  cases content <;> simp

end FileTree

end LocaleClock
