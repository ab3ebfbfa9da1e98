import LocaleClock.Formatter.Customization

/-! The customizations of a settings file by identifier. They are kept in increasing order of their
identifiers, each identifier once, so two collections are equal when they hold the same. -/

namespace LocaleClock.Settings

/-- Puts a value under a key into a list that is in increasing order of its keys. -/
def insertSorted {α : Type} (key : String) (value : α) : List (String × α) → List (String × α)
  | [] => [(key, value)]
  | e :: es =>
    if key < e.1 then (key, value) :: e :: es
    else if key = e.1 then (key, value) :: es
    else e :: insertSorted key value es

theorem mem_insertSorted {α : Type} {key : String} {value : α} {x : String × α}
    {es : List (String × α)} (h : x ∈ insertSorted key value es) :
    x = (key, value) ∨ x ∈ es := by
  induction es with
  | nil => simpa [insertSorted] using h
  | cons e es ih =>
    unfold insertSorted at h
    split at h
    · simpa using h
    · split at h
      · rcases List.mem_cons.1 h with h | h
        · exact .inl h
        · exact .inr (List.mem_cons_of_mem _ h)
      · rcases List.mem_cons.1 h with h | h
        · exact .inr (h ▸ List.mem_cons_self)
        · exact (ih h).imp_right (List.mem_cons_of_mem _)

theorem pairwise_insertSorted {α : Type} {key : String} {value : α} {es : List (String × α)}
    (h : es.Pairwise fun a b => a.1 < b.1) :
    (insertSorted key value es).Pairwise fun a b => a.1 < b.1 := by
  induction es with
  | nil => simp [insertSorted]
  | cons e es ih =>
    obtain ⟨he, hes⟩ := List.pairwise_cons.1 h
    unfold insertSorted
    split
    case isTrue hlt =>
      refine List.pairwise_cons.2 ⟨fun x hx => ?_, h⟩
      rcases List.mem_cons.1 hx with rfl | hx
      · exact hlt
      · exact String.lt_trans hlt (he x hx)
    case isFalse hnlt =>
      split
      case isTrue heq => exact List.pairwise_cons.2 ⟨fun x hx => heq ▸ he x hx, hes⟩
      case isFalse hne =>
        refine List.pairwise_cons.2 ⟨fun x hx => ?_, ih hes⟩
        rcases mem_insertSorted hx with rfl | hx
        · exact Std.lt_of_le_of_ne (String.not_lt.1 hnlt) (Ne.symm hne)
        · exact he x hx

structure Sections where
  entries : List (String × Customization)
  increasing : entries.Pairwise fun a b => a.1 < b.1
  deriving DecidableEq

namespace Sections

def empty : Sections := ⟨[], .nil⟩

/-- Puts a customization under an identifier, in place of the one that was there. -/
def insert (s : Sections) (identifier : String) (c : Customization) : Sections :=
  ⟨insertSorted identifier c s.entries, pairwise_insertSorted s.increasing⟩

/-- The collection of a list of customizations, where later ones win. -/
def ofList (entries : List (String × Customization)) : Sections :=
  entries.foldl (fun s e => s.insert e.1 e.2) .empty

end Sections

end LocaleClock.Settings
