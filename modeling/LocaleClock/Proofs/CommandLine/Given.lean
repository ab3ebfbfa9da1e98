import Mathlib.Data.List.Nodup
import LocaleClock.CommandLine.Arguments

/-! What is given on a command line, one argument at a time. Arguments are determined by what is
given in whatever order, nothing is given twice, and whatever is given only once makes arguments. -/

namespace LocaleClock.CommandLine

/-! ### What is given -/

inductive Given where
  | locale (name : String)
  | value (c : Choice) (value : String)
  | debug
  deriving DecidableEq, Repr

/-- The option that gives an argument. The locale is given without one. -/
def Given.switch? : Given → Option Switch
  | .locale _ => none
  | .value c _ => some (.choice c)
  | .debug => some (.flag .debug)

namespace Arguments

def find? (a : Arguments) : Option Switch → Option Given
  | .none => a.locale.map .locale
  | some (.choice c) => (a.get c).map (.value c)
  | some (.flag .debug) => if a.debug then some .debug else .none
  | some (.flag _) => .none

/-- What arguments are given by: nothing for the locale, and the options. -/
def switches : List (Option Switch) :=
  [.none, some (.choice .format), some (.choice .offset), some (.choice .config),
    some (.choice .generateConfig), some (.flag .debug)]

def given (a : Arguments) : List Given := switches.filterMap a.find?

def put (a : Arguments) : Given → Arguments
  | .locale name => { a with locale := some name }
  | .value c value => a.set c value
  | .debug => { a with debug := true }

variable {a b : Arguments} {g : Given}

theorem mem_switches (g : Given) : g.switch? ∈ switches := by
  obtain name | ⟨_ | _ | _ | _, value⟩ | _ := g <;> simp [Given.switch?, switches]

theorem switch?_of_find? {s : Option Switch} (h : a.find? s = some g) : g.switch? = s := by
  obtain _ | c | _ | _ | _ := s
  · obtain ⟨name, -, rfl⟩ := Option.map_eq_some_iff.1 h
    rfl
  · obtain ⟨value, -, rfl⟩ := Option.map_eq_some_iff.1 h
    rfl
  · obtain ⟨-, hg⟩ := Option.ite_none_right_eq_some.1 h
    cases hg
    rfl
  · cases h
  · cases h

theorem mem_given_iff : g ∈ a.given ↔ a.find? g.switch? = some g := by
  rw [given, List.mem_filterMap]
  constructor
  · rintro ⟨s, -, hs⟩
    rwa [switch?_of_find? hs]
  · exact fun h => ⟨_, mem_switches g, h⟩

theorem find?_eq_some_iff {s : Option Switch} :
    a.find? s = some g ↔ g.switch? = s ∧ g ∈ a.given := by
  constructor
  · intro h
    obtain rfl := switch?_of_find? h
    exact ⟨rfl, mem_given_iff.2 h⟩
  · rintro ⟨rfl, h⟩
    exact mem_given_iff.1 h

theorem find?_eq_none_iff {s : Option Switch} :
    a.find? s = .none ↔ s ∉ a.given.map Given.switch? := by
  rw [Option.eq_none_iff_forall_ne_some, List.mem_map]
  constructor
  · rintro h ⟨g, hmem, rfl⟩
    exact h g (mem_given_iff.1 hmem)
  · intro h g hg
    obtain ⟨hswitch, hmem⟩ := find?_eq_some_iff.1 hg
    exact h ⟨g, hmem, hswitch⟩

theorem eq_of_perm (h : a.given.Perm b.given) : a = b := by
  have hfind : ∀ s, a.find? s = b.find? s := fun s => Option.ext fun g => by
    rw [find?_eq_some_iff, find?_eq_some_iff, h.mem_iff]
  have hlocale : a.locale = b.locale :=
    Option.map_injective (fun _ _ hname => by cases hname; rfl) (hfind .none)
  have hvalue : ∀ c, a.get c = b.get c := fun c =>
    Option.map_injective (fun _ _ hvalue => by cases hvalue; rfl) (hfind (some (.choice c)))
  have hdebug : a.debug = b.debug := by
    have hflag := hfind (some (.flag .debug))
    cases ha : a.debug <;> cases hb : b.debug <;> simp_all [find?]
  obtain ⟨locale, format, offset, config, generateConfig, debug⟩ := a
  obtain ⟨locale', format', offset', config', generateConfig', debug'⟩ := b
  rw [mk.injEq]
  exact ⟨hlocale, hvalue .format, hvalue .offset, hvalue .config, hvalue .generateConfig, hdebug⟩

theorem map_filterMap_sublist {α β : Type} {f : α → Option β} {key : β → α}
    (h : ∀ x y, f x = some y → key y = x) (xs : List α) :
    ((xs.filterMap f).map key).Sublist xs := by
  induction xs with
  | nil => exact .slnil
  | cons x xs ih =>
    cases hx : f x with
    | none => simpa [List.filterMap_cons, hx] using ih.cons x
    | some y => simpa [List.filterMap_cons, hx, h x y hx] using ih

theorem nodup_given (a : Arguments) : (a.given.map Given.switch?).Nodup :=
  (map_filterMap_sublist (fun _ _ => switch?_of_find?) switches).nodup (by decide)

/-! ### One argument more -/

theorem setNew_eq_ok_iff {c : Choice} {value : String} :
    a.setNew c value = .ok b ↔ a.get c = .none ∧ b = a.set c value := by
  cases h : a.get c <;> simp [setNew, h, eq_comm]

theorem raise_debug_eq_ok_iff :
    a.raise .debug = .ok b ↔ a.debug = false ∧ b = { a with debug := true } := by
  cases h : a.debug <;> simp [raise, h, eq_comm]

theorem get_set (a : Arguments) (c c' : Choice) (value : String) :
    (a.set c value).get c' = if c' = c then some value else a.get c' := by
  cases c <;> cases c' <;> rfl

theorem find?_put (a : Arguments) (g : Given) (s : Option Switch) :
    (a.put g).find? s = if s = g.switch? then some g else a.find? s := by
  cases g with
  | locale name => obtain _ | c | _ | _ | _ := s <;> rfl
  | debug => obtain _ | c | _ | _ | _ := s <;> rfl
  | value c value =>
    obtain _ | c' | f := s
    · cases c <;> rfl
    · by_cases hc : c' = c <;> simp [find?, put, get_set, Given.switch?, hc]
    · cases f <;> cases c <;> rfl

theorem perm_given_put (h : a.find? g.switch? = .none) : (a.put g).given.Perm (g :: a.given) := by
  have hnew : g ∉ a.given := by simp [mem_given_iff, h]
  have hnodup : ∀ a : Arguments, a.given.Nodup := fun a => a.nodup_given.of_map
  rw [List.perm_ext_iff_of_nodup (hnodup _) (List.nodup_cons.2 ⟨hnew, hnodup a⟩)]
  intro x
  rw [List.mem_cons, mem_given_iff, mem_given_iff, find?_put]
  by_cases hx : x.switch? = g.switch?
  · simp [hx, h, eq_comm]
  · have hne : x ≠ g := by
      rintro rfl
      exact hx rfl
    simp [hx, hne]

/-- An argument can be one of those of a line exactly when it is not there yet. -/
theorem append_cons_perm_iff {gs : List Given} :
    (a.given ++ g :: gs).Perm b.given ↔
      a.find? g.switch? = .none ∧ ((a.put g).given ++ gs).Perm b.given := by
  have hput : a.find? g.switch? = .none → ((a.put g).given ++ gs).Perm (a.given ++ g :: gs) :=
    fun h => ((perm_given_put h).append_right gs).trans List.perm_middle.symm
  constructor
  · intro h
    have hnodup : (a.given.map Given.switch? ++ (g :: gs).map Given.switch?).Nodup := by
      rw [← List.map_append]
      exact (h.map Given.switch?).nodup_iff.2 b.nodup_given
    have hfree : a.find? g.switch? = .none := find?_eq_none_iff.2 fun hmem =>
      (List.nodup_append.1 hnodup).2.2 _ hmem _ List.mem_cons_self rfl
    exact ⟨hfree, (hput hfree).trans h⟩
  · rintro ⟨hfree, h⟩
    exact (hput hfree).symm.trans h

/-- Whatever is given only once can be given. -/
theorem exists_perm_given_iff {gs : List Given} :
    (∃ a : Arguments, gs.Perm a.given) ↔ (gs.map Given.switch?).Nodup := by
  constructor
  · rintro ⟨a, hperm⟩
    exact (hperm.map Given.switch?).nodup_iff.2 a.nodup_given
  · intro hnodup
    induction gs with
    | nil => exact ⟨.none, .nil⟩
    | cons g gs ih =>
      obtain ⟨hnew, hrest⟩ := List.nodup_cons.1 hnodup
      obtain ⟨a, hperm⟩ := ih hrest
      have hfree : a.find? g.switch? = .none := by
        rwa [find?_eq_none_iff, ← (hperm.map Given.switch?).mem_iff]
      exact ⟨a.put g, (hperm.cons g).trans (perm_given_put hfree).symm⟩

end Arguments

end LocaleClock.CommandLine
