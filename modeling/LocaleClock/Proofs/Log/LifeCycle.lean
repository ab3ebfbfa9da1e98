import LocaleClock.Proofs.Log.Delivery
import LocaleClock.Proofs.Log.Effects

/-! The life of a process's logger. Until a call can install one nothing happens. The first call
that can decides for good which records are kept and where their lines go; every later call that
asks for a logger fails, and makes at most an empty file. From the installation on, each record that
is kept is one line, in order, after what was there before. -/

namespace LocaleClock.Log

/-! ### Setting up -/

/-- Holds of settings that ask for a logger and can have it: their level is one, and their file, if
they have one, can be opened. -/
structure CanInstall (w : World) (s : Settings.Logging) (verbose : Bool) (l : Logger) : Prop where
  active : (s.enabled || verbose) = true
  threshold : if verbose then l.threshold = .upTo .debug
    else Threshold.parse? s.level = some l.threshold
  destination : l.destination = match s.file with
    | none => .errorOutput
    | some path => .file path
  opens : ∀ path, s.file = some path → ∃ opened, w.files.openFile w.current path = .ok opened

theorem wantedThreshold_eq_ok_iff {s : Settings.Logging} {verbose : Bool} {threshold : Threshold} :
    wantedThreshold s verbose = .ok threshold ↔
      if verbose then threshold = .upTo .debug else Threshold.parse? s.level = some threshold := by
  cases verbose with
  | true => simp [wantedThreshold, eq_comm]
  | false =>
    simp only [wantedThreshold, parseLevel, Bool.false_eq_true, if_false]
    cases Threshold.parse? s.level <;> simp

/-- Holds of the place of the file that settings name. -/
def IsOwnFile (w : World) (s : Settings.Logging) (q : Place) : Prop :=
  ∃ path, s.file = some path ∧ w.files.filePlace w.current path = .ok q

/-- Where log lines are to go, with the files after that was opened. -/
def openedDestination (w : World) : Option String → Except SetupError (Destination × FileTree)
  | none => .ok (.errorOutput, w.files)
  | some path =>
    match w.files.append w.current path "" with
    | .ok files => .ok (.file path, files)
    | .error e => .error (.unopenable path e)

theorem openDestination_run (file : Option String) (w : World) :
    (openDestination file : StateM World (Except SetupError Destination)) w =
      match openedDestination w file with
      | .ok (d, files) => (.ok d, { w with files })
      | .error e => (.error e, w) := by
  cases file with
  | none => rfl
  | some path =>
    simp only [openDestination, World.bind_run, World.openForAppending_run, openedDestination]
    cases w.files.append w.current path "" <;> rfl

theorem setUp_of_inactive (installed : Option Logger) {s : Settings.Logging} {verbose : Bool}
    (h : (s.enabled || verbose) = false) (w : World) :
    (setUp installed s verbose : StateM World _) w = (.ok installed, w) := by
  obtain ⟨he, hv⟩ := Bool.or_eq_false_iff.1 h
  simp [setUp, he, hv]
  rfl

/-- The level is looked at first, then the file is opened, and only then does it matter whether a
logger is installed. -/
theorem setUp_of_active (installed : Option Logger) {s : Settings.Logging} {verbose : Bool}
    (h : (s.enabled || verbose) = true) (w : World) :
    (setUp installed s verbose : StateM World _) w =
      match wantedThreshold s verbose with
      | .error e => (.error e, w)
      | .ok threshold =>
        match openedDestination w s.file with
        | .error e => (.error e, w)
        | .ok (destination, files) =>
          if installed.isSome then (.error .alreadyInstalled, { w with files })
          else (.ok (some ⟨threshold, destination⟩),
            ((Log.log (some ⟨threshold, destination⟩) (setupRecord threshold) :
              StateM World Unit) { w with files }).2) := by
  have hgo : (!s.enabled && !verbose) = false := by
    rw [← Bool.not_or, h]
    rfl
  simp only [setUp, hgo, Bool.false_eq_true, if_false]
  cases wantedThreshold s verbose with
  | error e => rfl
  | ok threshold =>
    simp only [World.bind_run, openDestination_run]
    cases openedDestination w s.file with
    | error e => rfl
    | ok r => cases installed <;> rfl

theorem append_of_openedDestination {w : World} {path : String} {d : Destination}
    {files : FileTree} (h : openedDestination w (some path) = .ok (d, files)) :
    d = .file path ∧ w.files.append w.current path "" = .ok files := by
  unfold openedDestination at h
  dsimp only at h
  split at h
  case h_1 files' happend =>
    cases h
    exact ⟨rfl, happend⟩
  case h_2 => cases h

theorem canInstall_iff {w : World} {s : Settings.Logging} {verbose : Bool} {l : Logger} :
    CanInstall w s verbose l ↔
      (s.enabled || verbose) = true ∧ wantedThreshold s verbose = .ok l.threshold ∧
        ∃ files, openedDestination w s.file = .ok (l.destination, files) := by
  constructor
  · rintro ⟨hactive, hlevel, hdestination, hopens⟩
    refine ⟨hactive, wantedThreshold_eq_ok_iff.2 hlevel, ?_⟩
    cases hfile : s.file with
    | none =>
      rw [hfile] at hdestination
      exact ⟨w.files, by rw [hdestination]; rfl⟩
    | some path =>
      rw [hfile] at hdestination
      obtain ⟨⟨p, content⟩, hopen⟩ := hopens path hfile
      have happend : w.files.append w.current path "" =
          .ok (w.files.put p (.file (content.getD .empty ++ "".toUTF8))) :=
        FileTree.append_eq_ok_iff.2 ⟨p, content, hopen, rfl⟩
      exact ⟨_, by rw [hdestination, openedDestination, happend]⟩
  · rintro ⟨hactive, hwanted, files, hopened⟩
    have hlevel := wantedThreshold_eq_ok_iff.1 hwanted
    cases hfile : s.file with
    | none =>
      rw [hfile] at hopened
      have hd : .errorOutput = l.destination := congrArg Prod.fst (Except.ok.inj hopened)
      refine ⟨hactive, hlevel, by rw [hfile, hd], fun path hpath => ?_⟩
      cases hfile.symm.trans hpath
    | some path =>
      rw [hfile] at hopened
      obtain ⟨hd, happend⟩ := append_of_openedDestination hopened
      obtain ⟨p, content, hopen, -⟩ := FileTree.append_eq_ok_iff.1 happend
      refine ⟨hactive, hlevel, by rw [hfile, hd], fun path' hpath => ?_⟩
      cases hfile.symm.trans hpath
      exact ⟨_, hopen⟩

/-- The settings decide which logger it is; the host only decides whether it can be installed. -/
theorem CanInstall.unique {w v : World} {s : Settings.Logging} {verbose : Bool} {l l' : Logger}
    (h : CanInstall w s verbose l) (h' : CanInstall v s verbose l') : l = l' := by
  obtain ⟨threshold, destination⟩ := l
  obtain ⟨threshold', destination'⟩ := l'
  have hthreshold := (wantedThreshold_eq_ok_iff.2 h.threshold).symm.trans
    (wantedThreshold_eq_ok_iff.2 h'.threshold)
  cases hthreshold
  cases h.destination.trans h'.destination.symm
  rfl

/-- Setting up does nothing if no logger is wanted, and nothing but fail if none can be installed.
Otherwise it opens where lines go, and then fails for the logger that is there already, or installs
one and logs its first record. -/
theorem setUp_cases (installed : Option Logger) (s : Settings.Logging) (verbose : Bool)
    (w : World) :
    ((s.enabled || verbose) = false ∧
      (setUp installed s verbose : StateM World _) w = (.ok installed, w)) ∨
    ((s.enabled || verbose) = true ∧ (∀ l, ¬ CanInstall w s verbose l) ∧
      ∃ e, (setUp installed s verbose : StateM World _) w = (.error e, w)) ∨
    ∃ l files, CanInstall w s verbose l ∧
      openedDestination w s.file = .ok (l.destination, files) ∧
      (setUp installed s verbose : StateM World _) w =
        if installed.isSome then (.error .alreadyInstalled, { w with files })
        else (.ok (some l), ((Log.log (some l) (setupRecord l.threshold) : StateM World Unit)
          { w with files }).2) := by
  cases hactive : s.enabled || verbose with
  | false => exact .inl ⟨rfl, setUp_of_inactive _ hactive w⟩
  | true =>
    right
    rw [setUp_of_active _ hactive]
    cases hlevel : wantedThreshold s verbose with
    | error e =>
      refine .inl ⟨rfl, fun l h => ?_, e, rfl⟩
      cases hlevel.symm.trans (canInstall_iff.1 h).2.1
    | ok threshold =>
      cases hopened : openedDestination w s.file with
      | error e =>
        refine .inl ⟨rfl, fun l h => ?_, e, rfl⟩
        obtain ⟨-, -, files, hfiles⟩ := canInstall_iff.1 h
        cases hopened.symm.trans hfiles
      | ok r =>
        obtain ⟨destination, files⟩ := r
        exact .inr ⟨⟨threshold, destination⟩, files,
          canInstall_iff.2 ⟨hactive, hlevel, files, hopened⟩, rfl, rfl⟩

theorem canInstall_atTime_iff {w : World} {s : Settings.Logging} {verbose : Bool} {l : Logger}
    (t : Instant) : CanInstall { w with time := t } s verbose l ↔ CanInstall w s verbose l := by
  constructor
  · exact fun h => ⟨h.active, h.threshold, h.destination, h.opens⟩
  · exact fun h => ⟨h.active, h.threshold, h.destination, h.opens⟩

/-- Right after it was opened, nothing was added where log lines go. -/
theorem delivered_of_openedDestination {w : World} {file : Option String} {d : Destination}
    {files : FileTree} (h : openedDestination w file = .ok (d, files)) (made : Place → Prop) :
    Delivered w made "" d { w with files } := by
  cases file with
  | none =>
    cases h
    have hstart : Delivered w made "" .errorOutput
        { w with errorOutput := w.errorOutput ++ "" } := .errorOutput fun q => .refl _ q
    rw [String.append_empty] at hstart
    exact hstart
  | some path =>
    obtain ⟨rfl, happend⟩ := append_of_openedDestination h
    obtain ⟨p, content, hopen, rfl⟩ := FileTree.append_eq_ok_iff.1 happend
    obtain ⟨hplace, -⟩ := FileTree.openFile_eq_ok_iff.1 hopen
    refine .file hopen ?_ fun q hq => .inl (FileTree.find?_put_of_ne hq _)
    exact FileTree.find?_put_self (FileTree.ne_nil_of_filePlace hplace) _

/-- Opening makes at most an empty file, the one that is named. -/
theorem staysAt_openedDestination {w : World} {s : Settings.Logging} {d : Destination}
    {files : FileTree} (h : openedDestination w s.file = .ok (d, files)) (q : Place) :
    files.StaysAt w.files (IsOwnFile w s) q := by
  cases hfile : s.file with
  | none =>
    rw [hfile] at h
    cases h
    exact .refl _ q
  | some path =>
    rw [hfile] at h
    obtain ⟨-, happend⟩ := append_of_openedDestination h
    exact (FileTree.staysAt_append_empty happend q).mono fun hplace => ⟨path, hfile, hplace⟩

theorem Delivered.openedDestination {w v : World} {made : Place → Prop} {text : String}
    {d d' : Destination} {s : Settings.Logging} {files : FileTree}
    (h : Delivered w made text d v) (hopened : Log.openedDestination v s.file = .ok (d', files))
    (hmade : ∀ q, IsOwnFile w s q → made q) : Delivered w made text d { v with files } := by
  cases hfile : s.file with
  | none =>
    rw [hfile] at hopened
    cases hopened
    exact h
  | some path =>
    rw [hfile] at hopened
    obtain ⟨-, happend⟩ := append_of_openedDestination hopened
    exact h.opening happend fun q hplace => hmade q ⟨path, hfile, hplace⟩

/-! ### Processes -/

structure Process where
  logger : Option Logger
  host : World

namespace Process

/-- The process when it is `t` on the host's clock. -/
def atTime (p : Process) (t : Instant) : Process := { p with host := { p.host with time := t } }

def answer (p : Process) (t : Instant) (c : Call) : Except SetupError Unit × Process :=
  let r := (c.perform p.logger : StateM World _) (p.atTime t).host
  (r.1.2, ⟨r.1.1, r.2⟩)

/-- Answers calls in order, each at its time. -/
def run (p : Process) (calls : List (Instant × Call)) : Process :=
  calls.foldl (fun p c => (p.answer c.1 c.2).2) p

@[simp] theorem run_nil (p : Process) : p.run [] = p := rfl

@[simp] theorem run_cons (p : Process) (t : Instant) (c : Call) (calls : List (Instant × Call)) :
    p.run ((t, c) :: calls) = (p.answer t c).2.run calls := rfl

theorem run_append (p : Process) (before after : List (Instant × Call)) :
    p.run (before ++ after) = (p.run before).run after := List.foldl_append

end Process

def Call.record? : Call → Option Record
  | .setUp _ _ => none
  | .log r => some r

/-- The records that calls log, each at its time. -/
def recordsOf (calls : List (Instant × Call)) : List (Instant × Record) :=
  calls.filterMap fun c => c.2.record?.map (c.1, ·)

/-- Holds of calls of which none can install a logger. -/
def NoneInstalls (w : World) (calls : List (Instant × Call)) : Prop :=
  ∀ t s verbose, (t, Call.setUp s verbose) ∈ calls → ∀ l, ¬ CanInstall w s verbose l

def IsNamedFile (w : World) (calls : List (Instant × Call)) (q : Place) : Prop :=
  ∃ t s verbose, (t, Call.setUp s verbose) ∈ calls ∧ IsOwnFile w s q

theorem IsNamedFile.mono {w : World} {calls calls' : List (Instant × Call)} {q : Place}
    (h : IsNamedFile w calls q) (hsub : calls ⊆ calls') : IsNamedFile w calls' q := by
  obtain ⟨t, s, verbose, hmem, hown⟩ := h
  exact ⟨t, s, verbose, hsub hmem, hown⟩

theorem recordsOf_cons (c : Instant × Call) (calls : List (Instant × Call)) :
    recordsOf (c :: calls) = recordsOf [c] ++ recordsOf calls := by
  rw [recordsOf, recordsOf, recordsOf, ← List.filterMap_append, List.singleton_append]

/-! ### One call -/

namespace Process

theorem answer_setUp (p : Process) (t : Instant) (s : Settings.Logging) (verbose : Bool) :
    p.answer t (.setUp s verbose) =
      match (setUp p.logger s verbose : StateM World _) (p.atTime t).host with
      | (.ok logger, w) => (.ok (), ⟨logger, w⟩)
      | (.error e, w) => (.error e, ⟨p.logger, w⟩) := by
  simp only [answer, Call.perform, World.bind_run]
  cases (setUp p.logger s verbose : StateM World _) (p.atTime t).host with
  | mk r w => cases r <;> rfl

/-- What a call for a logger does: nothing if none is wanted; nothing but fail if none can be
installed; and otherwise open where lines go, and then fail for the logger that is there already, or
install one and log its first record. -/
theorem answer_setUp_cases (p : Process) (t : Instant) (s : Settings.Logging) (verbose : Bool) :
    ((s.enabled || verbose) = false ∧ p.answer t (.setUp s verbose) = (.ok (), p.atTime t)) ∨
    ((s.enabled || verbose) = true ∧ (∀ l, ¬ CanInstall p.host s verbose l) ∧
      ∃ e, p.answer t (.setUp s verbose) = (.error e, p.atTime t)) ∨
    ∃ l files, CanInstall p.host s verbose l ∧
      openedDestination (p.atTime t).host s.file = .ok (l.destination, files) ∧
      ((p.logger ≠ none ∧ p.answer t (.setUp s verbose) =
          (.error .alreadyInstalled, ⟨p.logger, { (p.atTime t).host with files }⟩)) ∨
        (p.logger = none ∧ p.answer t (.setUp s verbose) =
          (.ok (), ⟨some l, ((Log.log (some l) (setupRecord l.threshold) : StateM World Unit)
            { (p.atTime t).host with files }).2⟩))) := by
  have hcan : ∀ {l : Logger}, CanInstall (p.atTime t).host s verbose l ↔
      CanInstall p.host s verbose l := canInstall_atTime_iff t
  rw [answer_setUp]
  obtain ⟨hinactive, hrun⟩ | ⟨hactive, hnone, e, hrun⟩ | ⟨l, files, hinstall, hopened, hrun⟩ :=
    setUp_cases p.logger s verbose (p.atTime t).host
  · rw [hrun]
    exact .inl ⟨hinactive, rfl⟩
  · rw [hrun]
    exact .inr (.inl ⟨hactive, fun l h => hnone l (hcan.2 h), e, rfl⟩)
  · rw [hrun]
    refine .inr (.inr ⟨l, files, hcan.1 hinstall, hopened, ?_⟩)
    cases p.logger with
    | none => exact .inr ⟨rfl, rfl⟩
    | some l => exact .inl ⟨nofun, rfl⟩

theorem answer_of_inactive (p : Process) (t : Instant) {s : Settings.Logging} {verbose : Bool}
    (h : (s.enabled || verbose) = false) :
    p.answer t (.setUp s verbose) = (.ok (), p.atTime t) := by
  obtain ⟨-, hanswer⟩ | ⟨hactive, -⟩ | ⟨l, files, hcan, -⟩ := p.answer_setUp_cases t s verbose
  · exact hanswer
  · cases h.symm.trans hactive
  · cases h.symm.trans hcan.active

/-- A call that fails leaves the logger as it was, and changes the host by an empty file at most. -/
theorem answer_error {p : Process} {t : Instant} {s : Settings.Logging} {verbose : Bool}
    {e : SetupError} (h : (p.answer t (.setUp s verbose)).1 = .error e) :
    ∃ files, (p.answer t (.setUp s verbose)).2 = ⟨p.logger, { (p.atTime t).host with files }⟩ ∧
      ∀ q, files.StaysAt p.host.files (IsOwnFile p.host s) q := by
  obtain ⟨-, hanswer⟩ | ⟨-, -, e', hanswer⟩ |
      ⟨l, files, -, hopened, ⟨-, hanswer⟩ | ⟨-, hanswer⟩⟩ := p.answer_setUp_cases t s verbose
  · rw [hanswer] at h
    cases h
  · exact ⟨p.host.files, congrArg Prod.snd hanswer, fun q => .refl _ q⟩
  · exact ⟨files, congrArg Prod.snd hanswer, fun q => staysAt_openedDestination hopened q⟩
  · rw [hanswer] at h
    cases h

theorem answer_of_canInstall {p : Process} (hlogger : p.logger = none) (t : Instant)
    {s : Settings.Logging} {verbose : Bool} {l : Logger} (h : CanInstall p.host s verbose l)
    (made : Place → Prop) :
    ∃ v, p.answer t (.setUp s verbose) = (.ok (), ⟨some l, v⟩) ∧
      Delivered p.host made (l.lines p.host.timeZone [(t, setupRecord l.threshold)])
        l.destination v := by
  obtain ⟨hinactive, -⟩ | ⟨-, hnone, -⟩ |
      ⟨l', files, hcan, hopened, ⟨hsome, -⟩ | ⟨-, hanswer⟩⟩ := p.answer_setUp_cases t s verbose
  · cases hinactive.symm.trans h.active
  · exact absurd h (hnone l)
  · exact absurd hlogger hsome
  · cases h.unique hcan
    have hfirst := ((delivered_of_openedDestination hopened made).of_atTime).log
      (setupRecord l.threshold)
    rw [String.empty_append] at hfirst
    exact ⟨_, hanswer, hfirst⟩

theorem answer_eq_ok_iff {p : Process} (hlogger : p.logger = none) (t : Instant)
    {s : Settings.Logging} {verbose : Bool} (hactive : (s.enabled || verbose) = true) :
    (p.answer t (.setUp s verbose)).1 = .ok () ↔ ∃ l, CanInstall p.host s verbose l := by
  obtain ⟨hinactive, -⟩ | ⟨-, hnone, e, hanswer⟩ |
      ⟨l, files, hcan, -, ⟨hsome, -⟩ | ⟨-, hanswer⟩⟩ := p.answer_setUp_cases t s verbose
  · cases hinactive.symm.trans hactive
  · rw [hanswer]
    exact ⟨nofun, fun ⟨l, hcan⟩ => absurd hcan (hnone l)⟩
  · exact absurd hlogger hsome
  · rw [hanswer]
    exact ⟨fun _ => ⟨l, hcan⟩, fun _ => rfl⟩

theorem answer_of_installed {p : Process} {l : Logger} (hlogger : p.logger = some l) (t : Instant)
    {s : Settings.Logging} {verbose : Bool} (hactive : (s.enabled || verbose) = true) :
    ∃ e, (p.answer t (.setUp s verbose)).1 = .error e := by
  obtain ⟨hinactive, -⟩ | ⟨-, -, e, hanswer⟩ |
      ⟨l', files, -, -, ⟨-, hanswer⟩ | ⟨hnone, -⟩⟩ := p.answer_setUp_cases t s verbose
  · cases hinactive.symm.trans hactive
  · exact ⟨e, congrArg Prod.fst hanswer⟩
  · exact ⟨_, congrArg Prod.fst hanswer⟩
  · cases hlogger.symm.trans hnone

/-- With a logger installed, a call adds the line of its record where lines go, if it logs one that
is kept, and leaves the logger as it is. -/
theorem answer_delivered {w v : World} {made : Place → Prop} {text : String} {l : Logger}
    (h : Delivered w made text l.destination v) (t : Instant) (c : Call)
    (hmade : ∀ q, IsNamedFile w [(t, c)] q → made q) :
    ∃ v', (answer ⟨some l, v⟩ t c).2 = ⟨some l, v'⟩ ∧
      Delivered w made (text ++ l.lines w.timeZone (recordsOf [(t, c)])) l.destination v' := by
  cases c with
  | log r => exact ⟨_, rfl, (h.atTime t).log r⟩
  | setUp s verbose =>
    have hnothing : text ++ l.lines w.timeZone (recordsOf [(t, .setUp s verbose)]) = text :=
      String.append_empty
    have hown : ∀ q, IsOwnFile w s q → made q := fun q hq =>
      hmade q ⟨t, s, verbose, List.mem_singleton_self _, hq⟩
    rw [hnothing]
    obtain ⟨-, hanswer⟩ | ⟨-, -, e, hanswer⟩ |
        ⟨l', files, -, hopened, ⟨-, hanswer⟩ | ⟨hnone, -⟩⟩ :=
      answer_setUp_cases ⟨some l, v⟩ t s verbose
    · exact ⟨_, congrArg Prod.snd hanswer, h.atTime t⟩
    · exact ⟨_, congrArg Prod.snd hanswer, h.atTime t⟩
    · exact ⟨_, congrArg Prod.snd hanswer, (h.atTime t).openedDestination hopened hown⟩
    · cases hnone

/-! ### Runs -/

/-- Until a call can install a logger, calls change nothing. -/
theorem run_of_noneInstalls {p : Process} (hlogger : p.logger = none)
    {calls : List (Instant × Call)} (h : NoneInstalls p.host calls) :
    ∃ now, p.run calls = p.atTime now := by
  induction calls generalizing p with
  | nil => exact ⟨p.host.time, rfl⟩
  | cons c calls ih =>
    obtain ⟨t, c⟩ := c
    have hstep : (p.answer t c).2 = p.atTime t := by
      cases c with
      | log r =>
        obtain ⟨logger, host⟩ := p
        cases hlogger
        rfl
      | setUp s verbose =>
        obtain ⟨-, hanswer⟩ | ⟨-, -, e, hanswer⟩ | ⟨l, files, hcan, -⟩ :=
          p.answer_setUp_cases t s verbose
        · rw [hanswer]
        · rw [hanswer]
        · exact absurd hcan (h t s verbose List.mem_cons_self l)
    have hrest : NoneInstalls (p.atTime t).host calls := fun t' s verbose hmem l hcan =>
      h t' s verbose (List.mem_cons_of_mem _ hmem) l ((canInstall_atTime_iff t).1 hcan)
    obtain ⟨now, hnow⟩ := ih (p := p.atTime t) hlogger hrest
    exact ⟨now, by rw [run_cons, hstep, hnow]; rfl⟩

/-- After the installation each record that is kept is a line, in order. -/
theorem run_delivered {w v : World} {made : Place → Prop} {text : String} {l : Logger}
    (h : Delivered w made text l.destination v) {calls : List (Instant × Call)}
    (hmade : ∀ q, IsNamedFile w calls q → made q) :
    ∃ v', run ⟨some l, v⟩ calls = ⟨some l, v'⟩ ∧
      Delivered w made (text ++ l.lines w.timeZone (recordsOf calls)) l.destination v' := by
  induction calls generalizing v text with
  | nil =>
    have hnothing : text ++ l.lines w.timeZone (recordsOf []) = text := String.append_empty
    rw [hnothing]
    exact ⟨v, rfl, h⟩
  | cons c calls ih =>
    obtain ⟨t, c⟩ := c
    obtain ⟨v₁, hstep, hfirst⟩ := answer_delivered h t c fun q hq =>
      hmade q (hq.mono (List.cons_subset_cons _ (List.nil_subset _)))
    obtain ⟨v₂, hrest, hall⟩ := ih hfirst fun q hq => hmade q (hq.mono (List.subset_cons_self _ _))
    rw [String.append_assoc, ← Logger.lines_append, ← recordsOf_cons] at hall
    exact ⟨v₂, by rw [run_cons, hstep, hrest], hall⟩

end Process

/-- The life of a logger in a process that starts without one. As long as no call can install one,
nothing changes, and a call that asks for a logger succeeds exactly when it can install one. The
logger that is installed stays, with its threshold and where its lines go; every later call that
asks for one fails; and what is added where lines go is the line of its first record and of each
record that was logged since, of those that it keeps, in order, while everything else stays but for
empty files that later calls name. At any point a call that asks for no logger succeeds and changes
nothing, and one that fails changes nothing but that it may make the file it names, empty. -/
theorem logger_life_cycle (w : World) (before : List (Instant × Call))
    (waiting : NoneInstalls w before) :
    let start : Process := ⟨none, w⟩
    (∃ now, start.run before = start.atTime now) ∧
      (∀ t s verbose, (s.enabled || verbose) = true →
        (((start.run before).answer t (.setUp s verbose)).1 = .ok () ↔
          ∃ l, CanInstall w s verbose l)) ∧
      (∀ t s verbose l after, CanInstall w s verbose l →
        let now := start.run (before ++ (t, .setUp s verbose) :: after)
        now.logger = some l ∧
          currentThreshold now.logger = l.threshold ∧
          (∀ t' s' verbose', (s'.enabled || verbose') = true →
            ∃ e, (now.answer t' (.setUp s' verbose')).1 = .error e) ∧
          Delivered w (IsNamedFile w after)
            (l.lines w.timeZone ((t, setupRecord l.threshold) :: recordsOf after))
            l.destination now.host) ∧
      ∀ (p : Process) t s verbose,
        ((s.enabled || verbose) = false →
          p.answer t (.setUp s verbose) = (.ok (), p.atTime t)) ∧
        ∀ e, (p.answer t (.setUp s verbose)).1 = .error e →
          ∃ files,
            (p.answer t (.setUp s verbose)).2 = ⟨p.logger, { (p.atTime t).host with files }⟩ ∧
              ∀ q, files.StaysAt p.host.files (IsOwnFile p.host s) q := by
  intro start
  obtain ⟨now, hnow⟩ := Process.run_of_noneInstalls (p := start) rfl waiting
  refine ⟨⟨now, hnow⟩, ?answers, ?installed, ?any⟩
  case answers =>
    intro t s verbose hactive
    rw [hnow, Process.answer_eq_ok_iff rfl t hactive]
    exact exists_congr fun l => canInstall_atTime_iff now
  case installed =>
    intro t s verbose l after hcan now'
    obtain ⟨v, hanswer, hfirst⟩ := Process.answer_of_canInstall (p := start.atTime now) rfl t
      ((canInstall_atTime_iff now).2 hcan) (IsNamedFile w after)
    obtain ⟨v', hrest, hall⟩ := Process.run_delivered hfirst.of_atTime fun q hq => hq
    have hnow' : now' = ⟨some l, v'⟩ := calc
      now' = ((start.run before).answer t (.setUp s verbose)).2.run after :=
        start.run_append before _
      _ = Process.run ⟨some l, v⟩ after := by rw [hnow, hanswer]
      _ = ⟨some l, v'⟩ := hrest
    rw [hnow']
    refine ⟨rfl, rfl, fun t' s' verbose' => Process.answer_of_installed rfl t', ?_⟩
    have hlines := l.lines_append w.timeZone [(t, setupRecord l.threshold)] (recordsOf after)
    rw [← List.singleton_append, hlines]
    exact hall
  case any =>
    exact fun p t s verbose => ⟨p.answer_of_inactive t, fun e he => Process.answer_error he⟩

/-- A call that asks for a level there is not and one for a file that cannot be opened do nothing,
and verbose logging needs no level. What the file held stays before the lines. -/
theorem logger_life_cycle_verbose :
    let t : Instant := ⟨0, 0, by decide⟩
    let w : World :=
      { files := ⟨[(["work"], .directory), (["work", "a.log"], .file "old\n".toUTF8)]⟩
        current := ["work"], home := "", configHome := none, time := t, output := ""
        errorOutput := "" }
    let before : List (Instant × Call) := [
      (t, .setUp ⟨false, "info", none⟩ false),
      (t, .log ⟨.error, "lost", "too early"⟩),
      (t, .setUp ⟨true, "loud", none⟩ false),
      (t, .setUp ⟨true, "info", some "missing/a.log"⟩ false)]
    let after : List (Instant × Call) := [
      (t, .log ⟨.warn, "kept", "first"⟩),
      (t, .log ⟨.trace, "lost", "not severe"⟩),
      (t, .setUp ⟨true, "off", some "b.log"⟩ false),
      (t, .log ⟨.debug, "kept", "second"⟩)]
    let now := Process.run ⟨none, w⟩
      (before ++ (t, .setUp ⟨false, "loud", some "./a.log"⟩ true) :: after)
    NoneInstalls w before ∧ now.logger = some ⟨.upTo .debug, .file "./a.log"⟩ ∧
      Delivered w (IsNamedFile w after)
        ("[00:00:00.000] DEBUG datestamp::logger: Logging initialized at level DEBUG\n" ++
          "[00:00:00.000] WARN  kept: first\n[00:00:00.000] DEBUG kept: second\n")
        (.file "./a.log") now.host := by
  intro t w before after now
  have waiting : NoneInstalls w before := by
    intro t' s verbose hmem l hcan
    obtain ⟨hactive, hwanted, files, hopened⟩ := canInstall_iff.1 hcan
    simp only [before, List.mem_cons, List.not_mem_nil, or_false, Prod.mk.injEq, reduceCtorEq,
      and_false, false_or, Call.setUp.injEq] at hmem
    obtain ⟨-, rfl, rfl⟩ | ⟨-, rfl, rfl⟩ | ⟨-, rfl, rfl⟩ := hmem
    · cases hactive
    · cases hwanted
    · cases hopened
  have hcan :
      CanInstall w ⟨false, "loud", some "./a.log"⟩ true ⟨.upTo .debug, .file "./a.log"⟩ := by
    refine ⟨rfl, rfl, rfl, fun path hpath => ?_⟩
    cases hpath
    exact ⟨(["work", "a.log"], some "old\n".toUTF8), by rfl⟩
  obtain ⟨-, -, installed, -⟩ := logger_life_cycle w before waiting
  obtain ⟨hlogger, -, -, hdelivered⟩ := installed t _ _ _ after hcan
  refine ⟨waiting, hlogger, ?_⟩
  have hlines : Logger.lines ⟨.upTo .debug, .file "./a.log"⟩ w.timeZone
      ((t, setupRecord (.upTo .debug)) :: recordsOf after) =
        "[00:00:00.000] DEBUG datestamp::logger: Logging initialized at level DEBUG\n" ++
          "[00:00:00.000] WARN  kept: first\n[00:00:00.000] DEBUG kept: second\n" := by
    decide +kernel
  rw [hlines] at hdelivered
  exact hdelivered

end LocaleClock.Log
