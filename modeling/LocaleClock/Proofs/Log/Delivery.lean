import LocaleClock.Host.World
import LocaleClock.Log.Logger
import LocaleClock.Proofs.Host.Files

/-! What log lines make of a host. They are added where log lines go, to error output or to a file
after what it held, and leave everything else as it was. Opening further files in between changes
none of that: it makes empty files and no directories, so the path of the log file leads to where it
led. -/

namespace LocaleClock.Log

open FileTree (HasDirectoriesOf)

/-! ### Lines -/

/-- The lines that a logger makes of records in a time zone, each made at its time. -/
def Logger.lines (l : Logger) (zone : TimeZone) (records : List (Instant × Record)) : String :=
  String.join ((records.filter fun r => l.threshold.admits r.2.severity).map fun r =>
    r.2.line (.of r.1 (zone r.1)) ++ "\n")

theorem Logger.lines_append (l : Logger) (zone : TimeZone) (first rest : List (Instant × Record)) :
    l.lines zone (first ++ rest) = l.lines zone first ++ l.lines zone rest := by
  simp [lines]

/-! ### Where lines go -/

/-- What adding text where log lines go makes of a host: error output ends in the text, or the file
does, after what it held. Nothing else changes, but empty files may be made. -/
inductive Delivered (w : World) (made : Place → Prop) (text : String) :
    Destination → World → Prop
  | errorOutput {files : FileTree} {time : Instant}
      (stays : ∀ q, files.StaysAt w.files made q) :
      Delivered w made text .errorOutput
        { w with files, time, errorOutput := w.errorOutput ++ text }
  | file {path : String} {place : Place} {content : Option ByteArray} {files : FileTree}
      {time : Instant}
      (opened : w.files.openFile w.current path = .ok (place, content))
      (holds : files.find? place = some (.file (content.getD .empty ++ text.toUTF8)))
      (stays : ∀ q, q ≠ place → files.StaysAt w.files made q) :
      Delivered w made text (.file path) { w with files, time }

namespace Delivered

variable {w v : World} {made : Place → Prop} {text : String} {d : Destination}

theorem atTime (h : Delivered w made text d v) (t : Instant) :
    Delivered w made text d { v with time := t } := by
  cases h with
  | errorOutput stays => exact .errorOutput stays
  | file opened holds stays => exact .file opened holds stays

theorem of_atTime {t : Instant} (h : Delivered { w with time := t } made text d v) :
    Delivered w made text d v := by
  cases h with
  | errorOutput stays => exact .errorOutput stays
  | file opened holds stays => exact .file opened holds stays

theorem current_eq (h : Delivered w made text d v) : v.current = w.current := by
  cases h <;> rfl

theorem timeZone_eq (h : Delivered w made text d v) : v.timeZone = w.timeZone := by
  cases h <;> rfl

/-- No directory is made and none is lost, so paths lead to where they led. -/
theorem find?_eq_directory_iff (h : Delivered w made text d v) (q : Place) :
    v.files.find? q = some .directory ↔ w.files.find? q = some .directory := by
  cases h with
  | errorOutput stays => exact (stays q).find?_eq_directory_iff
  | @file _ place content files _ opened holds stays =>
    obtain ⟨-, hfind⟩ := FileTree.openFile_eq_ok_iff.1 opened
    by_cases hq : q = place
    · subst hq
      change files.find? q = _ ↔ _
      rw [holds, hfind]
      cases content <;> simp
    · exact (stays q hq).find?_eq_directory_iff

theorem filePlace_iff (h : Delivered w made text d v) (path : String) (q : Place) :
    v.files.filePlace v.current path = .ok q ↔ w.files.filePlace w.current path = .ok q := by
  rw [h.current_eq]
  constructor
  · exact HasDirectoriesOf.filePlace fun q => (h.find?_eq_directory_iff q).1
  · exact HasDirectoriesOf.filePlace fun q => (h.find?_eq_directory_iff q).2

theorem opening (h : Delivered w made text d v) {path : String} {files : FileTree}
    (happend : v.files.append v.current path "" = .ok files)
    (hmade : ∀ q, w.files.filePlace w.current path = .ok q → made q) :
    Delivered w made text d { v with files } := by
  have hstays : ∀ q, files.StaysAt v.files made q := fun q =>
    (FileTree.staysAt_append_empty happend q).mono fun hq => hmade q ((h.filePlace_iff path q).1 hq)
  cases h with
  | errorOutput stays => exact .errorOutput fun q => (stays q).trans (hstays q)
  | file opened holds stays =>
    exact .file opened ((hstays _).find?_eq_some holds) fun q hq => (stays q hq).trans (hstays q)

theorem addLine (h : Delivered w made text d v) (line : String) :
    Delivered w made (text ++ (line ++ "\n")) d ((d.addLine line : StateM World Unit) v).2 := by
  have hplace := h.filePlace_iff
  cases h with
  | @errorOutput files time stays =>
    have hrun : ((Destination.errorOutput.addLine line : StateM World Unit)
        { w with files, time, errorOutput := w.errorOutput ++ text }).2 =
          { w with files, time, errorOutput := w.errorOutput ++ (text ++ (line ++ "\n")) } := by
      rw [← String.append_assoc]
      rfl
    rw [hrun]
    exact .errorOutput stays
  | @file path place content files time opened holds stays =>
    obtain ⟨hpath, -⟩ := FileTree.openFile_eq_ok_iff.1 opened
    have happend : files.append w.current path (line ++ "\n") = .ok (files.put place (.file
        (content.getD .empty ++ text.toUTF8 ++ (line ++ "\n").toUTF8))) :=
      FileTree.append_eq_ok_iff.2 ⟨place, some _,
        FileTree.openFile_eq_ok_iff.2 ⟨(hplace path place).2 hpath, holds⟩, rfl⟩
    have hrun : ((Destination.addLine (.file path) line : StateM World Unit)
        { w with files, time }).2 = _ := congrArg Prod.snd (World.append_run happend)
    have hjoin : (text ++ (line ++ "\n")).toUTF8 = text.toUTF8 ++ (line ++ "\n").toUTF8 :=
      String.toByteArray_append
    rw [hrun]
    refine .file opened ?_ fun q hq => ?_
    · rw [hjoin, ← ByteArray.append_assoc]
      exact FileTree.find?_put_self (FileTree.ne_nil_of_filePlace hpath) _
    · exact (stays q hq).trans (.inl (FileTree.find?_put_of_ne hq _))

theorem log {l : Logger} (h : Delivered w made text l.destination v) (r : Record) :
    Delivered w made (text ++ l.lines w.timeZone [(v.time, r)]) l.destination
      ((Log.log (some l) r : StateM World Unit) v).2 := by
  rw [← h.timeZone_eq]
  cases hadmits : l.threshold.admits r.severity with
  | true =>
    have hlines : l.lines v.timeZone [(v.time, r)] = r.line v.localTime ++ "\n" := by
      simp [Logger.lines, hadmits, World.localTime]
    have hrun : ((Log.log (some l) r : StateM World Unit) v).2 =
        ((l.destination.addLine (r.line v.localTime) : StateM World Unit) v).2 := by
      simp only [Log.log, hadmits, if_true]
      rfl
    rw [hlines, hrun]
    exact h.addLine _
  | false =>
    have hlines : l.lines v.timeZone [(v.time, r)] = "" := by simp [Logger.lines, hadmits]
    have hrun : ((Log.log (some l) r : StateM World Unit) v).2 = v := by
      simp [Log.log, hadmits]
      rfl
    rw [hlines, hrun, String.append_empty]
    exact h

end Delivered

end LocaleClock.Log
