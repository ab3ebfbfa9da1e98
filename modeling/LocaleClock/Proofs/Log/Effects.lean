import LocaleClock.Host.World
import LocaleClock.Log.Logger

/-! Logging touches nothing but error output and files. -/

namespace LocaleClock.World

/-- Holds of what changes at most error output and files. -/
def OnlyLogs {α : Type} (x : StateM World α) : Prop :=
  ∀ w, ∃ files errorOutput, (x w).2 = { w with files, errorOutput }

namespace OnlyLogs

section Parts

variable {α : Type} {x : StateM World α} (h : OnlyLogs x) (w : World)

include h

theorem time_eq : (x w).2.time = w.time := by
  obtain ⟨files, errorOutput, hx⟩ := h w
  rw [hx]

theorem timeZone_eq : (x w).2.timeZone = w.timeZone := by
  obtain ⟨files, errorOutput, hx⟩ := h w
  rw [hx]

theorem output_eq : (x w).2.output = w.output := by
  obtain ⟨files, errorOutput, hx⟩ := h w
  rw [hx]

end Parts

theorem pure {α : Type} (a : α) : OnlyLogs (Pure.pure a) := fun w => ⟨w.files, w.errorOutput, rfl⟩

theorem bind {α β : Type} {x : StateM World α} {f : α → StateM World β} (hx : OnlyLogs x)
    (hf : ∀ a, OnlyLogs (f a)) : OnlyLogs (x >>= f) := by
  intro w
  obtain ⟨files, errorOutput, hfirst⟩ := hx w
  obtain ⟨files', errorOutput', hrest⟩ := hf (x w).1 { w with files, errorOutput }
  refine ⟨files', errorOutput', ?_⟩
  change (f (x w).1 (x w).2).2 = _
  rw [hfirst, hrest]

theorem tryFiles (change : FileTree → Place → Except FileError FileTree) :
    OnlyLogs (World.tryFiles change) := by
  intro w
  unfold World.tryFiles
  split
  · exact ⟨_, _, rfl⟩
  · exact ⟨_, _, rfl⟩

theorem addLine (d : Log.Destination) (line : String) : OnlyLogs (d.addLine line) := by
  cases d with
  | errorOutput => exact fun w => ⟨w.files, _, rfl⟩
  | file path => exact bind (tryFiles _) fun _ => pure _

theorem log (installed : Option Log.Logger) (r : Log.Record) : OnlyLogs (Log.log installed r) := by
  cases installed with
  | none => exact pure _
  | some l =>
    unfold Log.log
    dsimp only
    split
    · exact bind (fun w => ⟨_, _, rfl⟩) fun t => addLine _ _
    · exact pure _

theorem logAll (installed : Option Log.Logger) (records : List Log.Record) :
    OnlyLogs (Log.logAll installed records) := by
  induction records with
  | nil => exact pure _
  | cons r records ih => exact bind (log installed r) fun _ => ih

end OnlyLogs

end LocaleClock.World
