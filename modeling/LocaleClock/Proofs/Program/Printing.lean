import LocaleClock.Program
import LocaleClock.Proofs.Log.Effects

/-! What is printed. Logging touches nothing but error output and files, so what a run prints for a
locale is the text that the formatter gives for the time of the host, on a line of its own. -/

namespace LocaleClock.Program

/-- Showing the date logs the records first and then prints. -/
theorem showDate_run (lib : Libraries) (logger : Option Log.Logger) (f : Formatter)
    (locale : String) (w : World) :
    (showDate lib logger f locale : StateM World Unit) w =
      let text := f.currentBy lib.conventions w.timeZone w.time locale
      let logged := ((Log.logAll logger (startRecord locale f :: text.records) :
        StateM World Unit) w).2
      ((), { logged with output := logged.output ++ (text.value ++ "\n") }) := by
  -- The first record leaves the time and the zone as they were, so the text is that of the start.
  have hstart := World.OnlyLogs.log logger (startRecord locale f)
  have hrun : (showDate lib logger f locale : StateM World Unit) w =
      let started := ((Log.log logger (startRecord locale f) : StateM World Unit) w).2
      let text := f.currentBy lib.conventions started.timeZone started.time locale
      let logged := ((Log.logAll logger text.records : StateM World Unit) started).2
      ((), { logged with output := logged.output ++ (text.value ++ "\n") }) := rfl
  rw [hrun]
  dsimp only
  rw [hstart.time_eq, hstart.timeZone_eq]
  rfl

theorem output_showDate (lib : Libraries) (logger : Option Log.Logger) (f : Formatter)
    (locale : String) (w : World) :
    ((showDate lib logger f locale : StateM World Unit) w).2.output =
      w.output ++ ((f.currentBy lib.conventions w.timeZone w.time locale).value ++ "\n") := by
  rw [showDate_run]
  dsimp only
  rw [(World.OnlyLogs.logAll logger _).output_eq]

end LocaleClock.Program
