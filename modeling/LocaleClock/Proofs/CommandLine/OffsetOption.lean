import LocaleClock.Proofs.Calendar.OffsetTexts
import LocaleClock.Proofs.CommandLine.Editing

/-! Offsets in settings and options. The text of an offset is read up to the two digits of its
minutes. A text that goes on after them is accepted like the text before it and means the same, so
neither a setting nor an option is refused for it. -/

namespace LocaleClock

open Text
open CommandLine (Arguments)

section

variable {text text' : String}

/-- Of an offset in settings only what is read counts. -/
theorem Settings.validate_edited_congr (h : Offset.parse text' = Offset.parse text) (s : Settings)
    (a : Arguments) :
    (s.edited { a with offset := some text' }).validate =
      (s.edited { a with offset := some text }).validate := by
  simp only [Settings.validate, Settings.edited, Option.some_or, Settings.acceptOption, h]

theorem Formatter.ofSettings_edited_congr (h : Offset.parse text' = Offset.parse text)
    (s : Settings) (a : Arguments) :
    ofSettings (s.edited { a with offset := some text' }) =
      ofSettings (s.edited { a with offset := some text }) := by
  simp only [ofSettings, Settings.edited, Option.some_or, h]

theorem Formatter.override_congr (h : Offset.parse text' = Offset.parse text) (f : Formatter)
    (a : Arguments) :
    f.override { a with offset := some text' } = f.override { a with offset := some text } := by
  simp only [override, overrideOffset, h]

end

namespace Offset

/-- A text is an offset exactly when it is a name of the zero offset or starts with a signed form.
Of a text with a signed form nothing is passed over exactly when nothing stands after the form.
Whatever such a text goes on with, it is accepted and means the same, as an offset, as a setting and
as an option, although something is passed over as soon as it goes on with more than white space. -/
theorem offset_text_read_whole_iff (text : String) :
    (∀ o, parse text = .ok o ↔
      (IsZeroName (trim text.toList) ∧ o = utc) ∨
        ∃ form rest, trim text.toList = form ++ rest ∧ Spells o form) ∧
    ∀ o form rest, trim text.toList = form ++ rest → Spells o form →
      (IsReadWhole text ↔ rest = []) ∧
      ∀ suffix : String,
        parse (text ++ suffix) = .ok o ∧
        (IsReadWhole (text ++ suffix) ↔ IsReadWhole text ∧ allBlank suffix.toList = true) ∧
        ∀ (s : Settings) (f : Formatter) (a : Arguments),
          let given := fun value : String => { a with offset := some value }
          (s.edited (given (text ++ suffix))).validate = (s.edited (given text)).validate ∧
          Formatter.ofSettings (s.edited (given (text ++ suffix))) =
            Formatter.ofSettings (s.edited (given text)) ∧
          f.override (given (text ++ suffix)) = f.override (given text) := by
  refine ⟨fun o => parse_eq_ok_iff_spells, ?_⟩
  intro o form rest htext hform
  have hwhole : IsReadWhole text ↔ rest = [] := hform.isReadWhole_iff htext
  refine ⟨hwhole, ?_⟩
  intro suffix
  obtain ⟨rest', hrest', hempty⟩ := hform.trim_append htext suffix
  have hlonger : parse (text ++ suffix) = .ok o := hform.parse_append htext suffix
  have hsame : parse (text ++ suffix) = parse text := by
    rw [hlonger, parse_eq_ok_iff_spells.2 (.inr ⟨form, rest, htext, hform⟩)]
  refine ⟨hlonger, ?_, ?_⟩
  · rw [hform.isReadWhole_iff hrest', hempty, hwhole]
  · intro s f a given
    exact ⟨Settings.validate_edited_congr hsame s a, Formatter.ofSettings_edited_congr hsame s a,
      Formatter.override_congr hsame f a⟩

/-- West of Greenwich with the minus sign, several separators and a letter after the minutes: the
letter and the seconds after it are passed over, in the settings and on the command line. -/
theorem offset_text_read_whole_iff_western :
    let text := " \u221205 :30é"
    let form := '\u2212' :: '0' :: '5' :: ([' ', ':'] ++ ['3', '0'])
    let o : Offset := ⟨-19800, by decide⟩
    trim text.toList = form ++ ['é'] ∧ Spells o form ∧
      parse text = .ok o ∧ ¬ IsReadWhole text ∧ parse (text ++ ":15") = .ok o ∧
      ∀ (f : Formatter) (a : Arguments),
        (Settings.standard.edited { a with offset := some (text ++ ":15") }).validate =
          (Settings.standard.edited { a with offset := some text }).validate ∧
        f.override { a with offset := some (text ++ ":15") } =
          f.override { a with offset := some text } := by
  intro text form o
  have htext : trim text.toList = form ++ ['é'] := by decide +kernel
  have hseparators : ∀ s ∈ [' ', ':'], s = ':' ∨ isBlank s = true :=
    List.forall_mem_cons.2 ⟨.inr rfl, List.forall_mem_singleton.2 (.inl rfl)⟩
  have hform : Spells o form :=
    ⟨-1, 5, 30, .mk (by decide) (by decide) hseparators (by decide), by decide, by decide,
      by decide⟩
  obtain ⟨hread, hgoes⟩ := offset_text_read_whole_iff text
  obtain ⟨hwhole, happend⟩ := hgoes o form ['é'] htext hform
  obtain ⟨hlonger, -, hedits⟩ := happend ":15"
  refine ⟨htext, hform, (hread o).2 (.inr ⟨_, _, htext, hform⟩), ?_, hlonger, ?_⟩
  · rw [hwhole]
    exact List.cons_ne_nil _ _
  · intro f a
    exact ⟨(hedits .standard f a).1, (hedits .standard f a).2.2⟩

/-- Seconds after the minutes are passed over without an error. -/
theorem offset_text_not_read_whole :
    parse "+01:00" = .ok ⟨3600, by decide⟩ ∧ allBlank ":30".toList = false ∧
      parse ("+01:00" ++ ":30") = .ok ⟨3600, by decide⟩ ∧ ¬ IsReadWhole ("+01:00" ++ ":30") := by
  have hform : Spells ⟨3600, by decide⟩ ('+' :: '0' :: '1' :: ([':'] ++ ['0', '0'])) :=
    ⟨1, 1, 0, .mk (by decide) (by decide) (List.forall_mem_singleton.2 (.inl rfl)) (by decide),
      by decide, by decide, by decide⟩
  have hshort : trim "+01:00".toList = '+' :: '0' :: '1' :: ([':'] ++ ['0', '0']) ++ [] := by
    decide +kernel
  have hlong : trim ("+01:00" ++ ":30").toList =
      '+' :: '0' :: '1' :: ([':'] ++ ['0', '0']) ++ [':', '3', '0'] := by
    decide +kernel
  refine ⟨parse_eq_ok_iff_spells.2 (.inr ⟨_, _, hshort, hform⟩), by decide +kernel,
    parse_eq_ok_iff_spells.2 (.inr ⟨_, _, hlong, hform⟩), ?_⟩
  rw [hform.isReadWhole_iff hlong]
  exact List.cons_ne_nil _ _

end Offset

end LocaleClock
