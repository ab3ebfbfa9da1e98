import LocaleClock.Proofs.Calendar.Moments
import LocaleClock.Proofs.Settings.RoundTrip

/-! The settings file for a start is read as the standard settings. All that it has beyond their
document is comments: one at the start with the date, the hints, each on a line of its own after a
header, and one at the end. -/

namespace LocaleClock

open Toml (isPlainChar)

/-! ### Dates -/

theorem isPlainChar_of_isDigit {c : Char} (h : c.isDigit = true) : isPlainChar c = true := by
  have hrange := Text.toNat_of_isDigit h
  simp only [isPlainChar, Bool.or_eq_true, Bool.and_eq_true, decide_eq_true_eq, bne_iff_ne]
  exact .inr ⟨by omega, by omega⟩

theorem Moment.isPlainChar_of_mem_dateText {t : Instant} {o : Offset} :
    ∀ c ∈ (Moment.of t o).dateText, isPlainChar c = true := by
  intro c h
  obtain hdigit | rfl | rfl := isDigit_or_of_mem_dateText (Date.isValid_ofDays _) c h
  · exact isPlainChar_of_isDigit hdigit
  · decide
  · decide

namespace Settings

open Toml

variable {date : List Char}

/-! ### Comments -/

theorem isTrivia_templateHead (hdate : ∀ c ∈ date, isPlainChar c = true) :
    IsTrivia (templateHead date) := by
  have hopening : "# datestamp Configuration File\n# Generated on ".toList =
      '#' :: " datestamp Configuration File".toList ++ ['\n'] ++
        '#' :: " Generated on ".toList := by
    decide +kernel
  have hhead : templateHead date = ('#' :: " datestamp Configuration File".toList ++ ['\n']) ++
      ('#' :: (" Generated on ".toList ++ date) ++ ['\n']) ++ List.replicate 1 '\n' := by
    refine (congrArg (· ++ date ++ ['\n', '\n']) hopening).trans ?_
    simp only [List.append_assoc, List.cons_append, List.nil_append, List.replicate]
  have hfirst : IsTrivia ('#' :: " datestamp Configuration File".toList ++ ['\n']) :=
    isTrivia_comment (List.all_eq_true.1 (by decide))
  have hsecond : IsTrivia ('#' :: (" Generated on ".toList ++ date) ++ ['\n']) := by
    refine isTrivia_comment fun c hc => ?_
    have hwords : " Generated on ".toList.all isPlainChar = true := by decide
    obtain hc | hc := List.mem_append.1 hc
    · exact List.all_eq_true.1 hwords c hc
    · exact hdate c hc
  rw [hhead]
  exact (hfirst.append hsecond).append (isTrivia_lineBreaks 1)

theorem isTrivia_hintAfter (line : List Char) : IsTrivia (hintAfter line) := by
  unfold hintAfter
  split
  · have hplain : " utc_offset = \"+01:00\"".toList.all isPlainChar = true := by decide
    exact isTrivia_comment (List.all_eq_true.1 hplain)
  · split
    · have hplain : " file = \"/tmp/datestamp.log\"".toList.all isPlainChar = true := by decide
      exact isTrivia_comment (List.all_eq_true.1 hplain)
    · exact isTrivia_nil

theorem statements?_templateTail : statements? templateTail = some [] := by
  have htrivia : skipTrivia false templateTail = some [] := by decide +kernel
  rw [statements?, htrivia]
  rfl

/-! ### The file -/

/-- The lines between the first and the last comment. -/
theorem flatMap_linesOf_document :
    ((linesOf standard.document.toList).flatMap fun line => line ++ '\n' :: hintAfter line) =
      headerLine ["formatter"] ++
      (hintAfter "[formatter]".toList ++ pairLine ("format", .text Formatter.defaultPattern)) ++
      pairLine ("default_locale", .text "en_US") ++
      (List.replicate 1 '\n' ++ headerLine ["locales"]) ++
      (List.replicate 1 '\n' ++ headerLine ["logging"]) ++
      (hintAfter "[logging]".toList ++ pairLine ("enabled", .boolean false)) ++
      pairLine ("level", .text "info") := by
  decide +kernel

/-- Between its comments the file has the statements of the standard document. -/
theorem isReadAs_template (hdate : ∀ c ∈ date, isPlainChar c = true) :
    IsReadAs (templateHead date ++
        (linesOf standard.document.toList).flatMap fun line => line ++ '\n' :: hintAfter line)
      (standard.blocks.flatMap Block.statements) := by
  have hheader {before : List Char} (hbefore : IsTrivia before) (key : String) :
      IsReadAs (before ++ headerLine [key]) [.header (.ofKeys [key])] :=
    isReadAs_headerLine hbefore (List.cons_ne_nil _ _) (by simp [maxDepth])
  have hhint (line : List Char) (p : String × Scalar) :
      IsReadAs (hintAfter line ++ pairLine p) [.pair ⟨[], p.1⟩ p.2.value] :=
    isReadAs_pairLine (isTrivia_hintAfter line) p
  rw [flatMap_linesOf_document]
  simp only [← List.append_assoc (templateHead date)]
  exact ((((((hheader (isTrivia_templateHead hdate) "formatter").append
    (hhint _ ("format", .text Formatter.defaultPattern))).append
    (isReadAs_pairLine isTrivia_nil ("default_locale", .text "en_US"))).append
    (hheader (isTrivia_lineBreaks 1) "locales")).append
    (hheader (isTrivia_lineBreaks 1) "logging")).append
    (hhint _ ("enabled", .boolean false))).append
    (isReadAs_pairLine isTrivia_nil ("level", .text "info"))

theorem statements?_template (hdate : ∀ c ∈ date, isPlainChar c = true) :
    statements? (template date).toList = some (standard.blocks.flatMap Block.statements) := by
  rw [template, String.toList_ofList]
  refine (isReadAs_template hdate templateTail).trans ?_
  rw [statements?_templateTail, Option.map_some, List.append_nil]

theorem parse?_template (hdate : ∀ c ∈ date, isPlainChar c = true) :
    Settings.parse? (template date) = some standard := by
  have hmark : skipMark (template date).toList = (template date).toList := by
    rw [template, String.toList_ofList]
    rfl
  rw [Settings.parse?, Toml.parse?, hmark, statements?_template hdate, Option.bind_some,
    build?_blocks, Option.bind_some, ofEntries?_rootEntries]

theorem validate_standard : standard.validate = .ok () := by decide +kernel

theorem ofText_template (path : String) (t : Instant) (o : Offset) :
    ofText path (template (Moment.of t o).dateText) = .ok standard := by
  rw [ofText, parse?_template Moment.isPlainChar_of_mem_dateText]
  simp only [validate_standard]

end Settings

end LocaleClock
