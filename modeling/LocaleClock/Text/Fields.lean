/-! The first of the fields that separator characters cut a text into. -/

namespace LocaleClock.Text

/-- The text before the first separator, all of it when there is none. -/
def firstField (sep : Char → Bool) (cs : List Char) : List Char := cs.takeWhile fun c => !sep c

theorem head?_splitOnP (sep : Char → Bool) (cs : List Char) :
    (cs.splitOnP sep).head? = some (firstField sep cs) := by
  induction cs with
  | nil => rfl
  | cons c cs ih =>
    rw [List.splitOnP_cons_eq_if_modifyHead]
    cases h : sep c with
    | true => simp [firstField, h]
    | false => simpa [firstField, h, List.head?_modifyHead] using ih

end LocaleClock.Text
