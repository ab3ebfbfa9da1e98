import LocaleClock.Proofs.Pattern.Filling
import LocaleClock.Proofs.Text.Numbers

/-! What there is to be seen of a pattern. Whether an item can be shown depends on the item and, for
a preferred pattern, on the locale, never on the moment. The items that can be shown without
leaving a mark are the fraction of a whole second and words that the locale does not have. -/

namespace LocaleClock.Pattern

open LocaleClock.Locale Text

variable {c : Conventions} {m : Moment}

/-! ### What can be shown -/

/-- Holds of the items that can be shown after filling in. -/
def Item.isShowable : Item → Bool
  | .zone .lenient | .preferred _ => false
  | _ => true

theorem isSome_itemText? (item : Item) : (itemText? c m item).isSome = item.isShowable := by
  cases item with
  | zone z => cases z <;> rfl
  | _ => rfl

theorem isSome_itemsText? (items : List Item) :
    (itemsText? c m items).isSome = items.all Item.isShowable := by
  induction items with
  | nil => rfl
  | cons item items ih => rw [itemsText?_cons, isSome_both?, isSome_itemText?, ih, List.all_cons]

theorem isSome_filledText? (cs : List Char) :
    (filledText? c m cs).isSome = (items? cs).any (·.all Item.isShowable) := by
  unfold filledText?
  cases items? cs with
  | none => rfl
  | some items => exact isSome_itemsText? items

/-- Whether a pattern can be shown does not depend on the moment. -/
theorem isSome_render?_eq (c : Conventions) (m m' : Moment) (pattern : List Char) :
    (render? c m pattern).isSome = (render? c m' pattern).isSome := by
  rw [render?_eq_filledText?, render?_eq_filledText?, isSome_filledText?, isSome_filledText?]

/-- Holds of the items before filling in that can be shown in a locale: its own pattern is taken for
a preferred one. -/
def Item.isShowableIn (c : Conventions) : Item → Bool
  | .preferred p => (items? (own c p)).any (·.all Item.isShowable)
  | item => item.isShowable

theorem isSome_ownText? (item : Item) : (ownText? c m item).isSome = item.isShowableIn c := by
  cases item with
  | preferred p => exact isSome_filledText? (own c p)
  | _ => simp only [ownText?, isSome_itemText?, Item.isShowableIn]

theorem isSome_ownTexts? (items : List Item) :
    (ownTexts? c m items).isSome = items.all (·.isShowableIn c) := by
  induction items with
  | nil => rfl
  | cons item items ih => rw [ownTexts?, isSome_both?, isSome_ownText?, ih, List.all_cons]

/-! ### Texts that are never empty -/

theorem filled_ne_nil (width : Nat) (fill : Fill) (n : Nat) : filled width fill n ≠ [] := by
  cases fill with
  | none => exact digits_ne_nil n
  | blanks => exact padLeft_ne_nil (digits_ne_nil n) width ' '
  | zeros => exact zeroPadded_ne_nil width n

theorem filledSigned_ne_nil (width : Nat) (fill : Fill) (sign : Char) (n : Nat) :
    filledSigned width fill sign n ≠ [] := by
  cases fill with
  | none | zeros => exact List.cons_ne_nil _ _
  | blanks => exact padLeft_ne_nil (List.cons_ne_nil _ _) width ' '

theorem filledYear_ne_nil (fill : Fill) (year : Int) : filledYear fill year ≠ [] := by
  unfold filledYear
  split
  · exact filled_ne_nil 4 fill _
  · exact filledSigned_ne_nil 5 fill _ _

theorem filledPair_ne_nil (fill : Fill) (n : Nat) : filledPair fill n ≠ [] := by
  cases fill <;> simp only [filledPair, twoDigits]
  case zeros => exact List.cons_ne_nil _ _
  all_goals split <;> exact List.cons_ne_nil _ _

theorem numberText_ne_nil (m : Moment) (field : Field) (fill : Fill) :
    numberText m field fill ≠ [] := by
  cases field with
  | year | isoYear => exact filledYear_ne_nil fill _
  | quarter | weekday | isoWeekday => exact List.cons_ne_nil _ _
  | dayOfYear => exact filled_ne_nil 3 fill _
  | nanosecond => exact filled_ne_nil 9 fill _
  | timestamp =>
    simp only [numberText]
    split
    · exact filledSigned_ne_nil 9 fill '-' _
    · exact filled_ne_nil 9 fill _
  | _ => exact filledPair_ne_nil fill _

theorem fractionDigits_ne_nil (m : Moment) (places : Nat) : m.fractionDigits places ≠ [] :=
  zeroPadded_ne_nil places _

theorem exactText_ne_nil (o : Offset) : o.exactText ≠ [] := by
  unfold Offset.exactText
  split <;> exact List.cons_ne_nil _ _

theorem zoneText?_ne_nil (o : Offset) (z : Zone) : zoneText? o z ≠ some [] := by
  cases z with
  | name => simp [zoneText?, exactText_ne_nil]
  | lenient => simp [zoneText?]
  | plain | colon | full | hours =>
    simp [zoneText?, Offset.plainText, Offset.colonText, Offset.fullText, Offset.hoursText]

theorem stampText_ne_nil (m : Moment) : m.stampText ≠ [] := by
  simp [Moment.stampText]

/-! ### Silent items -/

/-- The fraction in as few places as needed is left out for whole seconds only. -/
theorem fractionText_eq_nil_iff (m : Moment) (point : List Char) :
    m.fractionText point = [] ↔ m.fraction = 0 := by
  unfold Moment.fractionText
  split
  case isTrue h => simp [h]
  case isFalse h =>
    split
    · simp [h, fractionDigits_ne_nil]
    · split <;> simp [h, fractionDigits_ne_nil]

/-- Holds of the words that the conventions do not have for a moment. -/
def Word.isMissing (c : Conventions) (m : Moment) : Word → Bool
  | .dayHalf | .dayHalfSmall => (if m.isAfternoon then c.afternoon else c.morning).isEmpty
  | w => (wordText c m w).isEmpty

theorem wordText_eq_nil_iff (w : Word) : wordText c m w = [] ↔ w.isMissing c m = true := by
  cases w with
  | dayHalf => simp [wordText, Word.isMissing]
  | dayHalfSmall => simp [wordText, Word.isMissing, lowercase]
  | _ => simp [Word.isMissing]

/-- Holds of the items that are shown as nothing after filling in. -/
def Item.isSilent (c : Conventions) (m : Moment) : Item → Bool
  | .word w => w.isMissing c m
  | .fraction .asNeeded => m.fraction == 0
  | _ => false

theorem itemText?_eq_nil_iff (item : Item) :
    itemText? c m item = some [] ↔ item.isSilent c m = true := by
  cases item with
  | literal x => simp [itemText?, Item.isSilent]
  | number field fill => simp [itemText?, Item.isSilent, numberText_ne_nil]
  | word w => simp [itemText?, Item.isSilent, wordText_eq_nil_iff]
  | fraction f =>
    cases f <;>
      simp [itemText?, Item.isSilent, fractionText, fractionText_eq_nil_iff, fractionDigits_ne_nil]
  | zone z => simp [itemText?, Item.isSilent, zoneText?_ne_nil]
  | stamp => simp [itemText?, Item.isSilent, stampText_ne_nil]
  | preferred p => simp [itemText?, Item.isSilent]

theorem itemsText?_eq_nil_iff (items : List Item) :
    itemsText? c m items = some [] ↔ items.all (·.isSilent c m) = true := by
  induction items with
  | nil => simp
  | cons item items ih =>
    rw [itemsText?_cons, both?_eq_nil_iff, itemText?_eq_nil_iff, ih, List.all_cons,
      Bool.and_eq_true]

/-- Holds of the items before filling in that are shown as nothing in a locale. -/
def Item.isSilentIn (c : Conventions) (m : Moment) : Item → Bool
  | .preferred p => (items? (own c p)).any (·.all (·.isSilent c m))
  | item => item.isSilent c m

theorem ownText?_eq_nil_iff (item : Item) :
    ownText? c m item = some [] ↔ item.isSilentIn c m = true := by
  cases item with
  | preferred p =>
    simp only [ownText?, filledText?, Item.isSilentIn]
    cases items? (own c p) with
    | none => simp
    | some items => simpa using itemsText?_eq_nil_iff items
  | _ => simp only [ownText?, itemText?_eq_nil_iff, Item.isSilentIn]

theorem ownTexts?_eq_nil_iff (items : List Item) :
    ownTexts? c m items = some [] ↔ items.all (·.isSilentIn c m) = true := by
  induction items with
  | nil => simp [ownTexts?]
  | cons item items ih =>
    rw [ownTexts?, both?_eq_nil_iff, ownText?_eq_nil_iff, ih, List.all_cons, Bool.and_eq_true]

end LocaleClock.Pattern
