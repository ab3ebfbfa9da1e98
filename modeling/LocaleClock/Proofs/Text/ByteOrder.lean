import Mathlib.Tactic.SplitIfs
import LocaleClock.Proofs.Text.Bytes

/-! The order of texts is the order of their bytes. Of two characters the smaller one has the
smaller bytes, and neither's bytes begin with the other's, so the first character that differs
decides in both orders. -/

namespace LocaleClock.Text

open String (utf8EncodeChar)

theorem bytesOf_eq (s : String) : bytesOf s = s.toList.flatMap utf8EncodeChar := by
  conv => lhs; rw [← String.ofList_toList (s := s)]
  rw [bytesOf, String.toByteArray_ofList, List.utf8Encode, List.data_toByteArray]

/-! ### One character -/

theorem ofNat_cons_lt_iff {m n : Nat} (hm : m < 256) (hn : n < 256) {bs bs' : List UInt8} :
    UInt8.ofNat m :: bs < UInt8.ofNat n :: bs' ↔ m < n ∨ m = n ∧ bs < bs' := by
  have hbyte : ∀ {k : Nat}, k < 256 → (UInt8.ofNat k).toNat = k := fun hk => by simpa using hk
  rw [List.cons_lt_cons_iff, UInt8.lt_iff_toNat_lt, ← UInt8.toNat_inj, hbyte hm, hbyte hn]

/-- The smaller of two numbers has the smaller digits to the base 64, from the fourth on down. -/
theorem digits_lt_of_lt {m n : Nat} (h : m < n) :
    m / 262144 < n / 262144 ∨ m / 262144 = n / 262144 ∧ (m / 4096 % 64 < n / 4096 % 64 ∨
      m / 4096 % 64 = n / 4096 % 64 ∧ (m / 64 % 64 < n / 64 % 64 ∨
        m / 64 % 64 = n / 64 % 64 ∧ m % 64 < n % 64)) := by
  have hlast : m / 64 < n / 64 ∨ m / 64 = n / 64 ∧ m % 64 < n % 64 := by omega
  have hnext : m / 64 < n / 64 →
      m / 4096 < n / 4096 ∨ m / 4096 = n / 4096 ∧ m / 64 % 64 < n / 64 % 64 := by omega
  have hfirst : m / 4096 < n / 4096 →
      m / 262144 < n / 262144 ∨ m / 262144 = n / 262144 ∧ m / 4096 % 64 < n / 4096 % 64 := by
    omega
  omega

/-- The bytes of two characters decide whatever comes after them. -/
theorem utf8EncodeChar_append_lt {a b : Char} (h : a < b) (rest rest' : List UInt8) :
    utf8EncodeChar a ++ rest < utf8EncodeChar b ++ rest' := by
  have hlt : a.val.toNat < b.val.toNat := UInt32.lt_iff_toNat_lt.1 h
  have hmax : b.val.toNat < 1114112 := by
    rcases b.valid with hb | hb <;> omega
  unfold utf8EncodeChar
  dsimp only
  generalize a.val.toNat = m at *
  generalize b.val.toNat = n at *
  have hdigits := digits_lt_of_lt hlt
  have hm : m / 262144 % 8 = m / 262144 := Nat.mod_eq_of_lt (by omega)
  have hn : n / 262144 % 8 = n / 262144 := Nat.mod_eq_of_lt (by omega)
  -- the first bytes tell how many there are; where as many follow, the digits decide
  split_ifs <;> simp only [List.cons_append, List.nil_append] <;>
    simp (disch := omega) only [ofNat_cons_lt_iff] <;> omega

theorem utf8EncodeChar_ne_nil (c : Char) : utf8EncodeChar c ≠ [] := by
  unfold utf8EncodeChar
  dsimp only
  split_ifs <;> exact List.cons_ne_nil _ _

/-! ### Texts -/

theorem flatMap_utf8EncodeChar_lt {cs ds : List Char} (h : cs < ds) :
    cs.flatMap utf8EncodeChar < ds.flatMap utf8EncodeChar := by
  induction ds generalizing cs with
  | nil => exact absurd h (List.not_lt_nil _)
  | cons d ds ih =>
    cases cs with
    | nil =>
      obtain ⟨byte, bytes, hd⟩ := List.exists_cons_of_ne_nil (utf8EncodeChar_ne_nil d)
      rw [List.flatMap_cons, hd]
      exact List.nil_lt_cons _ _
    | cons c cs =>
      rw [List.flatMap_cons, List.flatMap_cons]
      rcases List.cons_lt_cons_iff.1 h with hlt | ⟨rfl, hrest⟩
      · exact utf8EncodeChar_append_lt hlt _ _
      · exact List.append_left_lt (ih hrest)

theorem bytesOf_lt_iff {s t : String} : bytesOf s < bytesOf t ↔ s < t := by
  have hforward : ∀ {s t : String}, s < t → bytesOf s < bytesOf t := by
    intro s t h
    rw [bytesOf_eq, bytesOf_eq]
    exact flatMap_utf8EncodeChar_lt h
  refine ⟨fun h => ?_, hforward⟩
  have hnot : ¬ t < s := fun hback => List.lt_asymm h (hforward hback)
  have hne : s ≠ t := by
    rintro rfl
    exact List.lt_irrefl _ h
  exact Std.lt_of_le_of_ne (String.not_lt.1 hnot) hne

end LocaleClock.Text
