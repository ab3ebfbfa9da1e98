/-! The characters of a text from its bytes. The bytes of an ASCII text number its characters, so it
needs no decoding. What is checked of many fixed texts is checked of their characters read this
way. -/

namespace LocaleClock.Text

def bytesOf (s : String) : List UInt8 := s.toByteArray.data.toList

/-- The characters of a text. Only a text that is not ASCII is decoded. -/
def charactersOf (s : String) : List Char :=
  if (bytesOf s).all (· < 128) then (bytesOf s).map fun b => Char.ofNat b.toNat else s.toList

theorem utf8EncodeChar_ofNat {b : UInt8} (h : b < 128) :
    String.utf8EncodeChar (Char.ofNat b.toNat) = [b] := by
  have hlt : b.toNat < 128 := UInt8.lt_iff_toNat_lt.1 h
  have hvalid : b.toNat.isValidChar := .inl (by omega)
  have hchar : Char.ofNat b.toNat = Char.ofNatAux b.toNat hvalid := dif_pos hvalid
  have hval : (Char.ofNat b.toNat).val.toNat = b.toNat := congrArg Char.toNat hchar
  have hle : b.toNat ≤ 127 := by omega
  simp [String.utf8EncodeChar, hval, hle]

theorem flatMap_utf8EncodeChar {bs : List UInt8} (h : ∀ b ∈ bs, b < 128) :
    (bs.map fun b => Char.ofNat b.toNat).flatMap String.utf8EncodeChar = bs := by
  induction bs with
  | nil => rfl
  | cons b bs ih =>
    obtain ⟨hb, hbs⟩ := List.forall_mem_cons.1 h
    rw [List.map_cons, List.flatMap_cons, utf8EncodeChar_ofNat hb, ih hbs, List.singleton_append]

theorem charactersOf_eq (s : String) : charactersOf s = s.toList := by
  unfold charactersOf
  split
  case isFalse => rfl
  case isTrue h =>
    have hbytes : ∀ b ∈ bytesOf s, b < 128 := by simpa using h
    have hencoded : String.ofList ((bytesOf s).map fun b => Char.ofNat b.toNat) = s := by
      apply String.toByteArray_inj.1
      apply ByteArray.ext
      rw [String.toByteArray_ofList, List.utf8Encode, flatMap_utf8EncodeChar hbytes,
        List.data_toByteArray, bytesOf, Array.toArray_toList]
    conv => rhs; rw [← hencoded, String.toList_ofList]

end LocaleClock.Text
