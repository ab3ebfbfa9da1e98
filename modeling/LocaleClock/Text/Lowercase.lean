/-! Lower case for the alphabets with two cases that day-half texts are written in: Latin, Greek
and Cyrillic. Letters of other scripts have one case and stay as they are. -/

namespace LocaleClock.Text

/-- The distance from a capital letter to its small letter, zero for every other character. -/
def lowercaseShift (n : Nat) : Nat :=
  if 0x41 ≤ n && n ≤ 0x5A then 32
  else if 0xC0 ≤ n && n ≤ 0xDE && n != 0xD7 then 32
  else if 0x100 ≤ n && n ≤ 0x137 && n != 0x130 then 1 - n % 2
  else if 0x139 ≤ n && n ≤ 0x148 then n % 2
  else if 0x14A ≤ n && n ≤ 0x177 then 1 - n % 2
  else if 0x179 ≤ n && n ≤ 0x17E then n % 2
  else if 0x391 ≤ n && n ≤ 0x3AB && n != 0x3A2 then 32
  else if 0x400 ≤ n && n ≤ 0x40F then 80
  else if 0x410 ≤ n && n ≤ 0x42F then 32
  else 0

def lowercaseChar (c : Char) : Char := Char.ofNat (c.toNat + lowercaseShift c.toNat)

def lowercase (cs : List Char) : List Char := cs.map lowercaseChar

end LocaleClock.Text
