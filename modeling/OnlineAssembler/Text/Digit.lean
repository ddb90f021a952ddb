import OnlineAssembler.Text.Basic

namespace OnlineAssembler.Text

def hexValue? (c : Char) : Option Nat :=
  if '0' ≤ c ∧ c ≤ '9' then some (c.toNat - 48)
  else if 'A' ≤ c ∧ c ≤ 'F' then some (c.toNat - 55)
  else if 'a' ≤ c ∧ c ≤ 'f' then some (c.toNat - 87)
  else none

def isHexDigit (c : Char) : Bool := (hexValue? c).isSome

inductive LetterCase
  | upper
  | lower

def hexDigit (letters : LetterCase) (n : Nat) : Char :=
  if n < 10 then Char.ofNat (48 + n)
  else match letters with
    | .upper => Char.ofNat (55 + n)
    | .lower => Char.ofNat (87 + n)

theorem hexValue?_hexDigit (letters : LetterCase) {n : Nat} (h : n < 16) :
    hexValue? (hexDigit letters n) = some n := by
  have all : ∀ n < 16, hexValue? (hexDigit letters n) = some n := by cases letters <;> decide
  exact all n h

def hexDigits (letters : LetterCase) : Nat → Nat → Text
  | 0, _ => []
  | width + 1, n => hexDigits letters width (n / 16) ++ [hexDigit letters (n % 16)]

@[simp] theorem length_hexDigits (letters : LetterCase) (width n : Nat) :
    (hexDigits letters width n).length = width := by
  induction width generalizing n with
  | zero => rfl
  | succ width ih => simp [hexDigits, ih]

def hexNumber? (t : Text) : Option Nat :=
  t.foldlM (fun n c ↦ (hexValue? c).map (16 * n + ·)) 0

theorem hexNumber?_hexDigits (letters : LetterCase) {width n : Nat} (h : n < Nat.pow 16 width) :
    hexNumber? (hexDigits letters width n) = some n := by
  induction width generalizing n with
  | zero =>
    obtain rfl := Nat.lt_one_iff.1 h
    rfl
  | succ width ih =>
    have hd : n / 16 < Nat.pow 16 width := (Nat.div_lt_iff_lt_mul (by decide)).2 h
    have hm : hexValue? (hexDigit letters (n % 16)) = some (n % 16) :=
      hexValue?_hexDigit letters (Nat.mod_lt _ (by decide))
    have ih := ih hd
    simp only [hexNumber?] at ih ⊢
    simp [hexDigits, List.foldlM_append, ih, hm, Nat.div_add_mod]

def byteOfDigits? (high low : Char) : Option UInt8 :=
  match hexValue? high, hexValue? low with
  | some h, some l => some (UInt8.ofNat (16 * h + l))
  | _, _ => none

theorem hexDigits_two (letters : LetterCase) (b : UInt8) :
    hexDigits letters 2 b.toNat =
      [hexDigit letters (b.toNat / 16), hexDigit letters (b.toNat % 16)] := by
  have hb := b.toNat_lt
  have hhigh : b.toNat / 16 < 16 := by omega
  rw [hexDigits, hexDigits, hexDigits, Nat.mod_eq_of_lt hhigh]
  rfl

theorem byteOfDigits?_hexDigit (letters : LetterCase) (b : UInt8) :
    byteOfDigits? (hexDigit letters (b.toNat / 16)) (hexDigit letters (b.toNat % 16)) = some b := by
  have hb := b.toNat_lt
  have hhigh : b.toNat / 16 < 16 := by omega
  have hlow : b.toNat % 16 < 16 := by omega
  rw [byteOfDigits?, hexValue?_hexDigit letters hhigh, hexValue?_hexDigit letters hlow]
  simp only [Nat.div_add_mod, UInt8.ofNat_toNat]

/-- The zeros of the decimal digits of Unicode 14. Each is the first of ten code points in a row,
the digits zero to nine of one script or style. -/
def decimalZeros : List Nat :=
  [0x0030, 0x0660, 0x06F0, 0x07C0, 0x0966, 0x09E6, 0x0A66, 0x0AE6, 0x0B66, 0x0BE6, 0x0C66,
   0x0CE6, 0x0D66, 0x0DE6, 0x0E50, 0x0ED0, 0x0F20, 0x1040, 0x1090, 0x17E0, 0x1810, 0x1946,
   0x19D0, 0x1A80, 0x1A90, 0x1B50, 0x1BB0, 0x1C40, 0x1C50, 0xA620, 0xA8D0, 0xA900, 0xA9D0,
   0xA9F0, 0xAA50, 0xABF0, 0xFF10, 0x104A0, 0x10D30, 0x11066, 0x110F0, 0x11136, 0x111D0, 0x112F0,
   0x11450, 0x114D0, 0x11650, 0x116C0, 0x11730, 0x118E0, 0x11950, 0x11C50, 0x11D50, 0x11DA0,
   0x16A60, 0x16AC0, 0x16B50, 0x1D7CE, 0x1D7D8, 0x1D7E2, 0x1D7EC, 0x1D7F6, 0x1E140, 0x1E2F0,
   0x1E950, 0x1FBF0]

def decimalValue? (c : Char) : Option Nat :=
  (decimalZeros.find? fun z ↦ z ≤ c.toNat && c.toNat < z + 10).map (c.toNat - ·)

def isDecimal (c : Char) : Bool := (decimalValue? c).isSome

end OnlineAssembler.Text
