import OnlineAssembler.Text.Basic

namespace OnlineAssembler

/-- A code point of a submitted text: a character, or one half of a surrogate pair that stands
alone. The latter has no encoding, so a text that holds one cannot be written to a file. -/
inductive CodePoint
  | char (c : Char)
  | surrogate (offset : Fin 0x800)
deriving DecidableEq, Repr

abbrev CodeText := List CodePoint

namespace CodePoint

def toNat : CodePoint → Nat
  | char c => c.toNat
  | surrogate offset => 0xD800 + offset

def ofNat? (n : Nat) : Option CodePoint :=
  if n.isValidChar then some (char (Char.ofNat n))
  else if h : 0xD800 ≤ n ∧ n < 0xE000 then some (surrogate ⟨n - 0xD800, by omega⟩)
  else none

def ofUnit (u : UInt16) : CodePoint :=
  if h : 0xD800 ≤ u.toNat ∧ u.toNat < 0xE000 then surrogate ⟨u.toNat - 0xD800, by omega⟩
  else char (Char.ofNat u.toNat)

def isHighHalf (u : UInt16) : Bool := 0xD800 ≤ u.toNat && u.toNat < 0xDC00

def isLowHalf (u : UInt16) : Bool := 0xDC00 ≤ u.toNat && u.toNat < 0xE000

def ofHalves (high low : UInt16) : CodePoint :=
  char (Char.ofNat (0x10000 + (high.toNat - 0xD800) * 0x400 + (low.toNat - 0xDC00)))

end CodePoint

def unitsOfChar (c : Char) : List UInt16 :=
  if c.toNat < 0x10000 then [UInt16.ofNat c.toNat]
  else [UInt16.ofNat (0xD800 + (c.toNat - 0x10000) / 0x400),
    UInt16.ofNat (0xDC00 + (c.toNat - 0x10000) % 0x400)]

inductive Piece
  | point (p : CodePoint)
  | unit (u : UInt16)

namespace CodeText

/-- A high half and a low half join only where both were written as units side by side. -/
def ofPieces : List Piece → CodeText
  | [] => []
  | .point p :: ps => p :: ofPieces ps
  | .unit u :: ps =>
    match ps with
    | .unit v :: qs =>
      if CodePoint.isHighHalf u && CodePoint.isLowHalf v then
        CodePoint.ofHalves u v :: ofPieces qs
      else CodePoint.ofUnit u :: ofPieces (.unit v :: qs)
    | qs => CodePoint.ofUnit u :: ofPieces qs

def ofUnits (us : List UInt16) : CodeText := ofPieces (us.map .unit)

def ofText (t : Text) : CodeText := t.map .char

def toText? : CodeText → Option Text
  | [] => some []
  | .char c :: t => (toText? t).map (c :: ·)
  | .surrogate _ :: _ => none

/-- The text with the replacement character in the place of each surrogate that stands alone. -/
def toText (t : CodeText) : Text :=
  t.map fun
    | .char c => c
    | .surrogate _ => '\uFFFD'

@[simp] theorem toText?_ofText (t : Text) : toText? (ofText t) = some t := by
  induction t with
  | nil => rfl
  | cons c t ih => simpa [ofText, toText?] using ih

theorem toText?_eq_some_iff {s : CodeText} {t : Text} : toText? s = some t ↔ s = ofText t := by
  refine ⟨fun h ↦ ?_, fun h ↦ h ▸ toText?_ofText t⟩
  induction s generalizing t with
  | nil => simp_all [toText?, ofText]
  | cons p s ih =>
    cases p with
    | char c =>
      obtain ⟨u, hu, rfl⟩ := Option.map_eq_some_iff.1 h
      simpa [ofText] using ih hu
    | surrogate offset => simp [toText?] at h

theorem ofText_inj {s t : Text} (h : CodeText.ofText s = CodeText.ofText t) : s = t := by
  have hs : (CodeText.ofText s).toText? = some t := toText?_eq_some_iff.2 h
  rw [toText?_ofText] at hs
  exact Option.some.inj hs

theorem toText?_eq_none_iff {code : CodeText} :
    code.toText? = none ↔ ∃ offset, CodePoint.surrogate offset ∈ code := by
  induction code with
  | nil => simp [toText?]
  | cons p code ih =>
    cases p with
    | char c => simp [toText?, ih]
    | surrogate offset => simp [toText?]

theorem exists_surrogate_or_eq (code : CodeText) :
    (∃ offset, CodePoint.surrogate offset ∈ code) ∨ ∃ source, code = .ofText source := by
  cases h : code.toText? with
  | none => exact .inl (toText?_eq_none_iff.1 h)
  | some source => exact .inr ⟨source, toText?_eq_some_iff.1 h⟩

theorem surrogate_not_mem_ofText (source : Text) (offset : Fin 0x800) :
    CodePoint.surrogate offset ∉ CodeText.ofText source := by
  simp [ofText]

end CodeText

namespace Utf8

def encodeChar (c : Char) : List UInt8 :=
  let n := c.toNat
  let tail (n : Nat) : UInt8 := UInt8.ofNat (0x80 + n % 64)
  if n < 0x80 then [UInt8.ofNat n]
  else if n < 0x800 then [UInt8.ofNat (0xC0 + n / 64), tail n]
  else if n < 0x10000 then [UInt8.ofNat (0xE0 + n / 0x1000), tail (n / 64), tail n]
  else [UInt8.ofNat (0xF0 + n / 0x40000), tail (n / 0x1000), tail (n / 64), tail n]

def encode (t : Text) : List UInt8 := t.flatMap encodeChar

def tail? (b : UInt8) : Option Nat :=
  if 0x80 ≤ b.toNat ∧ b.toNat < 0xC0 then some (b.toNat - 0x80) else none

/-- Reads each code point in its shortest form; a surrogate in three bytes is let through. -/
def decodeLoose : List UInt8 → Option CodeText
  | [] => some []
  | a :: bytes =>
    if a.toNat < 0x80 then
      (decodeLoose bytes).map (.char (Char.ofNat a.toNat) :: ·)
    else if a.toNat < 0xC2 then none
    else if a.toNat < 0xE0 then
      match bytes with
      | b :: bytes => do
        let b ← tail? b
        let p ← CodePoint.ofNat? ((a.toNat - 0xC0) * 64 + b)
        (decodeLoose bytes).map (p :: ·)
      | _ => none
    else if a.toNat < 0xF0 then
      match bytes with
      | b :: c :: bytes => do
        let b ← tail? b
        let c ← tail? c
        let n := (a.toNat - 0xE0) * 0x1000 + b * 64 + c
        if n < 0x800 then none
        else (decodeLoose bytes).bind fun t ↦ (CodePoint.ofNat? n).map (· :: t)
      | _ => none
    else if a.toNat < 0xF5 then
      match bytes with
      | b :: c :: d :: bytes => do
        let b ← tail? b
        let c ← tail? c
        let d ← tail? d
        let n := (a.toNat - 0xF0) * 0x40000 + b * 0x1000 + c * 64 + d
        if n < 0x10000 then none
        else (decodeLoose bytes).bind fun t ↦ (CodePoint.ofNat? n).map (· :: t)
      | _ => none
    else none

def decode (bytes : List UInt8) : Option Text := (decodeLoose bytes).bind CodeText.toText?

end Utf8

end OnlineAssembler
