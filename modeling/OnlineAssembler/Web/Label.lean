import OnlineAssembler.Web.Label.Folding
import OnlineAssembler.Web.Label.Normal

namespace OnlineAssembler.Web.Label

def rightToLeftBounds : List Nat :=
  [0x5BE, 0x5BF, 0x5C0, 0x5C1, 0x5C3, 0x5C4, 0x5D0, 0x5EB, 0x5F0, 0x5F5, 0x61B, 0x61C, 0x61F,
   0x620, 0x621, 0x63B, 0x640, 0x64B, 0x66D, 0x670, 0x671, 0x6D6, 0x6E5, 0x6E7, 0x6FA, 0x6FF,
   0x700, 0x70E, 0x710, 0x711, 0x712, 0x72D, 0x780, 0x7A6, 0x7B1, 0x7B2, 0xFE73, 0xFE74]

def leftToRightBounds : List Nat :=
  [0xE0, 0xF7, 0xF8, 0x220, 0x223, 0x234, 0x250, 0x2AE, 0x2BB, 0x2C2, 0x2D0, 0x2D2, 0x2EE, 0x2EF,
   0x390, 0x391, 0x3AC, 0x3F4, 0x430, 0x483, 0x48B, 0x4CF, 0x4D1, 0x4F6, 0x4F9, 0x4FA, 0x501,
   0x510, 0x559, 0x560, 0x561, 0x587, 0x589, 0x58A, 0x903, 0x904, 0x905, 0x93A, 0x93D, 0x941,
   0x949, 0x94D, 0x950, 0x951, 0x960, 0x962, 0x964, 0x971, 0x982, 0x984, 0x985, 0x98D, 0x98F,
   0x991, 0x993, 0x9A9, 0x9AA, 0x9B1, 0x9B2, 0x9B3, 0x9B6, 0x9BA, 0x9BE, 0x9C1, 0x9C7, 0x9C9,
   0x9CB, 0x9CD, 0x9D7, 0x9D8, 0x9E0, 0x9E2, 0x9E6, 0x9F2, 0x9F4, 0x9FB, 0xA05, 0xA0B, 0xA0F,
   0xA11, 0xA13, 0xA29, 0xA2A, 0xA31, 0xA32, 0xA33, 0xA35, 0xA36, 0xA38, 0xA3A, 0xA3E, 0xA41,
   0xA5C, 0xA5D, 0xA66, 0xA70, 0xA72, 0xA75, 0xA83, 0xA84, 0xA85, 0xA8C, 0xA8D, 0xA8E, 0xA8F,
   0xA92, 0xA93, 0xAA9, 0xAAA, 0xAB1, 0xAB2, 0xAB4, 0xAB5, 0xABA, 0xABD, 0xAC1, 0xAC9, 0xACA,
   0xACB, 0xACD, 0xAD0, 0xAD1, 0xAE0, 0xAE1, 0xAE6, 0xAF0, 0xB02, 0xB04, 0xB05, 0xB0D, 0xB0F,
   0xB11, 0xB13, 0xB29, 0xB2A, 0xB31, 0xB32, 0xB34, 0xB36, 0xB3A, 0xB3D, 0xB3F, 0xB40, 0xB41,
   0xB47, 0xB49, 0xB4B, 0xB4D, 0xB57, 0xB58, 0xB5F, 0xB62, 0xB66, 0xB71, 0xB83, 0xB84, 0xB85,
   0xB8B, 0xB8E, 0xB91, 0xB92, 0xB96, 0xB99, 0xB9B, 0xB9C, 0xB9D, 0xB9E, 0xBA0, 0xBA3, 0xBA5,
   0xBA8, 0xBAB, 0xBAE, 0xBB6, 0xBB7, 0xBBA, 0xBBE, 0xBC0, 0xBC1, 0xBC3, 0xBC6, 0xBC9, 0xBCA,
   0xBCD, 0xBD7, 0xBD8, 0xBE7, 0xBF3, 0xC01, 0xC04, 0xC05, 0xC0D, 0xC0E, 0xC11, 0xC12, 0xC29,
   0xC2A, 0xC34, 0xC35, 0xC3A, 0xC41, 0xC45, 0xC60, 0xC62, 0xC66, 0xC70, 0xC82, 0xC84, 0xC85,
   0xC8D, 0xC8E, 0xC91, 0xC92, 0xCA9, 0xCAA, 0xCB4, 0xCB5, 0xCBA, 0xCBE, 0xCBF, 0xCC0, 0xCC5,
   0xCC7, 0xCC9, 0xCCA, 0xCCC, 0xCD5, 0xCD7, 0xCDE, 0xCDF, 0xCE0, 0xCE2, 0xCE6, 0xCF0, 0xD02,
   0xD04, 0xD05, 0xD0D, 0xD0E, 0xD11, 0xD12, 0xD29, 0xD2A, 0xD3A, 0xD3E, 0xD41, 0xD46, 0xD49,
   0xD4A, 0xD4D, 0xD57, 0xD58, 0xD60, 0xD62, 0xD66, 0xD70, 0xD82, 0xD84, 0xD85, 0xD97, 0xD9A,
   0xDB2, 0xDB3, 0xDBC, 0xDBD, 0xDBE, 0xDC0, 0xDC7, 0xDCF, 0xDD2, 0xDD8, 0xDE0, 0xDF2, 0xDF5,
   0xE01, 0xE31, 0xE32, 0xE33, 0xE40, 0xE47, 0xE4F, 0xE5C, 0xE81, 0xE83, 0xE84, 0xE85, 0xE87,
   0xE89, 0xE8A, 0xE8B, 0xE8D, 0xE8E, 0xE94, 0xE98, 0xE99, 0xEA0, 0xEA1, 0xEA4, 0xEA5, 0xEA6,
   0xEA7, 0xEA8, 0xEAA, 0xEAC, 0xEAD, 0xEB1, 0xEB2, 0xEB3, 0xEBD, 0xEBE, 0xEC0, 0xEC5, 0xEC6,
   0xEC7, 0xED0, 0xEDA, 0xF00, 0xF18, 0xF1A, 0xF35, 0xF36, 0xF37, 0xF38, 0xF39, 0xF3E, 0xF48,
   0xF49, 0xF6B, 0xF7F, 0xF80, 0xF85, 0xF86, 0xF88, 0xF8C, 0xFBE, 0xFC6, 0xFC7, 0xFCD, 0xFCF,
   0xFD0, 0x1000, 0x1022, 0x1023, 0x1028, 0x1029, 0x102B, 0x102C, 0x102D, 0x1031, 0x1032, 0x1038,
   0x1039, 0x1040, 0x1058, 0x10D0, 0x10F9, 0x10FB, 0x10FC, 0x1100, 0x115A, 0x115F, 0x11A3, 0x11A8,
   0x11FA, 0x1200, 0x1207, 0x1208, 0x1247, 0x1248, 0x1249, 0x124A, 0x124E, 0x1250, 0x1257, 0x1258,
   0x1259, 0x125A, 0x125E, 0x1260, 0x1287, 0x1288, 0x1289, 0x128A, 0x128E, 0x1290, 0x12AF, 0x12B0,
   0x12B1, 0x12B2, 0x12B6, 0x12B8, 0x12BF, 0x12C0, 0x12C1, 0x12C2, 0x12C6, 0x12C8, 0x12CF, 0x12D0,
   0x12D7, 0x12D8, 0x12EF, 0x12F0, 0x130F, 0x1310, 0x1311, 0x1312, 0x1316, 0x1318, 0x131F, 0x1320,
   0x1347, 0x1348, 0x135B, 0x1361, 0x137D, 0x1401, 0x1677, 0x1681, 0x169B, 0x16A0, 0x16F1, 0x1700,
   0x170D, 0x170E, 0x1712, 0x1720, 0x1732, 0x1735, 0x1737, 0x1740, 0x1752, 0x1760, 0x176D, 0x176E,
   0x1771, 0x1780, 0x17B7, 0x17BE, 0x17C6, 0x17C7, 0x17C9, 0x17D4, 0x17DB, 0x17DC, 0x17DD, 0x17E0,
   0x17EA, 0x1810, 0x181A, 0x1820, 0x1878, 0x1880, 0x18A9, 0x1E01, 0x1E9A, 0x1EA1, 0x1EFA, 0x1F00,
   0x1F16, 0x1F20, 0x1F46, 0x1F50, 0x1F58, 0x1F60, 0x1F7D, 0x1FB0, 0x1FB2, 0x1FB6, 0x1FB7, 0x1FC6,
   0x1FD3, 0x1FD6, 0x1FD8, 0x1FE0, 0x1FE8, 0x1FF6, 0x1FF7, 0x2180, 0x2183, 0x2336, 0x237B, 0x2395,
   0x2396, 0x3005, 0x3008, 0x3021, 0x302A, 0x3031, 0x3036, 0x303B, 0x303D, 0x3041, 0x3097, 0x309D,
   0x309F, 0x30A1, 0x30FB, 0x30FC, 0x30FF, 0x3105, 0x312D, 0x3190, 0x31B8, 0x31F0, 0x3200, 0x327F,
   0x3280, 0x3400, 0x4DB6, 0x4E00, 0x9FA6, 0xA000, 0xA48D, 0xAC00, 0xD7A4, 0xFA0E, 0xFA2A, 0x10300,
   0x1031F, 0x10320, 0x10324, 0x10330, 0x1034B, 0x10428, 0x1044E, 0x1D000, 0x1D0F6, 0x1D100,
   0x1D127, 0x1D12A, 0x1D167, 0x1D16A, 0x1D173, 0x1D183, 0x1D185, 0x1D18C, 0x1D1AA, 0x1D1AE,
   0x1D1DE, 0x20000, 0x2A6D7]

def isRightToLeft (c : Char) : Bool := Text.isWithin rightToLeftBounds c

def isLeftToRight (c : Char) : Bool := c.isAlpha || Text.isWithin leftToRightBounds c

def hasOneDirection (label : Text) : Bool :=
  !label.any isRightToLeft || !label.any isLeftToRight && label.head?.any isRightToLeft &&
    label.getLast?.any isRightToLeft

namespace Punycode

def digit (n : Nat) : Char := if n < 26 then Char.ofNat (97 + n) else Char.ofNat (22 + n)

/-- A digit below the threshold is the last of its number. -/
def threshold (place bias : Nat) : Nat := max 1 (min 26 (place - bias))

/-- A number with its lowest digit first; each digit is worth 36 less the threshold of its place. -/
def digits (bias place n : Nat) : Text :=
  let t := threshold place bias
  if n < t then [digit n]
  else digit (t + (n - t) % (36 - t)) :: digits bias (place + 36) ((n - t) / (36 - t))
termination_by n
decreasing_by
  have ht : 1 ≤ threshold place bias := Nat.le_max_left ..
  have := Nat.div_le_self (n - threshold place bias) (36 - threshold place bias)
  omega

def scale (delta bias : Nat) : Nat :=
  if 455 < delta then scale (delta / 35) (bias + 36) else bias + 36 * delta / (delta + 38)
termination_by delta
decreasing_by omega

def adapt (isFirst : Bool) (delta written : Nat) : Nat :=
  let delta := if isFirst then delta / 700 else delta / 2
  scale (delta + delta / written) 0

structure Progress where
  delta : Nat
  bias : Nat
  written : Nat
  text : Text

def Progress.insert (basic point : Nat) (p : Progress) (c : Char) : Progress :=
  if c.toNat < point then { p with delta := p.delta + 1 }
  else if c.toNat = point then
    { delta := 0
      bias := adapt (p.written = basic) p.delta (p.written + 1)
      written := p.written + 1
      text := p.text ++ digits p.bias 36 p.delta }
  else p

def encode (label : Text) : Text :=
  let basic := label.filter (·.toNat < 0x80)
  let points := ((label.filter (0x80 ≤ ·.toNat)).map Char.toNat).mergeSort.eraseDups
  let start : Progress := ⟨0, 72, basic.length, if basic = [] then [] else basic ++ ['-']⟩
  let step (s : Nat × Progress) (point : Nat) : Nat × Progress :=
    let p := { s.2 with delta := s.2.delta + (point - s.1) * (s.2.written + 1) }
    let p := label.foldl (·.insert basic.length point ·) p
    (point + 1, { p with delta := p.delta + 1 })
  (points.foldl step (0x80, start)).2.text

def digitValue? (c : Char) : Option Nat :=
  if c.isAlpha then some (c.toLower.toNat - 97)
  else if c.isDigit then some (c.toNat - 22)
  else none

/-- Reads a number from its lowest digit on; `sum` is what the digits so far are worth, and each
unit of the next is worth `weight`. -/
def number? (bias place weight sum : Nat) :
    (t : Text) → Option (Nat × { rest : Text // rest.length < t.length })
  | [] => none
  | c :: t => do
    let d ← digitValue? c
    let sum := sum + d * weight
    if d < threshold place bias then some (sum, ⟨t, by simp⟩)
    else
      let (n, ⟨rest, h⟩) ← number? bias (place + 36) (weight * (36 - threshold place bias)) sum t
      some (n, ⟨rest, by simp only [List.length_cons]; omega⟩)

/-- Puts in the characters that the numbers in `t` stand for, the next of which comes no earlier
than at `index` and has no smaller code point than `point`. -/
def insertAll? (isFirst : Bool) (bias point index : Nat) (label t : Text) : Option Text :=
  if t = [] then some label
  else do
    let (delta, rest) ← number? bias 36 1 0 t
    let written := label.length + 1
    let index := index + delta
    let point := point + index / written
    if point.isValidChar then
      insertAll? false (adapt isFirst delta written) point (index % written + 1)
        (label.insertIdx (index % written) (Char.ofNat point)) rest.1
    else none
termination_by t.length
decreasing_by exact rest.2

def decode? (t : Text) : Option Text :=
  let back := t.reverse
  let numbers := (back.takeWhile (· ≠ '-')).reverse
  insertAll? true 72 0x80 0 ((back.dropWhile (· ≠ '-')).drop 1).reverse numbers

end Punycode

def isAscii (t : Text) : Bool := t.all (·.toNat < 0x80)

def sized? (label : Text) : Option Text :=
  if label ≠ [] ∧ label.length < 64 then some label else none

def aceMark : Text := "xn--".toList

def toAscii? (label : Text) : Option Text :=
  let folded := normalize (label.flatMap fold)
  if isAscii label then sized? label
  else if label.any isForbidden || !hasOneDirection folded then none
  else if isAscii folded then sized? folded
  else if aceMark.isPrefixOf folded then none
  else sized? (aceMark ++ Punycode.encode folded)

def isDot (c : Char) : Bool := c = '.' || c = '。' || c = '．' || c = '｡'

def hostToAscii? (host : Text) : Option Text := do
  let labels := (host.map fun c ↦ if isDot c then '.' else c).splitOn '.'
  let front ← labels.dropLast.mapM toAscii?
  let last := labels.getLastD []
  let last ← if last = [] then some [] else toAscii? last
  return List.intercalate ['.'] (front ++ [last])

/-- What an ASCII form stands for, if it is the one form of that. -/
def toUnicode? (label : Text) : Option Text :=
  match aceMark.isPrefixOf? label with
  | none => some label
  | some t => do
    let shown ← Punycode.decode? t
    if toAscii? shown = some (label.map Char.toLower) then some shown else none

def hostToUnicode? (host : Text) : Option Text :=
  ((host.splitOn '.').mapM toUnicode?).map (List.intercalate ['.'])

end OnlineAssembler.Web.Label
