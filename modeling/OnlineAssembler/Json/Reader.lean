import OnlineAssembler.Json.Basic

namespace OnlineAssembler.Json

inductive Refusal
  | malformed
  | tooDeep
deriving DecidableEq, Repr

abbrev Rest (s : CodeText) := { rest : CodeText // rest.length < s.length }

def isGap : CodePoint → Bool
  | .char c => c = ' ' || c = '\t' || c = '\n' || c = '\r'
  | .surrogate _ => false

def skipGap (s : CodeText) : CodeText := s.dropWhile isGap

theorem length_skipGap_le (s : CodeText) : (skipGap s).length ≤ s.length :=
  (List.dropWhile_suffix isGap).length_le

def unescape? : Char → Option Char
  | '"' => some '"'
  | '\\' => some '\\'
  | '/' => some '/'
  | 'b' => some '\x08'
  | 'f' => some '\x0c'
  | 'n' => some '\n'
  | 'r' => some '\r'
  | 't' => some '\t'
  | _ => none

/-- Reads the inside of a string and its closing quote. Control characters have to be escaped. -/
def stringPieces? : (s : CodeText) → Option (List Piece × Rest s)
  | [] => none
  | .char '"' :: s => some ([], ⟨s, by simp⟩)
  | .char '\\' :: .char 'u' :: .char a :: .char b :: .char c :: .char d :: s => do
    let u ← Text.hexNumber? [a, b, c, d]
    let (pieces, ⟨rest, h⟩) ← stringPieces? s
    some (.unit (UInt16.ofNat u) :: pieces, ⟨rest, by simp only [List.length_cons]; omega⟩)
  | .char '\\' :: .char letter :: s => do
    let c ← unescape? letter
    let (pieces, ⟨rest, h⟩) ← stringPieces? s
    some (.point (.char c) :: pieces, ⟨rest, by simp only [List.length_cons]; omega⟩)
  | p :: s =>
    if p = .char '\\' ∨ p.toNat < 0x20 then none
    else do
      let (pieces, ⟨rest, h⟩) ← stringPieces? s
      some (.point p :: pieces, ⟨rest, by simp only [List.length_cons]; omega⟩)

def digitLimit : Nat := 4300

/-- Numerals have no plus sign, no leading zeros, and digits on both sides of a point. -/
def numeral? (t : Text) : Option Json := do
  let n ← Numeral.read? t
  if n.sign = some '+' ∨ n.whole = [] ∨ (n.whole.head? = some '0' ∧ n.whole.length ≠ 1) ∨
      n.fraction = some [] then none
  else if n.isWhole then if n.whole.length ≤ digitLimit then some (.int n.toInt) else none
  else some (.float n.toBinary64)

def word? (t : Text) : Option Json :=
  if t = "null".toList then some .null
  else if t = "true".toList then some (.bool true)
  else if t = "false".toList then some (.bool false)
  else if t = "NaN".toList then some (.float .nan)
  else if t = "Infinity".toList then some (.float (.infinite false))
  else if t = "-Infinity".toList then some (.float (.infinite true))
  else numeral? t

def isWordPoint : CodePoint → Bool
  | .char c => c.isAlphanum || c = '+' || c = '-' || c = '.'
  | .surrogate _ => false

def orMalformed {α : Type} : Option α → Except Refusal α
  | some a => .ok a
  | none => .error .malformed

mutual

def readValue (depth : Nat) (s : CodeText) : Except Refusal (Json × Rest s) :=
  match s, depth with
  | .char '"' :: s, _ => do
    let (pieces, ⟨rest, h⟩) ← orMalformed (stringPieces? s)
    .ok (.string (.ofPieces pieces), ⟨rest, by simp only [List.length_cons]; omega⟩)
  | .char '[' :: s, depth + 1 =>
    have := length_skipGap_le s
    match hs : skipGap s with
    | .char ']' :: rest => .ok (.array [], ⟨rest, by simp_all; omega⟩)
    | _ => do
      let (items, ⟨rest, h⟩) ← readItems depth (skipGap s)
      .ok (.array items, ⟨rest, by simp only [List.length_cons]; omega⟩)
  | .char '\x7b' :: s, depth + 1 =>
    have := length_skipGap_le s
    match hs : skipGap s with
    | .char '\x7d' :: rest => .ok (.object [], ⟨rest, by simp_all; omega⟩)
    | _ => do
      let (fields, ⟨rest, h⟩) ← readFields depth (skipGap s)
      .ok (.ofFields fields, ⟨rest, by simp only [List.length_cons]; omega⟩)
  | .char '[' :: _, 0 | .char '\x7b' :: _, 0 => .error .tooDeep
  | p :: s, _ =>
    if isWordPoint p then do
      let v ← orMalformed (word? (CodeText.toText ((p :: s).takeWhile isWordPoint)))
      have := (List.dropWhile_suffix (l := s) isWordPoint).length_le
      .ok (v, ⟨s.dropWhile isWordPoint, by simp only [List.length_cons]; omega⟩)
    else .error .malformed
  | [], _ => .error .malformed
termination_by (s.length, 0)

def readItems (depth : Nat) (s : CodeText) : Except Refusal (List Json × Rest s) := do
  let (v, ⟨rest, h⟩) ← readValue depth s
  have := length_skipGap_le rest
  match hs : skipGap rest with
  | .char ']' :: rest => .ok ([v], ⟨rest, by simp_all; omega⟩)
  | .char ',' :: tail =>
    have := length_skipGap_le tail
    have : tail.length < s.length := by simp_all; omega
    let (items, ⟨rest, h⟩) ← readItems depth (skipGap tail)
    .ok (v :: items, ⟨rest, by omega⟩)
  | _ => .error .malformed
termination_by (s.length, 1)

def readFields (depth : Nat) (s : CodeText) :
    Except Refusal (List (CodeText × Json) × Rest s) :=
  match s with
  | .char '"' :: s => do
    let (pieces, ⟨rest, h⟩) ← orMalformed (stringPieces? s)
    have := length_skipGap_le rest
    match hs : skipGap rest with
    | .char ':' :: tail =>
      have := length_skipGap_le tail
      have : tail.length < s.length := by simp_all; omega
      let (v, ⟨rest, h⟩) ← readValue depth (skipGap tail)
      have := length_skipGap_le rest
      match hs : skipGap rest with
      | .char '\x7d' :: rest =>
        .ok ([(.ofPieces pieces, v)], ⟨rest, by simp_all; omega⟩)
      | .char ',' :: tail =>
        have := length_skipGap_le tail
        have : tail.length < s.length := by simp_all; omega
        let (fields, ⟨rest, h⟩) ← readFields depth (skipGap tail)
        .ok ((.ofPieces pieces, v) :: fields, ⟨rest, by simp only [List.length_cons]; omega⟩)
      | _ => .error .malformed
    | _ => .error .malformed
  | _ => .error .malformed
termination_by (s.length, 0)

end

def ofCodeText (depth : Nat) (s : CodeText) : Except Refusal Json := do
  let (v, rest) ← readValue depth (skipGap s)
  if skipGap rest.1 = [] then .ok v else .error .malformed

inductive Encoding
  | utf8
  | utf16 (bigEndian : Bool)
  | utf32 (bigEndian : Bool)
deriving DecidableEq, Repr

/-- The encoding of a document and its bytes without a byte order mark. Without a mark the zero
bytes among the first four tell, as a document starts with an ASCII character. -/
def detect (bytes : List UInt8) : Encoding × List UInt8 :=
  match bytes with
  | 0x00 :: 0x00 :: 0xFE :: 0xFF :: rest => (.utf32 true, rest)
  | 0xFF :: 0xFE :: 0x00 :: 0x00 :: rest => (.utf32 false, rest)
  | 0xFE :: 0xFF :: rest => (.utf16 true, rest)
  | 0xFF :: 0xFE :: rest => (.utf16 false, rest)
  | 0xEF :: 0xBB :: 0xBF :: rest => (.utf8, rest)
  | a :: b :: c :: d :: _ =>
    if a = 0 then (if b = 0 then .utf32 true else .utf16 true, bytes)
    else if b = 0 then (if c = 0 ∧ d = 0 then .utf32 false else .utf16 false, bytes)
    else (.utf8, bytes)
  | [a, b] => (if a = 0 then .utf16 true else if b = 0 then .utf16 false else .utf8, bytes)
  | _ => (.utf8, bytes)

def units16? (bigEndian : Bool) : List UInt8 → Option (List UInt16)
  | [] => some []
  | a :: b :: bytes =>
    let (high, low) := if bigEndian then (a, b) else (b, a)
    (units16? bigEndian bytes).map (UInt16.ofNat (256 * high.toNat + low.toNat) :: ·)
  | _ => none

def points32? (bigEndian : Bool) : List UInt8 → Option CodeText
  | [] => some []
  | a :: b :: c :: d :: bytes => do
    let word := if bigEndian then [a, b, c, d] else [d, c, b, a]
    let p ← CodePoint.ofNat? (word.foldl (fun n b ↦ 256 * n + b.toNat) 0)
    let t ← points32? bigEndian bytes
    some (p :: t)
  | _ => none

def decode? : Encoding × List UInt8 → Option CodeText
  | (.utf8, bytes) => Utf8.decodeLoose bytes
  | (.utf16 bigEndian, bytes) => (units16? bigEndian bytes).map .ofUnits
  | (.utf32 bigEndian, bytes) => points32? bigEndian bytes

def ofBytes (depth : Nat) (bytes : List UInt8) : Except Refusal Json := do
  ofCodeText depth (← orMalformed (decode? (detect bytes)))

end OnlineAssembler.Json
