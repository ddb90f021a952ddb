import OnlineAssembler.Text.Digit
import OnlineAssembler.Tools.Disassembly

namespace OnlineAssembler

abbrev MachineCode := List UInt8

namespace MachineCode

def digits (b : UInt8) : Text := Text.hexDigits .upper 2 b.toNat

def hex (bytes : MachineCode) : Text := bytes.flatMap digits

/-- Hexadecimal digits in which each zero byte stands out in bold. Nothing but digits and the two
tags is written, so the text may stand in a page as it is. -/
def hexZeroBold (bytes : MachineCode) : Text :=
  bytes.flatMap fun b ↦ if b = 0 then "<b>00</b>".toList else digits b

def stringLiteral (bytes : MachineCode) : Text :=
  bytes.flatMap fun b ↦ '\\' :: 'x' :: digits b

def arrayLiteral (bytes : MachineCode) : Text :=
  '{' :: (List.intercalate [','] (bytes.map fun b ↦ ' ' :: '0' :: 'x' :: digits b) ++ [' ', '}'])

end MachineCode

structure Assembly where
  code : Text
  bytes : MachineCode
deriving DecidableEq, Repr

def Assembly.record (a : Assembly) : List (Text × Text) :=
  [("code".toList, a.code), ("hex".toList, MachineCode.hex a.bytes),
   ("hex_zero_bold".toList, MachineCode.hexZeroBold a.bytes),
   ("string".toList, MachineCode.stringLiteral a.bytes),
   ("array".toList, MachineCode.arrayLiteral a.bytes)]

namespace Listing

open Text

inductive Line
  | symbol
  | instruction (bytes : MachineCode)
  | other
deriving DecidableEq, Repr

namespace Line

/-- A symbol line, such as `00000013 <loop>:`, is an address, white space, and a name without `>`
between `<` and `>:`. -/
def isSymbol (t : Text) : Bool :=
  let name := t.dropWhile isHexDigit
  t.head?.any isHexDigit && name.head?.any isBlank &&
    match trimStart name with
    | '<' :: r => match r.dropWhile (· ≠ '>') with
      | '>' :: ':' :: rest => rest.all isBlank
      | _ => false
    | _ => false

/-- Some colon of the same line lies ahead behind a character other than `s`. Such a colon ends an
address or a symbol, while the colon of a segment such as `ds:` follows an `s`. -/
def colonAhead : Text → Bool
  | c :: d :: t => (c ≠ 's' && d = ':') || (c ≠ '\n' && colonAhead (d :: t))
  | _ => false

/-- A run of bytes may stop before `t`, the text behind its last digit pair, if the text ends
there, or if no colon lies ahead of some nonempty part of the white space that follows. -/
def stopsBefore : Text → Bool
  | [] => true
  | c :: t => isBlank c && (!colonAhead t || stopsBefore t)

/-- The bytes of the longest run at the front of the line that may stop where it does. The bytes
are digit pairs, each followed by white space or by the end. -/
def run? (t : Text) : Option MachineCode := go false t
where
  go : Bool → Text → Option MachineCode
    | _, [] => none
    | behindByte, c :: t =>
      if behindByte && isBlank c then go true t
      else match t with
        | [] => none
        | low :: t => match byteOfDigits? c low with
          | none => none
          | some b => match if t.head?.any isBlank then go true t else none with
            | some bytes => some (b :: bytes)
            | none => if stopsBefore t then some [b] else none

def bytes? : Text → Option MachineCode
  | [] => none
  | c :: t => match run? (c :: t) with
    | some bytes => some bytes
    | none => bytes? t

def classify (t : Text) : Line :=
  if isSymbol t then .symbol
  else match bytes? t with
    | some bytes => .instruction bytes
    | none => .other

end Line

def entryMarker : Text := '<' :: (entryLabel ++ ['>', ':', '\n'])

/-- A listing without a section is what an object file without code gives. -/
def isEmpty (listing : Text) : Bool :=
  occursIn "file format ".toList listing && !occursIn "Disassembly of section ".toList listing

/-- Drops the white space at the start of each line; with `atStart` it is dropped at the front
too. -/
def unindent (atStart : Bool) : Text → Text
  | [] => []
  | c :: t => if atStart && isBlank c then unindent true t else c :: unindent (c = '\n') t

def code? (listing : Text) : Option Text :=
  match after? entryMarker listing with
  | some t => some (trim (unindent true t))
  | none => if isEmpty listing then some [] else none

def Line.bytes : Line → MachineCode
  | instruction bytes => bytes
  | symbol | other => []

def bytes (code : Text) : MachineCode := (lines code).flatMap fun l ↦ (Line.classify l).bytes

def decode (listing : Text) : Run Fault Assembly :=
  match code? listing with
  | some code => do
    Run.note .debug .decoder ("Decoded ".toList ++ natText (bytes code).length ++ " bytes".toList)
    return ⟨code, bytes code⟩
  | none => do
    Run.note .warning .decoder
      ("Entry label ".toList ++ entryLabel ++ " not found in objdump output".toList)
    Run.fail .entryMissing

end Listing

end OnlineAssembler
