import OnlineAssembler.Binary64
import OnlineAssembler.Text.CodePoint
import OnlineAssembler.Text.Digit

namespace OnlineAssembler

structure Settings where
  compiler : Text := "gcc".toList
  disassembler : Text := "objdump".toList
  timeout : Binary64 := .ofNat 10
  defaultMode : CodeText := .ofText "x86".toList
deriving DecidableEq, Repr

namespace Timeout

/-- Decimal digits of all scripts and white space beyond ASCII in their ASCII form. A character
that has none is not part of any number. -/
def toAscii? (c : Char) : Option Char :=
  if c.toNat < 0x80 then some c
  else if Text.isBlank c then some ' '
  else (Text.decimalValue? c).map fun n ↦ Char.ofNat (48 + n)

def isGap (c : Char) : Bool := c = ' ' || (9 ≤ c.toNat && c.toNat ≤ 13)

def trim (t : Text) : Text := ((t.dropWhile isGap).reverse.dropWhile isGap).reverse

/-- An underscore may stand between two digits and has no meaning there. -/
def dropUnderscores? : Text → Option Text
  | [] => some []
  | '_' :: _ => none
  | c :: '_' :: d :: t =>
    if c.isDigit && d.isDigit then (dropUnderscores? (d :: t)).map (c :: ·) else none
  | c :: t => (dropUnderscores? t).map (c :: ·)

def special? (t : Text) : Option Binary64 :=
  let (sign, name) := Numeral.readSign (t.map Char.toLower)
  if name = "inf".toList ∨ name = "infinity".toList then some (.infinite (sign = some '-'))
  else if name = "nan".toList then some .nan
  else none

def number? (t : Text) : Option Binary64 := do
  let n ← Numeral.read? t
  if n.whole = [] ∧ n.fraction.getD [] = [] then none else some n.toBinary64

def read? (t : Text) : Option Binary64 := do
  let t ← dropUnderscores? (trim (← t.mapM toAscii?))
  special? t <|> number? t

end Timeout

def Settings.ofEnvironment? (read : String → Option Text) : Option Settings := do
  let standard : Settings := {}
  let timeout ← match read "ASM_TIMEOUT" with
    | some t => Timeout.read? t
    | none => some standard.timeout
  return {
    compiler := (read "ASM_CC").getD standard.compiler
    disassembler := (read "ASM_OBJDUMP").getD standard.disassembler
    timeout
    defaultMode := ((read "ASM_DEFAULT_MODE").map CodeText.ofText).getD standard.defaultMode }

/-- How a program ends that was to be started. Where that was not possible, the system tells why. -/
inductive Outcome
  | timedOut
  | notExecuted (reason : Text := [])
  | exited (status : Int) (output errors : Text)
deriving DecidableEq, Repr

structure Tools where
  compiler : Outcome
  disassembler : Outcome
deriving DecidableEq, Repr

structure Workspace where
  source : Text
  object : Text
deriving DecidableEq, Repr

structure Host where
  settings : Settings
  workspace : Workspace
  tools : Tools
deriving DecidableEq, Repr

end OnlineAssembler
