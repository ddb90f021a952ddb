import OnlineAssembler.Text.CodePoint
import OnlineAssembler.Tools.Run

namespace OnlineAssembler

inductive Fault
  | timedOut (program : Text)
  | notExecuted (program : Text)
  | refused (diagnostics : Text)
  | notDisassembled
  | entryMissing
deriving DecidableEq, Repr

namespace Fault

def general : Text := "Something went wrong!".toList

def baseName (path : Text) : Text := (path.reverse.takeWhile (· ≠ '/')).reverse

def message : Fault → Text
  | timedOut program => baseName program ++ " timed out.".toList
  | refused diagnostics => diagnostics
  | notExecuted _ | notDisassembled | entryMissing => general

/-- The message without white space around it; one that is blank says nothing. -/
def report (f : Fault) : Text :=
  if Text.trim f.message = [] then general else Text.trim f.message

theorem report_ne_nil (f : Fault) : f.report ≠ [] := by
  unfold report
  split
  · decide
  · assumption

end Fault

namespace Diagnostic

open Text

def banner : Text := "Assembler messages:\n".toList

def dropLineNumber (t : Text) : Text :=
  match t.head?.any isDecimal, t.dropWhile isDecimal with
  | true, ':' :: rest => rest
  | _, _ => t

/-- The length of a location at the front: the path and a colon, a line number and another colon
where they follow, and white space. -/
def locationWidth (path t : Text) : Nat :=
  match (path ++ [':']).isPrefixOf? t with
  | some rest => t.length - (trimStart (dropLineNumber rest)).length
  | none => 0

def clean (path t : Text) : Text := remove banner (delete (locationWidth path) t)

end Diagnostic

def entryLabel : Text := "_main".toList

def sourceFile (code : Text) : Text :=
  ".intel_syntax noprefix\n".toList ++ entryLabel ++ ':' :: '\n' :: (code ++ ['\n'])

namespace Host

structure Exit where
  status : Int
  output : Text
  errors : Text

def start (host : Host) (program : Text) (arguments : List Text) (mergesErrors : Bool)
    (outcome : Outcome) : Run Fault Exit := do
  let timeout := host.settings.timeout
  Run.note .debug .tools
    ("Running ".toList ++ List.intercalate [' '] (program :: arguments))
  Run.call ⟨program :: arguments, mergesErrors, timeout⟩
  match outcome with
  | .timedOut =>
    Run.note .warning .tools (program ++ " timed out after ".toList ++ timeout.tenthsText ++ ['s'])
    Run.fail (.timedOut program)
  | .notExecuted reason =>
    Run.note .error .tools ("Could not execute ".toList ++ program) reason
    Run.fail (.notExecuted program)
  | .exited status output errors => return ⟨status, output, errors⟩

def compile (host : Host) (flag : Text) : Run Fault Exit :=
  host.start host.settings.compiler
    [flag, "-c".toList, host.workspace.source, "-o".toList, host.workspace.object]
    true host.tools.compiler

/-- Long runs of zero bytes are listed in full. -/
def disassemble (host : Host) : Run Fault Exit :=
  host.start host.settings.disassembler
    ["-M".toList, "intel".toList, "-d".toList, "-z".toList, host.workspace.object]
    false host.tools.disassembler

def listing (host : Host) (flag code : Text) : Run Fault Text := do
  Run.write host.workspace.source (sourceFile code)
  let compilation ← host.compile flag
  if compilation.status ≠ 0 then
    Run.note .info .tools ("gcc exited with status ".toList ++ intText compilation.status)
    Run.fail (.refused (Diagnostic.clean host.workspace.source compilation.output))
  else
    let dump ← host.disassemble
    if dump.status ≠ 0 then
      Run.note .warning .tools ("objdump exited with status ".toList ++ intText dump.status ++
        ':' :: ' ' :: Text.trim dump.errors)
      Run.fail .notDisassembled
    else return dump.output

/-- A code that holds a surrogate cannot be written to a file. -/
inductive ListingError
  | unencodable
  | failed (fault : Fault)
deriving DecidableEq, Repr

def listingOf (host : Host) (flag : Text) (code : CodeText) : Run ListingError Text :=
  match code.toText? with
  | none => Run.fail .unencodable
  | some code => (host.listing flag code).mapError .failed

end Host

end OnlineAssembler
