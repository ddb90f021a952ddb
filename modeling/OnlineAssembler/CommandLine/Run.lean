import OnlineAssembler.CommandLine.Arguments

namespace OnlineAssembler.CommandLine

inductive ReadError
  | notFound
  | isDirectory
  | notDirectory
  | nameTooLong
  | invalidName
  | invalidEncoding
deriving DecidableEq, Repr

structure Input where
  stdin : List UInt8
  openFile : Text → Except ReadError (List UInt8)

def decodeSource (bytes : List UInt8) : Except ReadError Text :=
  match Utf8.decode bytes with
  | some t => .ok (Text.normalizeLineEnds t)
  | none => .error .invalidEncoding

def Input.source (input : Input) (name : Text) : Except ReadError Text :=
  if name = [] then decodeSource input.stdin else do decodeSource (← input.openFile name)

abbrev Folder := List (Text × List UInt8)

namespace Folder

def nameLimit : Nat := 255

def pathLimit : Nat := 4096

/-- Follows the names of a path; `inside` tells whether it has not left the folder. -/
def follow (folder : Folder) : (inside : Bool) → List Text → Except ReadError (List UInt8)
  | _, [] => .error .isDirectory
  | inside, name :: names =>
    if name = [] ∨ name = ['.'] then follow folder inside names
    else if name = ['.', '.'] then follow folder false names
    else if nameLimit < (Utf8.encode name).length then .error .nameTooLong
    else match if inside then folder.lookup name else none with
      | none => .error .notFound
      | some bytes => if names = [] then .ok bytes else .error .notDirectory

def openFile (folder : Folder) (path : Text) : Except ReadError (List UInt8) :=
  if '\x00' ∈ path then .error .invalidName
  else if pathLimit ≤ (Utf8.encode path).length then .error .nameTooLong
  else follow folder (path.head? ≠ some '/') (path.splitOn '/')

end Folder

structure Exit where
  status : Nat
  stdout : Text := []
  stderr : Text := []
deriving DecidableEq, Repr

inductive Cause
  | unreadable (e : ReadError)
  | refused (e : ServiceError)
  | noFormat

/-- An end that nothing catches, and what is printed by then. -/
structure RunError where
  cause : Cause
  stdout : Text := []
  stderr : Text := []

def Arguments.exit (a : Arguments) (r : Run ServiceError Assembly) : Except RunError Exit :=
  let log := Log.render (Log.shown a.verbose r.log)
  match r.answer, a.format with
  | .ok assembly, some format =>
    .ok { status := 0, stdout := format.render assembly ++ ['\n'], stderr := log }
  | .ok _, none => .error { cause := .noFormat, stderr := log }
  | .error e, _ =>
    .ok { status := 1, stderr := log ++ "ERROR: ".toList ++ e.message.escaped ++ ['\n'] }

def run (host : Host) (input : Input) (arguments : List Text) : Run RunError Exit :=
  match Arguments.parse arguments with
  | .error stop => return { status := stop.status }
  | .ok a => match input.source a.source, a.mode with
    | .error e, _ => Run.fail { cause := .unreadable e }
    | .ok _, none => Run.fail { cause := .refused (.invalidMode (.array [])) }
    | .ok source, some mode =>
      let r := host.assemble mode (.ofText source)
      { r with answer := a.exit r }

end OnlineAssembler.CommandLine
