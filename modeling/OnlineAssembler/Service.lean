import OnlineAssembler.Filter
import OnlineAssembler.Json.Basic
import OnlineAssembler.Listing

namespace OnlineAssembler

inductive Mode
  | x86
  | x64
deriving DecidableEq, Repr

namespace Mode

def name : Mode → Text
  | x86 => "x86".toList
  | x64 => "x64".toList

def flag : Mode → Text
  | x86 => "-m32".toList
  | x64 => "-m64".toList

def standard : Mode := x86

def all : List Mode := [x64, x86]

def ofText? (t : Text) : Option Mode := all.find? (·.name = t)

def ofJson? : Json → Option Mode
  | .string t => t.toText?.bind ofText?
  | _ => none

@[simp] theorem ofText?_name (m : Mode) : ofText? m.name = some m := by cases m <;> decide

theorem ofText?_eq_some_iff {t : Text} {m : Mode} : ofText? t = some m ↔ t = m.name := by
  refine ⟨fun h ↦ ?_, fun h ↦ h ▸ ofText?_name m⟩
  have hn : m.name = t := by simpa using List.find?_some h
  exact hn.symm

theorem ofJson?_eq_some_iff {j : Json} {m : Mode} :
    ofJson? j = some m ↔ j = .string (.ofText m.name) := by
  cases j with
  | string t =>
    simp [ofJson?, Option.bind_eq_some_iff, CodeText.toText?_eq_some_iff, ofText?_eq_some_iff]
  | _ => simp [ofJson?]

end Mode

inductive ServiceError
  | invalidMode (requested : Json)
  | unsafeCode
  | failed (fault : Fault)

/-- It stays open which check an unsafe code did not pass. -/
def ServiceError.message : ServiceError → CodeText
  | invalidMode requested => requested.display ++ .ofText " is not a valid mode.".toList
  | unsafeCode => .ofText "The code is too long or contains a disallowed directive.".toList
  | failed fault => .ofText fault.report

theorem ServiceError.message_ne_nil (e : ServiceError) : e.message ≠ [] := by
  cases e with
  | invalidMode requested => exact List.append_ne_nil_of_right_ne_nil _ (by decide)
  | unsafeCode => decide
  | failed fault => exact mt List.map_eq_nil_iff.1 fault.report_ne_nil

namespace Service

def sizeLimit : Nat := 10 * 1024

def check (code : CodeText) : Run ServiceError Text :=
  match code.toText? with
  | none => do
    Run.note .info .service "Rejected source that is not valid UTF-8".toList
    Run.fail .unsafeCode
  | some source =>
    if sizeLimit ≤ (Utf8.encode source).length then do
      Run.note .info .service
        ("Rejected ".toList ++ natText source.length ++ " character source: too long".toList)
      Run.fail .unsafeCode
    else
      match Filter.verdict source with
      | .accepted => return source
      | .marker m => do
        Run.note .info .filter ("Rejected source containing ".toList ++ m ++ " marker".toList)
        Run.fail .unsafeCode
      | .directive => do
        Run.note .info .filter "Rejected source containing a non-whitelisted directive".toList
        Run.fail .unsafeCode

end Service

def Host.assemble (host : Host) (mode : Mode) (code : CodeText) : Run ServiceError Assembly := do
  let source ← Service.check code
  (host.listing mode.flag source >>= Listing.decode).mapError .failed

/-- Of a caller nothing but the mode is remembered. -/
structure Session where
  mode : Mode
deriving DecidableEq, Repr

namespace Session

inductive Step
  | setMode (requested : Json)
  | check (code : CodeText)
  | assemble (host : Host) (code : CodeText)

inductive Answer
  | modeSet (result : Except ServiceError Unit)
  | checked (result : Run ServiceError Text)
  | assembled (result : Run ServiceError Assembly)

def setMode (requested : Json) (s : Session) : Except ServiceError Unit × Session :=
  match Mode.ofJson? requested with
  | some mode => (.ok (), { s with mode })
  | none => (.error (.invalidMode requested), s)

def start (requested : Option Json) : Except ServiceError Session :=
  let s : Session := ⟨.standard⟩
  match requested.map s.setMode with
  | some (.error e, _) => .error e
  | some (.ok (), t) => .ok t
  | none => .ok s

def step (s : Session) : Step → Answer × Session
  | .setMode requested => (.modeSet (s.setMode requested).1, (s.setMode requested).2)
  | .check code => (.checked (Service.check code), s)
  | .assemble host code => (.assembled (host.assemble s.mode code), s)

def run (s : Session) : List Step → List (Answer × Session)
  | [] => []
  | a :: steps => s.step a :: run (s.step a).2 steps

end Session

end OnlineAssembler
