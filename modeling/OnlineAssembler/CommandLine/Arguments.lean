import OnlineAssembler.Service

namespace OnlineAssembler

inductive Format
  | hex
  | string
  | array
  | code
  | json
deriving DecidableEq, Repr

namespace Format

def name : Format → Text
  | hex => "hex".toList
  | string => "string".toList
  | array => "array".toList
  | code => "code".toList
  | json => "json".toList

def all : List Format := [hex, string, array, code, json]

def ofText? (t : Text) : Option Format := all.find? (·.name = t)

def render : Format → Assembly → Text
  | hex, a => MachineCode.hex a.bytes
  | string, a => MachineCode.stringLiteral a.bytes
  | array, a => MachineCode.arrayLiteral a.bytes
  | code, a => a.code
  | json, a => Json.recordText a.record

@[simp] theorem ofText?_name (f : Format) : ofText? f.name = some f := by cases f <;> decide

end Format

namespace CommandLine

inductive Flag
  | help
  | verbose
deriving DecidableEq, Repr

inductive Setting
  | mode
  | format
deriving DecidableEq, Repr

inductive Switch
  | flag (f : Flag)
  | setting (s : Setting)
deriving DecidableEq, Repr

def Flag.ofLetter? : Char → Option Flag
  | 'h' => some .help
  | 'v' => some .verbose
  | _ => none

def Switch.names : List (Text × Switch) :=
  [("--help".toList, .flag .help), ("--mode".toList, .setting .mode),
   ("--format".toList, .setting .format), ("--verbose".toList, .flag .verbose)]

/-- An argument by itself. Nothing is known of an option that is `unknown`. -/
inductive Token
  | plain (t : Text)
  | separator
  | flags (flags : List Flag)
  | setting (s : Setting) (value : Option Text)
  | unknown
  | unwantedValue
  | ambiguous
deriving DecidableEq, Repr

namespace Token

/-- A line feed may end the number. -/
def isNegativeNumber (t : Text) : Bool :=
  let isNumber (u : Text) : Bool :=
    match u.dropWhile Text.isDecimal with
    | [] => !u.isEmpty
    | '.' :: digits => !digits.isEmpty && digits.all Text.isDecimal
    | _ => false
  match t with
  | '-' :: u => isNumber (if u.getLast? = some '\n' then u.dropLast else u)
  | _ => false

def other (t : Text) : Token :=
  if isNegativeNumber t ∨ ' ' ∈ t then plain t else unknown

def letters? : Text → Option (List Flag)
  | [_, '='] => none
  | letter :: '=' :: t => (letter :: t).mapM Flag.ofLetter?
  | t => t.mapM Flag.ofLetter?

/-- What follows a flag and is no flag counts as a value for it. -/
def short (letter : Char) (t : Text) : Token :=
  if (Flag.ofLetter? letter).isSome then
    match letters? (letter :: t) with
    | some row => flags row
    | none => unwantedValue
  else other ('-' :: letter :: t)

def long (t : Text) : Token :=
  let value : Option Text := match t.dropWhile (· ≠ '=') with
    | _ :: value => some value
    | [] => none
  match Switch.names.filter fun n ↦ (t.takeWhile (· ≠ '=')).isPrefixOf n.1, value with
  | [], _ => other t
  | [(_, .flag f)], none => flags [f]
  | [(_, .flag _)], some _ => unwantedValue
  | [(_, .setting s)], value => setting s value
  | _, _ => ambiguous

def ofText : Text → Token
  | '-' :: '-' :: t => long ('-' :: '-' :: t)
  | '-' :: c :: t => short c t
  | t => plain t

def ofArguments : List Text → List Token
  | [] => []
  | t :: ts => if t = ['-', '-'] then separator :: ts.map plain else ofText t :: ofArguments ts

end Token

/-- What a run is asked for. The source is a file name; an empty one means standard input. A mode
or a format is missing if two dashes alone were given for it. -/
structure Arguments where
  source : Text := []
  mode : Option Mode := some .standard
  format : Option Format := some .hex
  verbose : Bool := false
deriving DecidableEq, Repr

inductive Stop
  | help
  | misuse
deriving DecidableEq, Repr

def Stop.status : Stop → Nat
  | help => 0
  | misuse => 2

/-- How far the arguments are read. There is a `surplus` once one of them could not be placed;
that ends the run only behind the last argument, so that help still comes first. -/
structure Progress where
  arguments : Arguments := {}
  hasSource : Bool := false
  surplus : Bool := false
deriving DecidableEq, Repr

namespace Progress

def take (source : Text) (p : Progress) : Progress :=
  { p with arguments := { p.arguments with source }, hasSource := true }

def setFlags (flags : List Flag) (p : Progress) : Except Stop Progress :=
  if .help ∈ flags then .error .help
  else .ok { p with arguments := { p.arguments with verbose := true } }

def choose {α : Type} (ofText? : Text → Option α) (value : Text) : Except Stop (Option α) :=
  if value = ['-', '-'] then .ok none
  else match ofText? value with
    | some a => .ok (some a)
    | none => .error .misuse

def set (s : Setting) (value : Text) (p : Progress) : Except Stop Progress := do
  match s with
  | .mode =>
    let mode ← choose Mode.ofText? value
    return { p with arguments := { p.arguments with mode } }
  | .format =>
    let format ← choose Format.ofText? value
    return { p with arguments := { p.arguments with format } }

/-- The source is the first plain argument. A separator belongs to a source that it touches and to
a source that is still missing. -/
def read (p : Progress) : List Token → Except Stop Arguments
  | [] => if p.surplus then .error .misuse else .ok p.arguments
  | .plain t :: .separator :: rest =>
    if p.hasSource then read { p with surplus := true } rest else read (p.take t) rest
  | .separator :: .plain t :: rest =>
    if p.hasSource then read { p with surplus := true } rest else read (p.take t) rest
  | .plain t :: rest =>
    if p.hasSource then read { p with surplus := true } rest else read (p.take t) rest
  | .separator :: rest => read { p with surplus := p.surplus || p.hasSource } rest
  | .unknown :: rest => read { p with surplus := true } rest
  | .flags flags :: rest => do read (← p.setFlags flags) rest
  | .setting s (some value) :: rest => do read (← p.set s value) rest
  | .setting s none :: .plain value :: rest => do read (← p.set s value) rest
  | .setting _ none :: _ | .unwantedValue :: _ | .ambiguous :: _ => .error .misuse

end Progress

def Arguments.parse (arguments : List Text) : Except Stop Arguments :=
  let tokens := Token.ofArguments arguments
  if .ambiguous ∈ tokens then .error .misuse else Progress.read {} tokens

end CommandLine

end OnlineAssembler
