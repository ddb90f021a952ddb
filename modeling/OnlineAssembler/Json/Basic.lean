import OnlineAssembler.Binary64
import OnlineAssembler.Text.Quoted

namespace OnlineAssembler

/-- A JSON value. Numbers with a fraction or an exponent are floating-point numbers, all others
are integers. The fields of an object stand in the order in which their names came first. -/
inductive Json
  | null
  | bool (b : Bool)
  | int (n : Int)
  | float (x : Binary64)
  | string (t : CodeText)
  | array (items : List Json)
  | object (fields : List (CodeText × Json))

namespace Json

variable {α : Type}

/-- A name that is there keeps its place and takes the new value. -/
def setField (name : CodeText) (value : α) : List (CodeText × α) → List (CodeText × α)
  | [] => [(name, value)]
  | (n, v) :: fields =>
    if n = name then (name, value) :: fields else (n, v) :: setField name value fields

def ofFields (fields : List (CodeText × Json)) : Json :=
  object (fields.foldl (fun o f ↦ setField f.1 f.2 o) [])

def field? (name : String) : Json → Option Json
  | object fields => fields.lookup (.ofText name.toList)
  | _ => none

def isVacant : Json → Bool
  | null => true
  | bool b => !b
  | int n => n = 0
  | float x => x.isZero
  | string t => t = []
  | array items => items.isEmpty
  | object fields => fields.isEmpty

mutual

def shown : Json → Text
  | null => "None".toList
  | bool true => "True".toList
  | bool false => "False".toList
  | int n => intText n
  | float x => x.text
  | string t => t.quoted
  | array items => '[' :: (List.intercalate [',', ' '] (shownItems items) ++ [']'])
  | object fields => '{' :: (List.intercalate [',', ' '] (shownFields fields) ++ ['}'])

def shownItems : List Json → List Text
  | [] => []
  | v :: items => shown v :: shownItems items

def shownFields : List (CodeText × Json) → List Text
  | [] => []
  | (name, v) :: fields => (name.quoted ++ ':' :: ' ' :: shown v) :: shownFields fields

end

/-- Messages show a text as it is, also where a surrogate stands alone in it. -/
def display : Json → CodeText
  | string t => t
  | v => .ofText v.shown

/-- Quotes, backslashes, control characters and all that is not ASCII are escaped; beyond U+FFFF
by the two halves of the character. -/
def escapeChar (c : Char) : Text :=
  if c = '"' ∨ c = '\\' then ['\\', c]
  else if c = '\x08' then ['\\', 'b']
  else if c = '\x0c' then ['\\', 'f']
  else if c = '\n' then ['\\', 'n']
  else if c = '\r' then ['\\', 'r']
  else if c = '\t' then ['\\', 't']
  else if 0x20 ≤ c.toNat ∧ c.toNat < 0x7F then [c]
  else (unitsOfChar c).flatMap fun u ↦ '\\' :: 'u' :: Text.hexDigits .lower 4 u.toNat

def stringLiteral (t : Text) : Text := '"' :: (t.flatMap escapeChar ++ ['"'])

def recordText (fields : List (Text × Text)) : Text :=
  let line (f : Text × Text) : Text :=
    ' ' :: ' ' :: (stringLiteral f.1 ++ ':' :: ' ' :: stringLiteral f.2)
  '\x7b' :: '\n' :: (List.intercalate [',', '\n'] (fields.map line) ++ ['\n', '\x7d'])

end Json

end OnlineAssembler
