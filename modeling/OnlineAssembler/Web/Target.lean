import OnlineAssembler.Binary64
import OnlineAssembler.Text.CodePoint
import OnlineAssembler.Text.Digit
import OnlineAssembler.Web.Label

namespace OnlineAssembler.Web

namespace Escape

def ofByte (b : UInt8) : Text := '%' :: Text.hexDigits .upper 2 b.toNat

def ofText (t : Text) : Text :=
  t.flatMap fun c ↦
    if c.isAlphanum || "-._~%!$&'()*+,;=".toList.contains c then [c]
    else (Utf8.encodeChar c).flatMap ofByte

def bytes : Text → List UInt8
  | '%' :: high :: low :: t => match Text.byteOfDigits? high low with
    | some b => b :: bytes t
    | none => Utf8.encodeChar '%' ++ bytes (high :: low :: t)
  | c :: t => Utf8.encodeChar c ++ bytes t
  | [] => []

/-- The characters for which bytes stand, once the first `skip` of them are left out. The reserved
ones stay escaped, and so do bytes that stand for no character. -/
def unescape (isReserved : Char → Bool) : (skip : Nat) → List UInt8 → Text
  | _, [] => []
  | skip + 1, _ :: bytes => unescape isReserved skip bytes
  | 0, b :: bytes =>
    let char? (width : Nat) : Option (Nat × Char) :=
      match Utf8.decode (b :: bytes.take width) with
      | some [c] => if isReserved c then none else some (width, c)
      | _ => none
    match [0, 1, 2, 3].findSome? char? with
    | some (width, c) => c :: unescape isReserved width bytes
    | none => ofByte b ++ unescape isReserved 0 bytes

end Escape

namespace Address

def isOctet (t : Text) : Bool :=
  t ≠ [] && t.length ≤ 3 && t.all Char.isDigit && (t = ['0'] || t.head? ≠ some '0') &&
    Numeral.digitsValue t ≤ 255

def isFourOctets (t : Text) : Bool :=
  let parts := t.splitOn '.'
  parts.length = 4 && parts.all isOctet

def isGroup (t : Text) : Bool := t ≠ [] && t.length ≤ 4 && t.all Text.isHexDigit

def groups? : List Text → Option Nat
  | [] => some 0
  | [t] => if isGroup t then some 1 else if isFourOctets t then some 2 else none
  | t :: ts => if isGroup t then (groups? ts).map (· + 1) else none

/-- Eight groups with colons between them. One pair of colons stands for all the groups that are
missing, which is at least one. -/
def isEightGroups (t : Text) : Bool :=
  match Text.after? [':', ':'] t with
  | none => groups? (t.splitOn ':') = some 8
  | some after =>
    let side (u : Text) : List Text := if u = [] then [] else u.splitOn ':'
    let before := side (t.take (t.length - after.length - 2))
    before.all isGroup && match groups? (side after) with
      | some n => before.length + n < 8
      | none => false

/-- An address that may stand in brackets: eight groups, if need be with a zone behind a percent
sign, or a form that is yet to come, told by its version. -/
def isBracketable : Text → Bool
  | 'v' :: t =>
    let form := t.dropWhile (· ≠ '.')
    t.head? ≠ some '.' && (t.takeWhile (· ≠ '.')).all Text.isHexDigit && 2 ≤ form.length
  | t =>
    let zone := t.dropWhile (· ≠ '%')
    isEightGroups (t.takeWhile (· ≠ '%')) && zone ≠ ['%'] && (zone.drop 1).all (· ≠ '%')

end Address

inductive TargetError
  | malformedAuthority
  | malformedHost
deriving DecidableEq, Repr

structure Authority where
  user : Text
  password : Text
  host : Text
  channel : Text
deriving DecidableEq, Repr

namespace Authority

def splitUser (t : Text) : Text × Text :=
  let back := t.reverse
  (((back.dropWhile (· ≠ '@')).drop 1).reverse, (back.takeWhile (· ≠ '@')).reverse)

def splitHost (t : Text) : Text × Text × Text :=
  match t.dropWhile (· ≠ '[') with
  | _ :: u => (t.takeWhile (· ≠ '['), u.takeWhile (· ≠ ']'), (u.dropWhile (· ≠ ']')).drop 1)
  | [] => ([], t.takeWhile (· ≠ ':'), t.dropWhile (· ≠ ':'))

def hasValidBrackets (t : Text) : Bool :=
  if t.contains '[' && t.contains ']' then
    let (before, host, after) := splitHost (splitUser t).2
    before = [] && (after = [] || after.head? = some ':') && Address.isBracketable host
  else t.contains '[' == t.contains ']'

/-- Characters whose compatibility form in Unicode 14 holds a slash, a question mark, a number
sign, an at sign or a colon. -/
def delimiterLikeBounds : List Nat :=
  [0x2047, 0x204A, 0x2100, 0x2102, 0x2105, 0x2107, 0x2A74, 0x2A75, 0xFE13, 0xFE14, 0xFE16, 0xFE17,
   0xFE55, 0xFE57, 0xFE5F, 0xFE60, 0xFE6B, 0xFE6C, 0xFF03, 0xFF04, 0xFF0F, 0xFF10, 0xFF1A, 0xFF1B,
   0xFF1F, 0xFF21]

def check (t : Text) : Except TargetError Unit :=
  if hasValidBrackets t && !t.any (Text.isWithin delimiterLikeBounds) then .ok ()
  else .error .malformedAuthority

def ofText (t : Text) : Authority :=
  let (user, place) := splitUser t
  let (_, host, channel) := splitHost place
  { user := user.takeWhile (· ≠ ':')
    password := (user.dropWhile (· ≠ ':')).drop 1
    host := (host.takeWhile (· ≠ '%')).map Char.toLower ++ host.dropWhile (· ≠ '%')
    channel := (channel.dropWhile (· ≠ ':')).drop 1 }

def channelNumber? (channel : Text) : Option Nat :=
  let n := Numeral.digitsValue channel
  if channel.all Char.isDigit && n ≤ 65535 then some n else none

def join (user password host : Text) (channel : Nat) : Text :=
  (if user = [] then [] else user ++ (if password = [] then [] else ':' :: password) ++ ['@']) ++
  (if ':' ∈ host then '[' :: (host ++ [']']) else host) ++
  (if channel = 0 then [] else ':' :: natText channel)

def render (a : Authority) : Except TargetError Text :=
  match Label.hostToAscii? a.host, channelNumber? a.channel with
  | none, _ => .error .malformedHost
  | _, none => .error .malformedAuthority
  | some host, some n => .ok (join (Escape.ofText a.user) (Escape.ofText a.password) host n)

def isReserved (c : Char) : Bool :=
  c.toNat ≤ 0x20 || c = '\x7f' || "%:@/?#".toList.contains c

def display (a : Authority) : Except TargetError Text :=
  let shown (t : Text) : Text := Escape.unescape isReserved 0 (Escape.bytes t)
  match Label.hostToUnicode? a.host, channelNumber? a.channel with
  | none, _ => .error .malformedHost
  | _, none => .error .malformedAuthority
  | some host, some n => .ok (join (shown a.user) (shown a.password) host n)

end Authority

structure Reference where
  scheme : Text
  authority : Text
  path : Text
deriving DecidableEq, Repr

namespace Reference

def clean (t : Text) : Text :=
  (t.dropWhile (·.toNat ≤ 0x20)).filter fun c ↦ c ≠ '\t' && c ≠ '\n' && c ≠ '\r'

def isSchemeChar (c : Char) : Bool := c.isAlphanum || c = '+' || c = '-' || c = '.'

def splitScheme (t : Text) : Text × Text :=
  match t.takeWhile isSchemeChar, t.dropWhile isSchemeChar with
  | c :: scheme, ':' :: rest =>
    if c.isAlpha then ((c :: scheme).map Char.toLower, rest) else ([], t)
  | _, _ => ([], t)

def isInAuthority (c : Char) : Bool := c ≠ '/' && c ≠ '?' && c ≠ '#'

def splitAuthority : Text → Text × Text
  | '/' :: '/' :: t => (t.takeWhile isInAuthority, t.dropWhile isInAuthority)
  | t => ([], t)

def read (t : Text) : Except TargetError Reference := do
  let (scheme, t) := splitScheme (clean t)
  let (authority, t) := splitAuthority t
  Authority.check authority
  return { scheme, authority, path := t.takeWhile fun c ↦ c ≠ '?' && c ≠ '#' }

def render (r : Reference) : Except TargetError Text := do
  let authority ← (Authority.ofText r.authority).render
  let place := if authority = [] then r.path else '/' :: '/' :: (authority ++ r.path)
  return if r.scheme = [] then place else r.scheme ++ ':' :: place

end Reference

structure Target where
  scheme : Text
  authority : Text
  path : Text
deriving DecidableEq, Repr

namespace Target

def rooted (path : Text) : Text :=
  match path with
  | [] => []
  | t => '/' :: t.dropWhile (· = '/')

/-- A target is a reference, and so is its path, and the path of that again. The scheme and the
authority are those of the first, while of the last all is part of the path. The authority has to
be well-formed in every form that it takes. -/
def read (t : Text) : Except TargetError Target := do
  let outer ← Reference.read t
  let middle ← Reference.read outer.path
  let path ← (← Reference.read middle.path).render
  let authority ← (Authority.ofText outer.authority).render
  Authority.check authority
  Authority.check (← (Authority.ofText authority).display)
  let bytes := (Escape.bytes path).map fun b ↦ Char.ofNat b.toNat
  return { scheme := outer.scheme, authority, path := rooted bytes }

def isNamed (t : Target) : Bool := (Label.hostToAscii? (t.authority.takeWhile (· ≠ ':'))).isSome

def isSocket (t : Target) : Bool := t.scheme = "ws".toList || t.scheme = "wss".toList

end Target

end OnlineAssembler.Web
