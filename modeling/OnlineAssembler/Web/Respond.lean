import OnlineAssembler.Json.Reader
import OnlineAssembler.Service
import OnlineAssembler.Web.Target

namespace OnlineAssembler.Web

inductive Method
  | get
  | head
  | post
  | options
  | other
deriving DecidableEq, Repr

/-- The upper case of a character. Beyond ASCII these alone have one that occurs in the name of a
method. -/
def Method.upper : Char → Text
  | 'ı' => ['I']
  | 'ſ' => ['S']
  | 'ﬅ' | 'ﬆ' => ['S', 'T']
  | c => [c.toUpper]

def Method.ofText (t : Text) : Method :=
  match String.ofList (t.flatMap upper) with
  | "GET" => get
  | "HEAD" => head
  | "POST" => post
  | "OPTIONS" => options
  | _ => other

def mergeSlashes : Text → Text
  | '/' :: '/' :: t => '/' :: mergeSlashes t
  | c :: t => c :: mergeSlashes t
  | [] => []

inductive Route
  | page
  | api
  | files
deriving DecidableEq, Repr

namespace Route

def ofPath? (path : Text) : Option Route :=
  if path = "/".toList then some page
  else if path = "/api/assemble".toList then some api
  else match "/static/".toList.isPrefixOf? path with
    | some (c :: t) => if c = '/' ∨ '\n' ∈ t then none else some files
    | _ => none

def admits : Route → Method → Bool
  | page, .get | page, .head | files, .get | files, .head | api, .post => true
  | _, .options => true
  | _, _ => false

end Route

inductive Destination
  | route (r : Route)
  | moved
  | badRequest
  | notFound
  | methodNotAllowed
deriving DecidableEq, Repr

/-- A path that leads nowhere by itself is tried with each pair of slashes as one, and the caller
is sent on to the path that was meant. The empty path means the page. -/
def Destination.of (method : Method) (target : Target) : Destination :=
  let admitted (r : Route) (d : Destination) :=
    if !r.admits method then methodNotAllowed else if target.isSocket then badRequest else d
  if !target.isNamed then badRequest
  else match Route.ofPath? target.path, Route.ofPath? (mergeSlashes target.path) with
  | some r, _ => admitted r (route r)
  | none, some r => admitted r moved
  | none, none =>
    if target.path = [] ∧ Route.page.admits method ∧ !target.isSocket then moved else notFound

namespace Page

def opening : List String :=
  ["<!DOCTYPE html>",
   "<html lang=\"en\">",
   "<head>",
   "<meta charset=\"utf-8\">",
   "<title>Online x86 / x64 Assembler</title>",
   "<style>",
   "  body \x7b font-family: sans-serif; max-width: 56em; margin: 2em auto; \x7d",
   "  textarea \x7b width: 100%; height: 14em; font-family: monospace; \x7d",
   "  pre \x7b background: #f4f4f4; padding: 0.5em; white-space: pre-wrap; word-break: break-all; \x7d",
   "  .error \x7b color: #a00; \x7d",
   "</style>",
   "</head>",
   "<body>",
   "<h1>Online x86 / x64 Assembler</h1>",
   "<form id=\"asm-form\">",
   "  <textarea id=\"code\" spellcheck=\"false\">mov eax, 1",
   "ret</textarea>",
   "  <p>"]

def closing : List String :=
  ["    <button type=\"submit\">Assemble</button>",
   "  </p>",
   "</form>",
   "<div id=\"output\"></div>"]

def script : List String :=
  ["<script>",
   "document.getElementById(\"asm-form\").addEventListener(\"submit\", async (ev) => \x7b",
   "  ev.preventDefault();",
   "  const mode = document.querySelector(\"input[name=mode]:checked\").value;",
   "  const resp = await fetch(\"/api/assemble\", \x7b",
   "    method: \"POST\",",
   "    headers: \x7b\"Content-Type\": \"application/json\"\x7d,",
   "    body: JSON.stringify(\x7bcode: document.getElementById(\"code\").value, mode\x7d),",
   "  \x7d);",
   "  const data = await resp.json();",
   "  const out = document.getElementById(\"output\");",
   "  out.replaceChildren();",
   "  if (!data.success) \x7b",
   "    const pre = document.createElement(\"pre\");",
   "    pre.className = \"error\";",
   "    pre.textContent = data.errors.join(\"\\n\");",
   "    out.append(pre);",
   "    return;",
   "  \x7d",
   "  const sections = [",
   "    [\"Raw Hex (zero bytes in bold)\", data.result.hex_zero_bold, true],",
   "    [\"String Literal\", '\"' + data.result.string + '\"', false],",
   "    [\"Array Literal\", data.result.array, false],",
   "    [\"Disassembly\", data.result.code, false],",
   "  ];",
   "  for (const [title, text, isHtml] of sections) \x7b",
   "    const h = document.createElement(\"h3\");",
   "    h.textContent = title;",
   "    const pre = document.createElement(\"pre\");",
   "    if (isHtml) \x7b pre.innerHTML = text; \x7d else \x7b pre.textContent = text; \x7d",
   "    out.append(h, pre);",
   "  \x7d",
   "\x7d);",
   "</script>",
   "</body>",
   "</html>"]

def choice (defaultMode : CodeText) (m : Mode) : List Text :=
  let checked := if CodeText.ofText m.name = defaultMode then "checked".toList else []
  ["    ".toList,
   "    <label><input type=\"radio\" name=\"mode\" value=\"".toList ++ m.name ++ ['"'],
   "      ".toList ++ checked ++ "> ".toList ++ m.name ++ "</label>".toList]

def html (defaultMode : CodeText) : Text :=
  Text.unlines (opening.map String.toList ++ Mode.all.flatMap (choice defaultMode) ++
    ["    ".toList] ++ (closing ++ script).map String.toList)

end Page

inductive ApiError
  | codeNotText
  | service (e : ServiceError)

def ApiError.message : ApiError → CodeText
  | codeNotText => .ofText "Field 'code' must be a string".toList
  | service e => e.message

def nestingLimit : Nat := 979

/-- The fields of a body, of which there are none unless it is an object. A body that is nested too
deeply cannot be read. -/
def fieldsOf? (body : List UInt8) : Option Json :=
  match Json.ofBytes nestingLimit body with
  | .ok (.object fields) => some (.object fields)
  | .error .tooDeep => none
  | _ => some (.object [])

def codeOf (fields : Json) : Except ApiError CodeText :=
  match fields.field? "code" with
  | none => .ok []
  | some (.string code) => .ok code
  | some _ => .error .codeNotText

def requestedMode (defaultMode : CodeText) (fields : Json) : Json :=
  match fields.field? "mode" with
  | none => .string defaultMode
  | some mode => if mode.isVacant then .string defaultMode else mode

def assemble (host : Host) (fields : Json) : Run ApiError Assembly :=
  let requested := requestedMode host.settings.defaultMode fields
  match codeOf fields, Mode.ofJson? requested with
  | .error e, _ => Run.fail e
  | .ok _, none => Run.fail (.service (.invalidMode requested))
  | .ok code, some mode => (host.assemble mode code).mapError .service

def envelope (answer : Except ApiError Assembly) : Json :=
  let (success, errors, result) : Bool × List Json × Json := match answer with
    | .ok a => (true, [], .object (a.record.map fun f ↦ (.ofText f.1, .string (.ofText f.2))))
    | .error e => (false, [.string e.message], .null)
  .object [(.ofText "success".toList, .bool success), (.ofText "errors".toList, .array errors),
    (.ofText "result".toList, result)]

structure Request where
  method : Text
  target : Text
  body : List UInt8
deriving DecidableEq, Repr

inductive Response
  | page (html : Text)
  | json (body : Json)
  | moved
  | badRequest
  | notFound
  | methodNotAllowed
  | failed

def Response.status : Response → Nat
  | page _ | json _ => 200
  | moved => 308
  | badRequest => 400
  | notFound => 404
  | methodNotAllowed => 405
  | failed => 500

/-- Each request is answered by itself: nothing is kept from one to the next. Only a method in
capital letters leaves out the page that was asked for. -/
def respond (host : Host) (r : Request) : Run TargetError Response :=
  let method := Method.ofText r.method
  match Target.read r.target with
  | .error e => Run.fail e
  | .ok target => match Destination.of method target with
    | .badRequest => return .badRequest
    | .notFound => return .notFound
    | .moved => return .moved
    | .methodNotAllowed => return .methodNotAllowed
    | .route .files => return if method = .options then .page [] else .notFound
    | .route .page =>
      let empty := method = .options ∨ r.method = "HEAD".toList
      return .page (if empty then [] else Page.html host.settings.defaultMode)
    | .route .api =>
      if method = .options then return .page []
      else match fieldsOf? r.body with
        | none => return .failed
        | some fields =>
          let run := assemble host fields
          { run with answer := .ok (.json (envelope run.answer)) }

end OnlineAssembler.Web
