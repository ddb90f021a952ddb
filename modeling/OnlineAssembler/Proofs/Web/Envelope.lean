import OnlineAssembler.Proofs.Service.Ending
import OnlineAssembler.Proofs.Web.Answer

namespace OnlineAssembler.Web

def object (fields : List (String × Json)) : Json :=
  .object (fields.map fun f ↦ (.ofText f.1.toList, f.2))

def text (t : Text) : Json := .string (.ofText t)

def refusal (message : CodeText) : Json :=
  object [("success", .bool false), ("errors", .array [.string message]), ("result", .null)]

def delivery (code hex hexZeroBold string array : Text) : Json :=
  object [("success", .bool true), ("errors", .array []), ("result", object [("code", text code),
    ("hex", text hex), ("hex_zero_bold", text hexZeroBold), ("string", text string),
    ("array", text array)])]

inductive IsEnvelope : Json → Prop
  | success (code hex hexZeroBold string array : Text) :
      IsEnvelope (delivery code hex hexZeroBold string array)
  | failure {message : CodeText} (hne : message ≠ []) : IsEnvelope (refusal message)

def HasFields (body : List UInt8) (fields : List (CodeText × Json)) : Prop :=
  Json.ofBytes nestingLimit body = .ok (.object fields) ∨
    (∀ others, Json.ofBytes nestingLimit body ≠ .ok (.object others)) ∧ fields = []

def GivesCode (fields : List (CodeText × Json)) (code : CodeText) : Prop :=
  fields.lookup (.ofText "code".toList) = some (.string code) ∨
    fields.lookup (.ofText "code".toList) = none ∧ code = []

inductive IsVacant : Json → Prop
  | null : IsVacant .null
  | false : IsVacant (.bool false)
  | int : IsVacant (.int 0)
  | float (negative : Bool) (exponent : Int) : IsVacant (.float (.finite negative 0 exponent))
  | string : IsVacant (.string [])
  | array : IsVacant (.array [])
  | object : IsVacant (.object [])

/-- The mode that is asked for among the fields. One that is missing or vacant leaves the choice to
the default. -/
def InEffect (defaultMode : CodeText) (fields : List (CodeText × Json)) (requested : Json) : Prop :=
  (fields.lookup (.ofText "mode".toList) = some requested ∧ ¬ IsVacant requested) ∨
    (∀ v ∈ fields.lookup (.ofText "mode".toList), IsVacant v) ∧
      requested = .string defaultMode

/-- How a request ends: at the first check that it does not pass, or with what the service makes of
it. -/
inductive Ends (host : Host) (fields : List (CodeText × Json)) : Json → List Event → Prop
  | codeNotText {v : Json} (hcode : fields.lookup (.ofText "code".toList) = some v)
      (hv : ∀ code, v ≠ .string code) :
      Ends host fields (refusal (.ofText "Field 'code' must be a string".toList)) []
  | invalidMode {code : CodeText} {requested : Json} (hcode : GivesCode fields code)
      (hmode : InEffect host.settings.defaultMode fields requested)
      (h : ∀ m : Mode, requested ≠ .string (.ofText m.name)) :
      Ends host fields (refusal (requested.display ++ .ofText " is not a valid mode.".toList)) []
  | unsafeCode {code : CodeText} {m : Mode} (hcode : GivesCode fields code)
      (hmode : InEffect host.settings.defaultMode fields (.string (.ofText m.name)))
      (h : ∀ source, code = .ofText source → ¬ IsAdmissible source) :
      Ends host fields
        (refusal (.ofText "The code is too long or contains a disallowed directive.".toList)) []
  | failed {source : Text} {m : Mode} {fault : Fault} {events : List Event}
      (hcode : GivesCode fields (.ofText source))
      (hmode : InEffect host.settings.defaultMode fields (.string (.ofText m.name)))
      (hevents : Compiles host m source events)
      (h : (host.assemble m (.ofText source)).answer = .error (.failed fault)) :
      Ends host fields (refusal (.ofText fault.report)) events
  | assembled {source : Text} {m : Mode} {a : Assembly} {events : List Event}
      (hcode : GivesCode fields (.ofText source))
      (hmode : InEffect host.settings.defaultMode fields (.string (.ofText m.name)))
      (hevents : Compiles host m source events)
      (h : (host.assemble m (.ofText source)).answer = .ok a) :
      Ends host fields (delivery a.code (MachineCode.hex a.bytes) (MachineCode.hexZeroBold a.bytes)
        (MachineCode.stringLiteral a.bytes) (MachineCode.arrayLiteral a.bytes)) events

section

variable {host : Host} {fields : List (CodeText × Json)} {code : CodeText} {requested : Json}

theorem codeOf_eq_ok_iff : codeOf (.object fields) = .ok code ↔ GivesCode fields code := by
  constructor
  · intro h
    exact field?_of_codeOf h
  · rintro (h | ⟨h, rfl⟩)
    · exact codeOf_of_field? h
    · have hfield : (Json.object fields).field? "code" = none := h
      unfold codeOf
      rw [hfield]

theorem codeOf_eq_error_iff {e : ApiError} : codeOf (.object fields) = .error e ↔
    e = .codeNotText ∧ ∃ v, fields.lookup (.ofText "code".toList) = some v ∧
      ∀ code, v ≠ .string code := by
  have hfield : (Json.object fields).field? "code" = fields.lookup (.ofText "code".toList) := rfl
  unfold codeOf
  rw [hfield]
  cases fields.lookup (.ofText "code".toList) with
  | none => simp
  | some v => cases v <;> simp [eq_comm]

theorem isVacant_iff {v : Json} : v.isVacant = true ↔ IsVacant v := by
  constructor
  · intro h
    cases v with
    | null => exact .null
    | bool b =>
      cases b with
      | false => exact .false
      | true => cases h
    | int n =>
      obtain rfl : n = 0 := of_decide_eq_true h
      exact .int
    | float x =>
      cases x with
      | finite negative mantissa exponent =>
        obtain rfl : mantissa = 0 := of_decide_eq_true h
        exact .float negative exponent
      | _ => cases h
    | string t =>
      obtain rfl : t = [] := of_decide_eq_true h
      exact .string
    | array items =>
      obtain rfl := List.isEmpty_iff.1 h
      exact .array
    | object fields =>
      obtain rfl := List.isEmpty_iff.1 h
      exact .object
  · intro h
    cases h <;> rfl

theorem requestedMode_eq_iff {defaultMode : CodeText} :
    requestedMode defaultMode (.object fields) = requested ↔
      InEffect defaultMode fields requested := by
  have hfield : (Json.object fields).field? "mode" = fields.lookup (.ofText "mode".toList) := rfl
  unfold requestedMode InEffect
  rw [hfield]
  cases fields.lookup (.ofText "mode".toList) with
  | none =>
    constructor
    · rintro rfl
      exact .inr ⟨nofun, rfl⟩
    · rintro (⟨h, -⟩ | ⟨-, rfl⟩)
      · cases h
      · rfl
  | some v =>
    simp only [Option.some.injEq, Option.mem_def, forall_eq']
    by_cases hv : IsVacant v
    · rw [if_pos (isVacant_iff.2 hv)]
      constructor
      · rintro rfl
        exact .inr ⟨hv, rfl⟩
      · rintro (⟨rfl, hfilled⟩ | ⟨-, rfl⟩)
        · exact absurd hv hfilled
        · rfl
    · rw [if_neg (mt isVacant_iff.1 hv)]
      constructor
      · rintro rfl
        exact .inl ⟨rfl, hv⟩
      · rintro (⟨h, -⟩ | ⟨hvacant, -⟩)
        · exact h
        · exact absurd hvacant hv

theorem ofJson?_eq_none_iff :
    Mode.ofJson? requested = none ↔ ∀ m : Mode, requested ≠ .string (.ofText m.name) := by
  simp only [Option.eq_none_iff_forall_ne_some, Ne, Mode.ofJson?_eq_some_iff]

theorem isEnvelope_of_ends {answer : Json} {events : List Event}
    (h : Ends host fields answer events) : IsEnvelope answer := by
  cases h with
  | codeNotText => exact .failure (by decide)
  | invalidMode => exact .failure (ServiceError.message_ne_nil (.invalidMode _))
  | unsafeCode => exact .failure (ServiceError.message_ne_nil .unsafeCode)
  | failed => exact .failure (ServiceError.message_ne_nil (.failed _))
  | assembled => exact .success _ _ _ _ _

theorem ends_service {m : Mode} (hcode : GivesCode fields code)
    (hmode : InEffect host.settings.defaultMode fields (.string (.ofText m.name))) :
    Ends host fields (report (host.assemble m code).answer) (host.assemble m code).events := by
  by_cases h : ∀ source, code = .ofText source → ¬ IsAdmissible source
  · have hrefused : (host.assemble m code).answer = .error .unsafeCode ∧
        (host.assemble m code).events = [] := Host.assemble_of_not_isAdmissible h
    rw [hrefused.1, hrefused.2]
    exact .unsafeCode hcode hmode h
  · push Not at h
    obtain ⟨source, rfl, hsource⟩ := h
    have hevents : Compiles host m source (host.assemble m (.ofText source)).events :=
      Host.compiles_of_isAdmissible hsource
    have hends : (∃ a, (host.assemble m (.ofText source)).answer = .ok a) ∨
        ∃ fault, (host.assemble m (.ofText source)).answer = .error (.failed fault) :=
      Host.answer_assemble_of_isAdmissible hsource
    rcases hends with ⟨a, hanswer⟩ | ⟨fault, hanswer⟩
    · rw [hanswer]
      exact .assembled hcode hmode hevents hanswer
    · rw [hanswer]
      exact .failed hcode hmode hevents hanswer

theorem envelope_assemble {m : Mode} (hcode : codeOf (.object fields) = .ok code)
    (hmode : Mode.ofJson? (requestedMode host.settings.defaultMode (.object fields)) = some m) :
    envelope (assemble host (.object fields)).answer = report (host.assemble m code).answer := by
  rw [assemble_of_ofJson?_eq_some hcode hmode]
  exact envelope_mapError _

/-- Fields are answered by the first check that they do not pass, and no check comes behind a
started program. -/
theorem ends_assemble (host : Host) (fields : List (CodeText × Json)) :
    Ends host fields (envelope (assemble host (.object fields)).answer)
      (assemble host (.object fields)).events := by
  cases hcode : codeOf (.object fields) with
  | error e =>
    rw [assemble_of_codeOf_eq_error hcode]
    obtain ⟨rfl, v, hfield, hv⟩ := codeOf_eq_error_iff.1 hcode
    exact .codeNotText hfield hv
  | ok code =>
    have hgives := codeOf_eq_ok_iff.1 hcode
    have hmode : InEffect host.settings.defaultMode fields
        (requestedMode host.settings.defaultMode (.object fields)) := requestedMode_eq_iff.1 rfl
    cases hm : Mode.ofJson? (requestedMode host.settings.defaultMode (.object fields)) with
    | none =>
      rw [assemble_of_ofJson?_eq_none hcode hm]
      exact .invalidMode hgives hmode (ofJson?_eq_none_iff.1 hm)
    | some m =>
      -- The mode in effect is the name of a mode, and the service decides the rest.
      rw [Mode.ofJson?_eq_some_iff.1 hm] at hmode
      rw [envelope_assemble hcode hm, events_assemble hcode hm]
      exact ends_service hgives hmode

/-- The checks come in one order only, so that no two ends are open to the same fields. -/
theorem eq_of_ends {answer : Json} {events : List Event} (h : Ends host fields answer events) :
    answer = envelope (assemble host (.object fields)).answer := by
  have hreport {code : CodeText} {m : Mode} (hcode : GivesCode fields code)
      (hmode : InEffect host.settings.defaultMode fields (.string (.ofText m.name))) :
      envelope (assemble host (.object fields)).answer = report (host.assemble m code).answer :=
    envelope_assemble (codeOf_eq_ok_iff.2 hcode)
      (Mode.ofJson?_eq_some_iff.2 (requestedMode_eq_iff.2 hmode))
  cases h with
  | codeNotText hcode hv =>
    rw [assemble_of_codeOf_eq_error (codeOf_eq_error_iff.2 ⟨rfl, _, hcode, hv⟩)]
    rfl
  | invalidMode hcode hmode h =>
    have hnone := ofJson?_eq_none_iff.2 h
    rw [← requestedMode_eq_iff.2 hmode] at hnone ⊢
    rw [assemble_of_ofJson?_eq_none (codeOf_eq_ok_iff.2 hcode) hnone]
    rfl
  | unsafeCode hcode hmode h =>
    rw [hreport hcode hmode, (Host.assemble_of_not_isAdmissible h).1]
    rfl
  | failed hcode hmode _ h =>
    rw [hreport hcode hmode, h]
    rfl
  | assembled hcode hmode _ h =>
    rw [hreport hcode hmode, h]
    rfl

end

theorem exists_hasFields {body : List UInt8}
    (hdepth : Json.ofBytes nestingLimit body ≠ .error .tooDeep) :
    ∃ fields, HasFields body fields ∧ fieldsOf? body = some (.object fields) := by
  unfold HasFields fieldsOf?
  cases hbody : Json.ofBytes nestingLimit body with
  | error e =>
    cases e with
    | tooDeep => exact absurd hbody hdepth
    | malformed => exact ⟨[], .inr ⟨nofun, rfl⟩, rfl⟩
  | ok v =>
    cases v with
    | object fields => exact ⟨fields, .inl rfl, rfl⟩
    | _ => exact ⟨[], .inr ⟨nofun, rfl⟩, rfl⟩

theorem ofBytes_empty (depth : Nat) : Json.ofBytes (depth + 1) [0x7b, 0x7d] = .ok (.object []) := by
  have hread : Json.reading (Json.readValue (depth + 1) [.char '\x7b', .char '\x7d']) =
      .ok (.object [], []) := by
    rw [Json.readValue]
    rfl
  exact Json.ofCodeText_of_reading (s := [.char '\x7b', .char '\x7d']) hread rfl

/-- What fields are answered is an envelope, and the only one that they can end in. -/
structure Answers (host : Host) (fields : List (CodeText × Json)) (answer : Json)
    (events : List Event) : Prop where
  isEnvelope : IsEnvelope answer
  ends : Ends host fields answer events
  unique : ∀ {other left}, Ends host fields other left → other = answer

theorem answers_assemble (host : Host) (fields : List (CodeText × Json)) :
    Answers host fields (envelope (assemble host (.object fields)).answer)
      (assemble host (.object fields)).events :=
  have h := ends_assemble host fields
  ⟨isEnvelope_of_ends h, h, eq_of_ends⟩

/-- A request to assemble is answered by an envelope, whatever its body is. Its fields pass through
one check after the other: whether the code is a text, whether the mode is one, and whether the code
may be assembled. Only behind the last of them are programs started. A body that has no fields is
taken for an empty object. Fields that the limits of the reader keep out would be answered in the
same way. -/
theorem respond_ends (host : Host) :
    (∀ fields, Answers host fields (envelope (assemble host (.object fields)).answer)
      (assemble host (.object fields)).events) ∧
    ∀ r : Request, r.method = "POST".toList → r.target = "/api/assemble".toList →
      Json.ofBytes nestingLimit r.body ≠ .error .tooDeep →
        (∃ fields answer, HasFields r.body fields ∧
          (respond host r).answer = .ok (.json answer) ∧ (Response.json answer).status = 200 ∧
          Answers host fields answer (respond host r).events) ∧
        ((∀ fields, Json.ofBytes nestingLimit r.body ≠ .ok (.object fields)) →
          respond host r = respond host { r with body := [0x7b, 0x7d] }) := by
  refine ⟨answers_assemble host, ?_⟩
  intro r hmethod htarget hdepth
  obtain ⟨fields, hbody, hfields⟩ := exists_hasFields hdepth
  rw [respond_post host hmethod htarget hfields]
  constructor
  · exact ⟨fields, _, hbody, rfl, rfl, answers_assemble host fields⟩
  · intro hno
    rcases hbody with hbody | ⟨-, rfl⟩
    · exact absurd hbody (hno fields)
    · have hread : Json.ofBytes nestingLimit [0x7b, 0x7d] = .ok (.object []) :=
        ofBytes_empty (nestingLimit - 1)
      have hempty : fieldsOf? [0x7b, 0x7d] = some (.object []) := by
        unfold fieldsOf?
        rw [hread]
      exact (respond_post (r := { r with body := [0x7b, 0x7d] }) host hmethod htarget hempty).symm

/-- A mode is reported as it was asked for, here with a surrogate that stands alone, and before a
code that may not be assembled. -/
theorem respond_ends_surrogate :
    let body := Utf8.encode "\x7b\"code\":\".fill\",\"mode\":\"\\ud800\"\x7d".toList
    let r : Request := ⟨"POST".toList, "/api/assemble".toList, body⟩
    r.method = "POST".toList ∧ r.target = "/api/assemble".toList ∧
      Json.ofBytes nestingLimit r.body ≠ .error .tooDeep ∧
      (respond Host.stalled r).answer =
        .ok (.json (refusal (.surrogate 0 :: CodeText.ofText " is not a valid mode.".toList))) := by
  intro body r
  have hread (depth : Nat) : Json.ofBytes (depth + 1) body =
      .ok (.object [(.ofText "code".toList, .string (.ofText ".fill".toList)),
        (.ofText "mode".toList, .string [.surrogate 0])]) := by
    have hdetect : Json.detect body = (.utf8, body) := rfl
    rw [Json.ofBytes, hdetect, Json.decode?, Utf8.decodeLoose_encode]
    cbv
  have hbody : Json.ofBytes nestingLimit r.body = _ := hread (nestingLimit - 1)
  have hdepth : Json.ofBytes nestingLimit r.body ≠ .error .tooDeep := by
    rw [hbody]
    intro h
    cases h
  obtain ⟨⟨fields, answer, hfields, hanswer, -, h⟩, -⟩ :=
    (respond_ends Host.stalled).2 r rfl rfl hdepth
  refine ⟨rfl, rfl, hdepth, hanswer.trans ?_⟩
  rcases hfields with hfields | ⟨hno, -⟩
  · obtain rfl := Json.object.inj (Except.ok.inj (hbody.symm.trans hfields))
    have hnone : Mode.ofJson? (.string [.surrogate 0]) = none := rfl
    have hmode := ofJson?_eq_none_iff.1 hnone
    have hfilled : ¬ IsVacant (.string [.surrogate 0]) := by
      intro h
      cases h
    rw [← h.unique (.invalidMode (.inl rfl) (.inl ⟨rfl, hfilled⟩) hmode)]
    rfl
  · exact absurd hbody (hno _)

end OnlineAssembler.Web
