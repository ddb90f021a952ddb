import OnlineAssembler.Proofs.Service.Compilation
import OnlineAssembler.Web.Respond

namespace OnlineAssembler.Web

def serve (requests : List (Host × Request)) : List (Run TargetError Response) :=
  requests.map fun q ↦ respond q.1 q.2

def bodyField? (body : List UInt8) (name : String) : Option Json :=
  match Json.ofBytes nestingLimit body with
  | .ok fields => fields.field? name
  | .error _ => none

def Submits (body : List UInt8) (code : CodeText) : Prop :=
  bodyField? body "code" = some (.string code) ∨ bodyField? body "code" = none ∧ code = []

def AsksFor (settings : Settings) (body : List UInt8) (mode : Mode) : Prop :=
  bodyField? body "mode" = some (.string (.ofText mode.name)) ∨
    (∀ v ∈ bodyField? body "mode", v.isVacant = true) ∧ settings.defaultMode = .ofText mode.name

variable {host : Host} {fields : Json}

theorem field?_of_fieldsOf? {body : List UInt8} (h : fieldsOf? body = some fields) (name : String) :
    bodyField? body name = fields.field? name := by
  unfold fieldsOf? at h
  unfold bodyField?
  cases hbody : Json.ofBytes nestingLimit body with
  | error e =>
    rw [hbody] at h
    cases e with
    | tooDeep => cases h
    | malformed =>
      obtain rfl := Option.some.inj h
      rfl
  | ok v =>
    rw [hbody] at h
    cases v with
    | object fields =>
      obtain rfl := Option.some.inj h
      rfl
    | _ =>
      obtain rfl := Option.some.inj h
      rfl

theorem fieldsOf?_nil : fieldsOf? [] = some (.object []) := by
  have hvalue (depth : Nat) : Json.readValue depth [] = .error .malformed := by
    rw [Json.readValue]
  have hbody (depth : Nat) : Json.ofBytes depth [] = .error .malformed := by
    change (Json.readValue depth [] >>= _) = _
    rw [hvalue]
    rfl
  rw [fieldsOf?, hbody]

theorem field?_of_codeOf {code : CodeText} (h : codeOf fields = .ok code) :
    fields.field? "code" = some (.string code) ∨ fields.field? "code" = none ∧ code = [] := by
  unfold codeOf at h
  split at h
  · rename_i hfield
    exact .inr ⟨hfield, (Except.ok.inj h).symm⟩
  · rename_i t hfield
    obtain rfl := Except.ok.inj h
    exact .inl hfield
  · cases h

theorem field?_of_requestedMode {d : CodeText} {mode : Mode}
    (h : Mode.ofJson? (requestedMode d fields) = some mode) :
    fields.field? "mode" = some (.string (.ofText mode.name)) ∨
      (∀ v ∈ fields.field? "mode", v.isVacant = true) ∧ d = .ofText mode.name := by
  rw [Mode.ofJson?_eq_some_iff] at h
  unfold requestedMode at h
  cases hfield : fields.field? "mode" with
  | none =>
    rw [hfield] at h
    exact .inr ⟨nofun, Json.string.inj h⟩
  | some v =>
    rw [hfield] at h
    simp only at h
    split at h
    · rename_i hvacant
      refine .inr ⟨fun w hw ↦ ?_, Json.string.inj h⟩
      obtain rfl := Option.some.inj hw
      exact hvacant
    · exact .inl (congrArg some h)

theorem destination_post {target : Target} (hnamed : target.isNamed = true)
    (hsocket : target.isSocket = false) (hpath : target.path = "/api/assemble".toList) :
    Destination.of .post target = .route .api := by
  have hroute : Route.ofPath? target.path = some .api := by
    rw [hpath]
    decide
  unfold Destination.of
  simp [hnamed, hroute, hsocket, Route.admits]

theorem respond_eq {r : Request} {target : Target} (htarget : Target.read r.target = .ok target)
    (hroute : Destination.of (Method.ofText r.method) target = .route .api)
    (hmethod : Method.ofText r.method ≠ .options) (hfields : fieldsOf? r.body = some fields) :
    respond host r =
      { assemble host fields with
        answer := .ok (.json (envelope (assemble host fields).answer)) } := by
  unfold respond
  rw [htarget]
  simp only [hroute, if_neg hmethod, hfields]

theorem events_respond_cases (host : Host) (r : Request) :
    (respond host r).events = [] ∨ ∃ fields, fieldsOf? r.body = some fields ∧
      (respond host r).events = (assemble host fields).events := by
  unfold respond
  cases Target.read r.target with
  | error e => exact .inl rfl
  | ok target =>
    simp only
    cases Destination.of (Method.ofText r.method) target with
    | route route =>
      cases route with
      | page => exact .inl rfl
      | files => exact .inl rfl
      | api =>
        simp only
        split
        · exact .inl rfl
        · cases hfields : fieldsOf? r.body with
          | none => exact .inl rfl
          | some fields => exact .inr ⟨fields, rfl, rfl⟩
    | _ => exact .inl rfl

section

variable {c : CodeText} {m : Mode}

theorem assemble_of_codeOf_eq_error {e : ApiError} (h : codeOf fields = .error e) :
    assemble host fields = Run.fail e := by
  unfold assemble
  simp only [h]

theorem assemble_of_ofJson?_eq_none (hcode : codeOf fields = .ok c)
    (hmode : Mode.ofJson? (requestedMode host.settings.defaultMode fields) = none) :
    assemble host fields =
      Run.fail (.service (.invalidMode (requestedMode host.settings.defaultMode fields))) := by
  unfold assemble
  simp only [hcode, hmode]

theorem assemble_of_ofJson?_eq_some (hcode : codeOf fields = .ok c)
    (hmode : Mode.ofJson? (requestedMode host.settings.defaultMode fields) = some m) :
    assemble host fields = (host.assemble m c).mapError .service := by
  unfold assemble
  simp only [hcode, hmode]

theorem events_assemble (hcode : codeOf fields = .ok c)
    (hmode : Mode.ofJson? (requestedMode host.settings.defaultMode fields) = some m) :
    (assemble host fields).events = (host.assemble m c).events := by
  rw [assemble_of_ofJson?_eq_some hcode hmode, Run.events_mapError]

end

theorem compiles_assemble (h : (assemble host fields).calls ≠ []) :
    ∃ mode source, codeOf fields = .ok (.ofText source) ∧
      Mode.ofJson? (requestedMode host.settings.defaultMode fields) = some mode ∧
      Compiles host mode source (assemble host fields).events := by
  cases hcode : codeOf fields with
  | error e =>
    rw [assemble_of_codeOf_eq_error hcode] at h
    exact absurd rfl h
  | ok code =>
    cases hmode : Mode.ofJson? (requestedMode host.settings.defaultMode fields) with
    | none =>
      rw [assemble_of_ofJson?_eq_none hcode hmode] at h
      exact absurd rfl h
    | some mode =>
      rw [Run.calls, events_assemble hcode hmode] at h
      rw [events_assemble hcode hmode]
      obtain ⟨source, rfl, hsource⟩ := Host.compiles_of_calls_ne_nil h
      exact ⟨mode, source, rfl, rfl, hsource⟩

theorem compiles_of_respond {r : Request} (h : (respond host r).calls ≠ []) :
    ∃ mode source, Submits r.body (.ofText source) ∧ AsksFor host.settings r.body mode ∧
      Compiles host mode source (respond host r).events := by
  rcases events_respond_cases host r with hevents | ⟨fields, hfields, hevents⟩
  · rw [Run.calls, hevents] at h
    exact absurd rfl h
  · rw [Run.calls, hevents] at h
    rw [hevents]
    obtain ⟨mode, source, hcode, hmode, hsource⟩ := compiles_assemble h
    refine ⟨mode, source, ?_, ?_, hsource⟩
    · unfold Submits
      rw [field?_of_fieldsOf? hfields]
      exact field?_of_codeOf hcode
    · unfold AsksFor
      rw [field?_of_fieldsOf? hfields]
      exact field?_of_requestedMode hmode

end OnlineAssembler.Web
