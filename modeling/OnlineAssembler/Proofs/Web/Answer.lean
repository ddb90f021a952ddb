import Mathlib
import OnlineAssembler.Proofs.Json.ReadBack
import OnlineAssembler.Proofs.Web.Respond

namespace OnlineAssembler.Web

structure Posts (m : Mode) (code : CodeText) (r : Request) : Prop where
  method : r.method = "POST".toList
  target : r.target = "/api/assemble".toList
  code : bodyField? r.body "code" = some (.string code)
  mode : bodyField? r.body "mode" = some (.string (.ofText m.name))

/-- Whatever text is submitted, there is a request that does so. -/
theorem posts_recordText (m : Mode) (source : Text) :
    Posts m (.ofText source) ⟨"POST".toList, "/api/assemble".toList,
      Utf8.encode (Json.recordText [("code".toList, source), ("mode".toList, m.name)])⟩ := by
  have hbody : Json.ofBytes nestingLimit
      (Utf8.encode (Json.recordText [("code".toList, source), ("mode".toList, m.name)])) = _ :=
    Json.ofBytes_recordText ("code".toList, source) [("mode".toList, m.name)] (nestingLimit - 1)
  refine ⟨rfl, rfl, ?_, ?_⟩
  · unfold bodyField?
    rw [hbody]
    rfl
  · unfold bodyField?
    rw [hbody]
    rfl

def report : Except ServiceError Assembly → Json
  | .ok a => .object [(.ofText "success".toList, .bool true), (.ofText "errors".toList, .array []),
      (.ofText "result".toList,
        .object (a.record.map fun f ↦ (.ofText f.1, .string (.ofText f.2))))]
  | .error e => .object [(.ofText "success".toList, .bool false),
      (.ofText "errors".toList, .array [.string e.message]),
      (.ofText "result".toList, .null)]

section

variable {host : Host} {m : Mode} {code : CodeText} {body : List UInt8} {fields : Json}

theorem exists_fieldsOf? {name : String} {v : Json} (h : bodyField? body name = some v) :
    ∃ fields, fieldsOf? body = some fields := by
  unfold bodyField? at h
  unfold fieldsOf?
  cases hbody : Json.ofBytes nestingLimit body with
  | error e =>
    rw [hbody] at h
    cases h
  | ok v =>
    rw [hbody] at h
    cases v with
    | object fields => exact ⟨.object fields, rfl⟩
    | _ => cases h

theorem codeOf_of_field? (h : fields.field? "code" = some (.string code)) :
    codeOf fields = .ok code := by
  unfold codeOf
  rw [h]

theorem isVacant_name (m : Mode) : (Json.string (.ofText m.name)).isVacant = false := by
  cases m <;> decide

theorem requestedMode_of_field? (d : CodeText)
    (h : fields.field? "mode" = some (.string (.ofText m.name))) :
    requestedMode d fields = .string (.ofText m.name) := by
  unfold requestedMode
  rw [h]
  simp only [isVacant_name, Bool.false_eq_true, if_false]

theorem read_api : Target.read "/api/assemble".toList = .ok ⟨[], [], "/api/assemble".toList⟩ := by
  cbv

theorem ofText_post : Method.ofText "POST".toList = .post := by cbv

/-- What a request to assemble is answered depends on the fields of its body only. -/
theorem respond_post {r : Request} {fields : Json} (host : Host)
    (hmethod : r.method = "POST".toList) (htarget : r.target = "/api/assemble".toList)
    (hfields : fieldsOf? r.body = some fields) :
    respond host r =
      { assemble host fields with
        answer := .ok (.json (envelope (assemble host fields).answer)) } := by
  have hread : Target.read r.target = .ok ⟨[], [], "/api/assemble".toList⟩ := by
    rw [htarget, read_api]
  have hpost : Method.ofText r.method = .post := by rw [hmethod, ofText_post]
  have hroute : Destination.of (Method.ofText r.method) ⟨[], [], "/api/assemble".toList⟩ =
      .route .api := by
    rw [hpost]
    exact destination_post (by decide) (by decide) rfl
  refine respond_eq hread hroute ?_ hfields
  rw [hpost]
  nofun

theorem envelope_mapError (answer : Except ServiceError Assembly) :
    envelope (answer.mapError .service) = report answer := by
  cases answer <;> rfl

/-- A request is the assembly of the code that it submits, and reports how that ended. -/
theorem respond_of_posts {r : Request} (host : Host) (h : Posts m code r) :
    (respond host r).events = (host.assemble m code).events ∧
      (respond host r).answer = .ok (.json (report (host.assemble m code).answer)) := by
  obtain ⟨fields, hfields⟩ := exists_fieldsOf? h.code
  have hcode : codeOf fields = .ok code := by
    refine codeOf_of_field? ?_
    rw [← field?_of_fieldsOf? hfields, h.code]
  have hrequested : requestedMode host.settings.defaultMode fields = .string (.ofText m.name) := by
    refine requestedMode_of_field? _ ?_
    rw [← field?_of_fieldsOf? hfields, h.mode]
  have hmode : Mode.ofJson? (requestedMode host.settings.defaultMode fields) = some m := by
    rw [hrequested, Mode.ofJson?_eq_some_iff]
  have hassemble : assemble host fields = (host.assemble m code).mapError .service :=
    assemble_of_ofJson?_eq_some hcode hmode
  rw [respond_post host h.method h.target hfields, hassemble]
  refine ⟨rfl, ?_⟩
  rw [← envelope_mapError]
  rfl

end

end OnlineAssembler.Web
