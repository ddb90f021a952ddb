import Mathlib
import OnlineAssembler.Proofs.CommandLine.Invocation
import OnlineAssembler.Proofs.Service.Session
import OnlineAssembler.Proofs.Web.Answer

namespace OnlineAssembler

open CommandLine (Arguments Input Invokes Reports Token)
open Session (modeAfter)
open Web (AsksFor Posts Request Submits)

/-- Nothing reaches the compiler past the checks. Whatever a session, a command line or a request
starts is the compilation of the admissible source that was submitted there, for the mode in effect
there; and a session compiles every admissible source that is submitted to it. -/
theorem compiles_only_checked :
    (∀ opening s, Session.start opening = .ok s → ∀ steps i,
      (∀ answer t, (s.run steps)[i]? = some (answer, t) → Event.calls answer.events ≠ [] →
        ∃ host source, steps[i]? = some (.assemble host (.ofText source)) ∧
          Compiles host (modeAfter opening (steps.take i)) source answer.events) ∧
      ∀ host source, steps[i]? = some (.assemble host (.ofText source)) → IsAdmissible source →
        ∃ answer t, (s.run steps)[i]? = some (answer, t) ∧
          Compiles host (modeAfter opening (steps.take i)) source answer.events) ∧
    (∀ host (input : Input) arguments,
      (CommandLine.run host input arguments).calls ≠ [] →
        ∃ a mode text, Arguments.parse arguments = .ok a ∧
          (Token.modeValues (Token.ofArguments arguments)).getLastD Mode.standard.name = mode.name ∧
          input.bytes a.source = .ok (Utf8.encode text) ∧
          Compiles host mode (Text.normalizeLineEnds text)
            (CommandLine.run host input arguments).events) ∧
    ∀ (requests : List (Host × Request)) (i : Nat) r, (Web.serve requests)[i]? = some r →
      r.calls ≠ [] →
        ∃ host request mode source, requests[i]? = some (host, request) ∧
          Submits request.body (.ofText source) ∧ AsksFor host.settings request.body mode ∧
          Compiles host mode source r.events := by
  refine ⟨fun opening s hs steps i ↦ ⟨fun answer t hi hcalls ↦ ?_, fun host source hi h ↦ ?_⟩,
    fun host input arguments h ↦ ?_, fun requests i r hi h ↦ ?_⟩
  · exact Session.compiles_of_run hs hi hcalls
  · exact Session.run_compiles hs hi h
  · obtain ⟨a, mode, text, ha, hmode, htext, hrun⟩ := CommandLine.compiles_of_run h
    exact ⟨a, mode, text, ha, Arguments.name_of_parse ha hmode, htext, hrun⟩
  · rw [Web.serve, List.getElem?_map] at hi
    obtain ⟨q, hq, rfl⟩ := Option.map_eq_some_iff.1 hi
    obtain ⟨mode, source, hcode, hmode, hsource⟩ := Web.compiles_of_respond h
    exact ⟨q.1, q.2, mode, source, hq, hcode, hmode, hsource⟩

theorem compiles_only_checked_nop :
    (∃ s answer t, Session.start none = .ok s ∧
      (s.run [.setMode (.string (.ofText "x64".toList)),
        .assemble Host.stalled (.ofText "nop".toList)])[1]? = some (answer, t) ∧
      Compiles Host.stalled .x64 "nop".toList answer.events) ∧
    (∃ mode text, mode.name = "x64".toList ∧ Utf8.encode text = [110, 111, 112, 13, 10] ∧
      Compiles Host.stalled mode (Text.normalizeLineEnds text)
        (CommandLine.run Host.stalled ⟨[110, 111, 112, 13, 10], fun _ ↦ .error .notFound⟩
          ["--mode".toList, "x64".toList]).events) ∧
    ∃ mode source, Submits [] (.ofText source) ∧ AsksFor Host.stalled.settings [] mode ∧
      Compiles Host.stalled mode source
        (Web.respond Host.stalled ⟨"POST".toList, "/api/assemble".toList, []⟩).events := by
  have hnop : IsAdmissible "nop".toList := ⟨by decide, by decide⟩
  have hline : IsAdmissible "nop\n".toList := ⟨by decide, by decide⟩
  have hempty : IsAdmissible [] := ⟨by decide, by decide⟩
  obtain ⟨hsession, hrun, hserve⟩ := compiles_only_checked
  refine ⟨?_, ?_, ?_⟩
  · obtain ⟨answer, t, hi, hcompiles⟩ := (hsession none ⟨.standard⟩ rfl
      [.setMode (.string (.ofText "x64".toList)), .assemble Host.stalled (.ofText "nop".toList)]
      1).2 Host.stalled "nop".toList rfl hnop
    exact ⟨_, answer, t, rfl, hi, hcompiles⟩
  · have hcalls : (CommandLine.run Host.stalled
        ⟨[110, 111, 112, 13, 10], fun _ ↦ .error .notFound⟩
        ["--mode".toList, "x64".toList]).calls ≠ [] := by
      rw [Run.calls,
        CommandLine.events_run (a := { mode := some .x64 }) (s := "nop\n".toList) rfl rfl rfl]
      exact (Host.compiles_of_isAdmissible hline).calls_ne_nil
    obtain ⟨a, mode, text, ha, hmode, htext, hcompiles⟩ := hrun _ _ _ hcalls
    obtain rfl : { mode := some .x64 } = a := Except.ok.inj ha
    exact ⟨mode, text, hmode.symm, (Except.ok.inj htext).symm, hcompiles⟩
  · have hcalls : (Web.respond Host.stalled
        ⟨"POST".toList, "/api/assemble".toList, []⟩).calls ≠ [] := by
      rw [Run.calls, Web.respond_post Host.stalled rfl rfl Web.fieldsOf?_nil,
        Web.events_assemble (c := .ofText []) (m := .x86) rfl rfl]
      exact (Host.compiles_of_isAdmissible hempty).calls_ne_nil
    obtain ⟨host, request, mode, source, hrequest, hcode, hasks, hcompiles⟩ :=
      hserve [(Host.stalled, ⟨"POST".toList, "/api/assemble".toList, []⟩)] 0 _ rfl hcalls
    obtain ⟨rfl, rfl⟩ := Prod.mk.inj (Option.some.inj hrequest)
    exact ⟨mode, source, hcode, hasks, hcompiles⟩

/-- A session, the command line and the web page agree: from the same code and mode they start the
same programs on the same source, and they report the same assembly or the same error. -/
theorem front_ends_agree (host : Host) (mode : Mode) {s : Text} (hs : '\r' ∉ s) :
    (∃ session, Session.start (some (.string (.ofText mode.name))) = .ok session ∧
      session.run [.assemble host (.ofText s)] =
        [(.assembled (host.assemble mode (.ofText s)), session)]) ∧
    (∀ ending ∈ Text.lineEnds, ∀ f input arguments,
      Invokes mode f (Utf8.encode (Text.withLineEnds ending s)) input arguments →
        (CommandLine.run host input arguments).events =
          (host.assemble mode (.ofText s)).events ∧
        ∃ exit, (CommandLine.run host input arguments).answer = .ok exit ∧
          Reports f exit (host.assemble mode (.ofText s)).answer) ∧
    ∀ r, Posts mode (.ofText s) r →
      (Web.respond host r).events = (host.assemble mode (.ofText s)).events ∧
      (Web.respond host r).answer =
        .ok (.json (Web.report (host.assemble mode (.ofText s)).answer)) := by
  refine ⟨⟨⟨mode⟩, Session.start_name mode, rfl⟩, ?_, ?_⟩
  · intro ending hending f input arguments h
    exact CommandLine.run_of_invokes host hending hs h
  · intro r h
    exact Web.respond_of_posts host h

theorem front_ends_agree_nop :
    (∃ input exit, '\r' ∉ "nop\n".toList ∧ ['\r', '\n'] ∈ Text.lineEnds ∧
      Invokes .x64 .array [110, 111, 112, 13, 10] input
        ["nop.s".toList, "--mode".toList, "x64".toList, "--format".toList, "array".toList] ∧
      (CommandLine.run (Host.printing "<_main>:\n   0:\t90 \tnop\n".toList) input
        ["nop.s".toList, "--mode".toList, "x64".toList, "--format".toList,
          "array".toList]).answer = .ok exit ∧
      exit.status = 0 ∧ exit.stdout = "\x7b 0x90 \x7d\n".toList) ∧
    ∃ r, Posts .x64 (.ofText "nop\n".toList) r ∧
      (Web.respond (Host.printing "<_main>:\n   0:\t90 \tnop\n".toList) r).answer =
        .ok (.json (Web.report (.ok ⟨"0:\t90 \tnop".toList, [0x90]⟩))) := by
  have hnop : IsAdmissible "nop\n".toList := ⟨by decide, by decide⟩
  have hcode : Listing.code? "<_main>:\n   0:\t90 \tnop\n".toList =
      some "0:\t90 \tnop".toList := by cbv
  have hbytes : Listing.bytes "0:\t90 \tnop".toList = [0x90] := by cbv
  have hassemble := Host.answer_assemble_printing .x64 hcode hnop
  rw [hbytes] at hassemble
  obtain ⟨-, hrun, hrespond⟩ := front_ends_agree
    (Host.printing "<_main>:\n   0:\t90 \tnop\n".toList) .x64 (s := "nop\n".toList) (by decide)
  rw [hassemble] at hrun hrespond
  constructor
  · have hinvokes : Invokes .x64 .array [110, 111, 112, 13, 10]
        ⟨[], CommandLine.Folder.openFile [("nop.s".toList, [110, 111, 112, 13, 10])]⟩
        ["nop.s".toList, "--mode".toList, "x64".toList, "--format".toList, "array".toList] :=
      .fileFirst (by decide) (by decide) (by cbv)
    obtain ⟨-, exit, hexit, hstatus, hstdout⟩ :=
      hrun ['\r', '\n'] (by decide) .array _ _ hinvokes
    refine ⟨_, exit, by decide, by decide, hinvokes, hexit, hstatus, ?_⟩
    rw [hstdout]
    decide
  · have hposts := Web.posts_recordText .x64 "nop\n".toList
    exact ⟨_, hposts, (hrespond _ hposts).2⟩

end OnlineAssembler
