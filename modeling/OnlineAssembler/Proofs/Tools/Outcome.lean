import Mathlib.Logic.Basic
import OnlineAssembler.Proofs.Tools.Program

namespace OnlineAssembler

inductive Explains (host : Host) : Text → Prop
  | compilerBroken {message : Text}
      (h : Breaks host.settings.compiler host.tools.compiler message) :
      Explains host message
  | refused {status : Int} {output errors : Text}
      (h : host.tools.compiler = .exited status output errors) (hstatus : status ≠ 0) :
      Explains host (Diagnostic.clean host.workspace.source output)
  | disassemblerBroken {message : Text} (hcompiler : host.tools.compiler.Succeeds)
      (h : Breaks host.settings.disassembler host.tools.disassembler message) :
      Explains host message
  | notDisassembled {status : Int} {output errors : Text} (hcompiler : host.tools.compiler.Succeeds)
      (h : host.tools.disassembler = .exited status output errors) (hstatus : status ≠ 0) :
      Explains host "Something went wrong!".toList

inductive Goes (host : Host) (flag source : Text) : Except Fault Text → List Event → Prop
  | compilerBroken {fault : Fault}
      (h : Breaks host.settings.compiler host.tools.compiler fault.message) :
      Goes host flag source (.error fault) (host.compiling flag source)
  | refused {status : Int} {output errors : Text}
      (h : host.tools.compiler = .exited status output errors) (hstatus : status ≠ 0) :
      Goes host flag source (.error (.refused (Diagnostic.clean host.workspace.source output)))
        (host.compiling flag source)
  | disassemblerBroken {fault : Fault} (hcompiler : host.tools.compiler.Succeeds)
      (h : Breaks host.settings.disassembler host.tools.disassembler fault.message) :
      Goes host flag source (.error fault)
        (host.compiling flag source ++ [.started host.disassembly])
  | notDisassembled {status : Int} {output errors : Text} (hcompiler : host.tools.compiler.Succeeds)
      (h : host.tools.disassembler = .exited status output errors) (hstatus : status ≠ 0) :
      Goes host flag source (.error .notDisassembled)
        (host.compiling flag source ++ [.started host.disassembly])
  | listed {output errors : Text} (hcompiler : host.tools.compiler.Succeeds)
      (h : host.tools.disassembler = .exited 0 output errors) :
      Goes host flag source (.ok output)
        (host.compiling flag source ++ [.started host.disassembly])

namespace Goes

variable {host : Host} {flag source text : Text} {answer : Except Fault Text} {fault : Fault}
  {events : List Event}

theorem events_of_succeeds (h : Goes host flag source answer events)
    (hcompiler : host.tools.compiler.Succeeds) :
    events = host.compiling flag source ++ [.started host.disassembly] := by
  cases h with
  | compilerBroken h => exact absurd hcompiler h.not_succeeds
  | refused h hstatus => exact absurd hcompiler (Outcome.not_succeeds_of_ne_zero h hstatus)
  | disassemblerBroken _ _ => rfl
  | notDisassembled _ _ _ => rfl
  | listed _ _ => rfl

theorem events_of_not_succeeds (h : Goes host flag source answer events)
    (hcompiler : ¬ host.tools.compiler.Succeeds) : events = host.compiling flag source := by
  cases h with
  | compilerBroken _ => rfl
  | refused _ _ => rfl
  | disassemblerBroken h _ => exact absurd h hcompiler
  | notDisassembled h _ _ => exact absurd h hcompiler
  | listed h _ => exact absurd h hcompiler

theorem events_eq (h : Goes host flag source answer events) :
    events = host.compiling flag source ∨
      events = host.compiling flag source ++ [.started host.disassembly] := by
  by_cases hcompiler : host.tools.compiler.Succeeds
  · exact .inr (h.events_of_succeeds hcompiler)
  · exact .inl (h.events_of_not_succeeds hcompiler)

theorem explains (h : Goes host flag source (.error fault) events) :
    Explains host fault.message := by
  cases h with
  | compilerBroken h => exact .compilerBroken h
  | refused h hstatus => exact .refused h hstatus
  | disassemblerBroken hcompiler h => exact .disassemblerBroken hcompiler h
  | notDisassembled hcompiler h hstatus => exact .notDisassembled hcompiler h hstatus

theorem exited_of_ok (h : Goes host flag source (.ok text) events) :
    host.tools.compiler.Succeeds ∧ ∃ errors, host.tools.disassembler = .exited 0 text errors := by
  cases h with
  | @listed _ errors hcompiler h => exact ⟨hcompiler, errors, h⟩

theorem answer_of_exited (h : Goes host flag source answer events)
    (hcompiler : host.tools.compiler.Succeeds) {errors : Text}
    (hdisassembler : host.tools.disassembler = .exited 0 text errors) : answer = .ok text := by
  have hsucceeds : host.tools.disassembler.Succeeds := ⟨text, errors, hdisassembler⟩
  cases h with
  | compilerBroken h => exact absurd hcompiler h.not_succeeds
  | refused h hstatus => exact absurd hcompiler (Outcome.not_succeeds_of_ne_zero h hstatus)
  | disassemblerBroken _ h => exact absurd hsucceeds h.not_succeeds
  | notDisassembled _ h hstatus =>
    exact absurd hsucceeds (Outcome.not_succeeds_of_ne_zero h hstatus)
  | listed _ h =>
    rw [hdisassembler] at h
    rw [(Outcome.exited.inj h).2.1]

end Goes

namespace Host

variable {host : Host} {flag source : Text}

theorem goes_listing (host : Host) (flag source : Text) :
    Goes host flag source (host.listing flag source).answer (host.listing flag source).events := by
  rw [listing, Run.answer_bind_of_ok rfl, Run.events_bind_of_ok rfl]
  cases hcompile : (host.compile flag).answer with
  | error fault =>
    rw [Run.answer_bind_of_error hcompile, Run.events_bind_of_error hcompile, events_compile]
    exact .compilerBroken (breaks_of_start hcompile)
  | ok exit =>
    have hcompiler := answer_start_eq_ok_iff.1 hcompile
    rw [Run.answer_bind_of_ok hcompile, Run.events_bind_of_ok hcompile, events_compile]
    by_cases hstatus : exit.status ≠ 0
    · rw [if_pos hstatus]
      exact .refused hcompiler hstatus
    rw [if_neg hstatus]
    have hsucceeds := (succeeds_of_compile hcompile).2 (not_not.1 hstatus)
    cases hdisassemble : host.disassemble.answer with
    | error fault =>
      rw [Run.answer_bind_of_error hdisassemble, Run.events_bind_of_error hdisassemble,
        events_disassemble]
      exact .disassemblerBroken hsucceeds (breaks_of_start hdisassemble)
    | ok dump =>
      have hdisassembler := answer_start_eq_ok_iff.1 hdisassemble
      rw [Run.answer_bind_of_ok hdisassemble, Run.events_bind_of_ok hdisassemble,
        events_disassemble]
      by_cases hdump : dump.status ≠ 0
      · rw [if_pos hdump]
        exact .notDisassembled hsucceeds hdisassembler hdump
      · rw [if_neg hdump]
        rw [not_not.1 hdump] at hdisassembler
        exact .listed hsucceeds hdisassembler

/-- The second program has no part in what is done where the first one fails. -/
theorem listing_congr (h : ¬ host.tools.compiler.Succeeds) (other : Outcome) :
    ({ host with tools := ⟨host.tools.compiler, other⟩ } : Host).listing flag source =
      host.listing flag source := by
  apply Run.bind_congr
  intro _ _
  apply Run.bind_congr
  intro exit hexit
  have hcompile : (host.compile flag).answer = .ok exit := hexit
  rw [succeeds_of_compile hcompile] at h
  rw [if_pos h, if_pos h]

theorem listingOf_ofText (host : Host) (flag source : Text) :
    host.listingOf flag (.ofText source) = (host.listing flag source).mapError .failed := by
  rw [listingOf, CodeText.toText?_ofText]

theorem answer_listingOf_eq_ok_iff {text : Text} :
    (host.listingOf flag (.ofText source)).answer = .ok text ↔
      (host.listing flag source).answer = .ok text := by
  rw [listingOf_ofText, Run.answer_mapError_eq_ok_iff]

theorem answer_listingOf_of_error {fault : Fault}
    (h : (host.listing flag source).answer = .error fault) :
    (host.listingOf flag (.ofText source)).answer = .error (.failed fault) := by
  rw [listingOf_ofText, Run.mapError, h]
  rfl

theorem events_listingOf (host : Host) (flag source : Text) :
    (host.listingOf flag (.ofText source)).events = (host.listing flag source).events := by
  rw [listingOf_ofText, Run.events_mapError]

/-- How the making of a listing goes, by how the two programs end. -/
theorem listingOf_outcome (host : Host) (flag : Text) :
    (∀ source : Text,
      (host.tools.compiler.Succeeds →
        (host.listingOf flag (.ofText source)).events =
          host.compiling flag source ++ [.started host.disassembly]) ∧
      (¬ host.tools.compiler.Succeeds →
        (host.listingOf flag (.ofText source)).events = host.compiling flag source ∧
        ∀ other, ({ host with tools := ⟨host.tools.compiler, other⟩ } : Host).listingOf flag
          (.ofText source) = host.listingOf flag (.ofText source)) ∧
      (∀ text, (host.listingOf flag (.ofText source)).answer = .ok text ↔
        host.tools.compiler.Succeeds ∧
          ∃ errors, host.tools.disassembler = .exited 0 text errors) ∧
      (¬ (host.tools.compiler.Succeeds ∧ host.tools.disassembler.Succeeds) →
        ∃ fault, (host.listingOf flag (.ofText source)).answer = .error (.failed fault) ∧
          Explains host fault.message)) ∧
    ∀ code offset, CodePoint.surrogate offset ∈ code →
      (host.listingOf flag code).answer = .error .unencodable ∧
        (host.listingOf flag code).events = [] := by
  constructor
  · intro source
    have hgoes := goes_listing host flag source
    refine ⟨?_, ?_, ?_, ?_⟩
    · intro hcompiler
      rw [events_listingOf]
      exact hgoes.events_of_succeeds hcompiler
    · intro hcompiler
      constructor
      · rw [events_listingOf]
        exact hgoes.events_of_not_succeeds hcompiler
      · intro other
        rw [listingOf_ofText, listingOf_ofText, listing_congr hcompiler]
    · intro text
      rw [answer_listingOf_eq_ok_iff]
      constructor
      · intro h
        rw [h] at hgoes
        exact hgoes.exited_of_ok
      · intro h
        obtain ⟨hcompiler, errors, hdisassembler⟩ := h
        exact hgoes.answer_of_exited hcompiler hdisassembler
    · intro hfails
      cases hanswer : (host.listing flag source).answer with
      | error fault =>
        rw [hanswer] at hgoes
        exact ⟨fault, answer_listingOf_of_error hanswer, hgoes.explains⟩
      | ok text =>
        rw [hanswer] at hgoes
        obtain ⟨hcompiler, errors, hdisassembler⟩ := hgoes.exited_of_ok
        exact absurd ⟨hcompiler, text, errors, hdisassembler⟩ hfails
  · intro code offset hoffset
    have hcode : code.toText? = none := CodeText.toText?_eq_none_iff.2 ⟨offset, hoffset⟩
    unfold listingOf
    rw [hcode]
    exact ⟨rfl, rfl⟩

/-- A disassembler that hangs behind a compiler that works, a compiler that hangs, and a code that
is no text. -/
theorem listingOf_outcome_stalled :
    let host : Host := ⟨{}, ⟨"main.s".toList, "main.o".toList⟩, ⟨.exited 0 [] [], .timedOut⟩⟩
    let flag := "-m32".toList
    let code := CodeText.ofText "nop".toList
    host.tools.compiler.Succeeds ∧
      (host.listingOf flag code).events =
        host.compiling flag "nop".toList ++ [.started host.disassembly] ∧
      (∃ fault, (host.listingOf flag code).answer = .error (.failed fault) ∧
        Explains host fault.message) ∧
      ¬ stalled.tools.compiler.Succeeds ∧
      (stalled.listingOf flag code).events = stalled.compiling flag "nop".toList ∧
      (host.listingOf flag [.surrogate 0]).answer = .error .unencodable := by
  intro host flag code
  have hcompiler : host.tools.compiler.Succeeds := ⟨[], [], rfl⟩
  have hdisassembler : ¬ (host.tools.compiler.Succeeds ∧ host.tools.disassembler.Succeeds) := by
    rintro ⟨-, output, errors, h⟩
    cases h
  have hstalled : ¬ stalled.tools.compiler.Succeeds := by
    rintro ⟨output, errors, h⟩
    cases h
  obtain ⟨hcode, hsurrogate⟩ := listingOf_outcome host flag
  obtain ⟨hevents, -, -, hfault⟩ := hcode "nop".toList
  obtain ⟨-, hstalledEvents, -⟩ := (listingOf_outcome stalled flag).1 "nop".toList
  exact ⟨hcompiler, hevents hcompiler, hfault hdisassembler, hstalled,
    (hstalledEvents hstalled).1, (hsurrogate [.surrogate 0] 0 List.mem_cons_self).1⟩

end Host

end OnlineAssembler
