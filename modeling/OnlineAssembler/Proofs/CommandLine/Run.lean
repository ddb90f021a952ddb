import OnlineAssembler.CommandLine.Run
import OnlineAssembler.Proofs.CommandLine.Arguments
import OnlineAssembler.Proofs.Service.Compilation
import OnlineAssembler.Proofs.Text.Utf8

namespace OnlineAssembler

namespace Log

def grave (entries : List Entry) : List Entry :=
  entries.filter fun e ↦ e.level = .warning ∨ e.level = .error

theorem shown_false (entries : List Entry) : shown false entries = grave entries := by
  refine List.filter_congr fun e _ ↦ ?_
  cases e.level <;> rfl

end Log

namespace CommandLine

def Input.bytes (input : Input) (name : Text) : Except ReadError (List UInt8) :=
  if name = [] then .ok input.stdin else input.openFile name

variable {host : Host} {input : Input}

theorem eq_of_decodeSource {bytes : List UInt8} {source : Text}
    (h : decodeSource bytes = .ok source) :
    ∃ text, bytes = Utf8.encode text ∧ source = Text.normalizeLineEnds text := by
  unfold decodeSource at h
  split at h
  · rename_i text htext
    exact ⟨text, Utf8.eq_encode_of_decode htext, (Except.ok.inj h).symm⟩
  · cases h

theorem Input.source_eq (input : Input) (name : Text) :
    input.source name = input.bytes name >>= decodeSource := by
  unfold source bytes
  by_cases hname : name = []
  · rw [if_pos hname, if_pos hname]
    rfl
  · rw [if_neg hname, if_neg hname]

theorem Input.bytes_of_source {name source : Text} (h : input.source name = .ok source) :
    ∃ text, input.bytes name = .ok (Utf8.encode text) ∧ source = Text.normalizeLineEnds text := by
  rw [source_eq] at h
  obtain ⟨bytes, hbytes, hdecode⟩ := exists_of_bind_eq_ok h
  obtain ⟨text, rfl, hsource⟩ := eq_of_decodeSource hdecode
  exact ⟨text, hbytes, hsource⟩

theorem run_eq {arguments : List Text} {a : Arguments} {s : Text} {mode : Mode}
    (ha : Arguments.parse arguments = .ok a) (hsource : input.source a.source = .ok s)
    (hmode : a.mode = some mode) :
    run host input arguments =
      { host.assemble mode (.ofText s) with
        answer := a.exit (host.assemble mode (.ofText s)) } := by
  unfold run
  rw [ha]
  simp only [hsource, hmode]

theorem events_run {arguments : List Text} {a : Arguments} {s : Text} {mode : Mode}
    (ha : Arguments.parse arguments = .ok a) (hsource : input.source a.source = .ok s)
    (hmode : a.mode = some mode) :
    (run host input arguments).events = (host.assemble mode (.ofText s)).events := by
  rw [run_eq ha hsource hmode]

theorem compiles_of_run {arguments : List Text}
    (h : (run host input arguments).calls ≠ []) :
    ∃ a mode text, Arguments.parse arguments = .ok a ∧ a.mode = some mode ∧
      input.bytes a.source = .ok (Utf8.encode text) ∧
      Compiles host mode (Text.normalizeLineEnds text) (run host input arguments).events := by
  cases ha : Arguments.parse arguments with
  | error stop =>
    rw [run, ha] at h
    exact absurd rfl h
  | ok a =>
    cases hsource : input.source a.source with
    | error e =>
      rw [run, ha] at h
      simp only [hsource] at h
      exact absurd rfl h
    | ok source =>
      cases hmode : a.mode with
      | none =>
        rw [run, ha] at h
        simp only [hsource, hmode] at h
        exact absurd rfl h
      | some mode =>
        rw [Run.calls, events_run ha hsource hmode] at h
        rw [events_run ha hsource hmode]
        obtain ⟨text, htext, rfl⟩ := Input.bytes_of_source hsource
        obtain ⟨source, heq, hcompiles⟩ := Host.compiles_of_calls_ne_nil h
        obtain rfl := CodeText.ofText_inj heq
        exact ⟨a, mode, text, rfl, hmode, htext, hcompiles⟩

/-- How a quiet run and a verbose one end that have written the same log. -/
inductive EndsAlike (log : List Log.Entry) : Except RunError Exit → Except RunError Exit → Prop
  | uncaught (cause : Cause) (stdout : Text) :
      EndsAlike log (.error ⟨cause, stdout, Log.render (Log.grave log)⟩)
        (.error ⟨cause, stdout, Log.render log⟩)
  | succeeded (stdout : Text) :
      EndsAlike log (.ok ⟨0, stdout, Log.render (Log.grave log)⟩)
        (.ok ⟨0, stdout, Log.render log⟩)
  | failed (message : Text) :
      EndsAlike log
        (.ok ⟨1, [], Log.render (Log.grave log) ++ ("ERROR: ".toList ++ (message ++ ['\n']))⟩)
        (.ok ⟨1, [], Log.render log ++ ("ERROR: ".toList ++ (message ++ ['\n']))⟩)

variable {a : Arguments} {quiet verbose : List Text}

theorem endsAlike_exit (a : Arguments) (r : Run ServiceError Assembly) :
    EndsAlike r.log (Arguments.exit { a with verbose := false } r)
      (Arguments.exit { a with verbose := true } r) := by
  unfold Arguments.exit
  simp only [Log.shown_false, Log.shown_true, List.append_assoc]
  cases r.answer with
  | error e => exact .failed e.message.escaped
  | ok assembly =>
    cases a.format with
    | none => exact .uncaught .noFormat []
    | some format => exact .succeeded (format.render assembly ++ ['\n'])

/-- What is asked for apart from the verbosity decides what a run does, what it writes to its log,
and how it ends. -/
theorem run_verbose (host : Host) (input : Input)
    (hquiet : Arguments.parse quiet = .ok { a with verbose := false })
    (hverbose : Arguments.parse verbose = .ok { a with verbose := true }) :
    (run host input quiet).events = (run host input verbose).events ∧
      (run host input quiet).log = (run host input verbose).log ∧
      EndsAlike (run host input verbose).log (run host input quiet).answer
        (run host input verbose).answer := by
  unfold run
  rw [hquiet, hverbose]
  simp only
  cases input.source a.source with
  | error e => exact ⟨rfl, rfl, .uncaught (.unreadable e) []⟩
  | ok source =>
    cases a.mode with
    | none => exact ⟨rfl, rfl, .uncaught (.refused (.invalidMode (.array []))) []⟩
    | some mode => exact ⟨rfl, rfl, endsAlike_exit a (host.assemble mode (.ofText source))⟩

theorem run_verbose_stalled :
    Arguments.parse ["--mode".toList, "x64".toList] = .ok { mode := some .x64 } ∧
    Arguments.parse ["--mode=x64".toList, "-v".toList] =
      .ok { mode := some .x64, verbose := true } ∧
    EndsAlike
      (run Host.stalled ⟨[110, 111, 112], fun _ ↦ .error .notFound⟩
        ["--mode=x64".toList, "-v".toList]).log
      (run Host.stalled ⟨[110, 111, 112], fun _ ↦ .error .notFound⟩
        ["--mode".toList, "x64".toList]).answer
      (run Host.stalled ⟨[110, 111, 112], fun _ ↦ .error .notFound⟩
        ["--mode=x64".toList, "-v".toList]).answer := by
  have hquiet : Arguments.parse ["--mode".toList, "x64".toList] = .ok { mode := some .x64 } := by
    decide
  have hverbose : Arguments.parse ["--mode=x64".toList, "-v".toList] =
      .ok { mode := some .x64, verbose := true } := by
    decide
  have hruns := run_verbose (a := { mode := some .x64 }) Host.stalled
    ⟨[110, 111, 112], fun _ ↦ .error .notFound⟩ hquiet hverbose
  exact ⟨hquiet, hverbose, hruns.2.2⟩

end CommandLine

end OnlineAssembler
