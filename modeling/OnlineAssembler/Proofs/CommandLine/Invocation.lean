import OnlineAssembler.Proofs.CommandLine.Run
import OnlineAssembler.Proofs.Service.Ending
import OnlineAssembler.Proofs.Text.Lines

namespace OnlineAssembler

def Format.field (f : Format) (a : Assembly) : Text :=
  if f = .json then Json.recordText a.record else (a.record.lookup f.name).getD []

theorem Format.render_eq_field (f : Format) (a : Assembly) : f.render a = f.field a := by
  cases f <;> rfl

namespace CommandLine

def options (m : Mode) (f : Format) : List Text :=
  ["--mode".toList, m.name, "--format".toList, f.name]

/-- The arguments ask for a mode, a format and a source, and these are the bytes of the source. The
name of a file may stand on either side of the options. -/
inductive Invokes (m : Mode) (f : Format) (bytes : List UInt8) : Input → List Text → Prop
  | stdin {input : Input} (hbytes : input.stdin = bytes) : Invokes m f bytes input (options m f)
  | fileFirst {input : Input} {name : Text} (hne : name ≠ []) (hdash : name.head? ≠ some '-')
      (hbytes : input.openFile name = .ok bytes) : Invokes m f bytes input (name :: options m f)
  | fileLast {input : Input} {name : Text} (hne : name ≠ []) (hdash : name.head? ≠ some '-')
      (hbytes : input.openFile name = .ok bytes) :
      Invokes m f bytes input (options m f ++ [name])

def Reports (f : Format) (exit : Exit) : Except ServiceError Assembly → Prop
  | .ok a => exit.status = 0 ∧ exit.stdout = f.field a ++ ['\n']
  | .error e => exit.status = 1 ∧ exit.stdout = [] ∧ ∃ message, e.message = .ofText message ∧
      "ERROR: ".toList ++ (message ++ ['\n']) <:+ exit.stderr

section

variable {host : Host} {input : Input} {m : Mode} {f : Format} {bytes : List UInt8}
  {arguments : List Text} {a : Arguments}

theorem Token.ofText_of_head?_ne {t : Text} (h : t.head? ≠ some '-') : ofText t = plain t := by
  cases t with
  | nil => rfl
  | cons c t =>
    have hc : c ≠ '-' := fun hc ↦ h (congrArg some hc)
    unfold ofText
    split
    · rename_i heq
      exact absurd (List.cons.inj heq).1 hc
    · rename_i heq
      exact absurd (List.cons.inj heq).1 hc
    · rfl

theorem Token.ofArguments_file {name : Text} (hdash : name.head? ≠ some '-') (ts : List Text) :
    ofArguments (name :: ts) = plain name :: ofArguments ts := by
  have hne : name ≠ ['-', '-'] := by
    rintro rfl
    exact hdash rfl
  rw [ofArguments, if_neg hne, ofText_of_head?_ne hdash]

theorem Token.ofArguments_options (m : Mode) (f : Format) (ts : List Text) :
    ofArguments (options m f ++ ts) =
      setting .mode none :: plain m.name :: setting .format none :: plain f.name ::
        ofArguments ts := by
  cases m <;> cases f <;> rfl

theorem Progress.read_plain {p : Progress} (h : p.hasSource = false) (t : Text) (s : Setting)
    (v : Option Text) (tokens : List Token) :
    p.read (.plain t :: .setting s v :: tokens) = (p.take t).read (.setting s v :: tokens) :=
  if_neg (h ▸ Bool.false_ne_true)

theorem Progress.read_options (p : Progress) (m : Mode) (f : Format) (tokens : List Token) :
    p.read (.setting .mode none :: .plain m.name :: .setting .format none :: .plain f.name ::
      tokens) =
      Progress.read { p with arguments := { p.arguments with mode := some m, format := some f } }
        tokens := by
  cases m <;> cases f <;> rfl

theorem Arguments.parse_eq_read {tokens : List Token}
    (htokens : Token.ofArguments arguments = tokens)
    (h : .ambiguous ∉ tokens) : parse arguments = Progress.read {} tokens := by
  unfold parse
  rw [htokens]
  exact if_neg h

theorem parse_of_invokes (h : Invokes m f bytes input arguments) :
    ∃ a, Arguments.parse arguments = .ok a ∧ a.mode = some m ∧ a.format = some f ∧
      input.bytes a.source = .ok bytes := by
  cases h with
  | stdin hbytes =>
    have htokens := Token.ofArguments_options m f []
    rw [List.append_nil] at htokens
    refine ⟨{ mode := some m, format := some f }, ?_, rfl, rfl, congrArg Except.ok hbytes⟩
    rw [Arguments.parse_eq_read htokens (by simp [Token.ofArguments]), Progress.read_options]
    rfl
  | @fileFirst name hne hdash hbytes =>
    have htokens := Token.ofArguments_file hdash (options m f)
    have hoptions := Token.ofArguments_options m f []
    rw [List.append_nil] at hoptions
    rw [hoptions] at htokens
    refine ⟨{ source := name, mode := some m, format := some f }, ?_, rfl, rfl, ?_⟩
    · rw [Arguments.parse_eq_read htokens (by simp [Token.ofArguments]), Progress.read_plain rfl,
        Progress.read_options]
      rfl
    · rw [Input.bytes, if_neg hne, hbytes]
  | @fileLast name hne hdash hbytes =>
    have htokens := Token.ofArguments_options m f [name]
    rw [Token.ofArguments_file hdash] at htokens
    refine ⟨{ source := name, mode := some m, format := some f }, ?_, rfl, rfl, ?_⟩
    · rw [Arguments.parse_eq_read htokens (by simp [Token.ofArguments]), Progress.read_options]
      rfl
    · rw [Input.bytes, if_neg hne, hbytes]

theorem decodeSource_encode {ending s : Text} (hending : ending ∈ Text.lineEnds) (hs : '\r' ∉ s) :
    decodeSource (Utf8.encode (Text.withLineEnds ending s)) = .ok s := by
  rw [decodeSource, Utf8.decode_encode]
  simp only [Text.normalizeLineEnds_withLineEnds hending hs]

theorem exit_of_ok {r : Run ServiceError Assembly} {assembly : Assembly}
    (hr : r.answer = .ok assembly) (h : a.format = some f) :
    ∃ exit, a.exit r = .ok exit ∧ exit.status = 0 ∧ exit.stdout = f.field assembly ++ ['\n'] := by
  unfold Arguments.exit
  simp only [hr, h]
  refine ⟨_, rfl, rfl, ?_⟩
  rw [Format.render_eq_field]

theorem exit_of_error {r : Run ServiceError Assembly} {e : ServiceError} {message : Text}
    (hr : r.answer = .error e) (hmessage : e.message = .ofText message) :
    ∃ exit, a.exit r = .ok exit ∧ exit.status = 1 ∧ exit.stdout = [] ∧
      "ERROR: ".toList ++ (message ++ ['\n']) <:+ exit.stderr := by
  unfold Arguments.exit
  simp only [hr, hmessage, CodeText.escaped_ofText]
  refine ⟨_, rfl, rfl, rfl, ?_⟩
  rw [List.append_assoc, List.append_assoc]
  exact List.suffix_append _ _

theorem reports_exit (a : Arguments) (host : Host) (m : Mode) (code : CodeText)
    (h : a.format = some f) :
    ∃ exit, a.exit (host.assemble m code) = .ok exit ∧
      Reports f exit (host.assemble m code).answer := by
  cases hr : (host.assemble m code).answer with
  | ok assembly => exact exit_of_ok hr h
  | error e =>
    obtain ⟨message, hmessage⟩ := Host.message_of_assemble hr
    obtain ⟨exit, hexit, hstatus, hstdout, hstderr⟩ := exit_of_error (a := a) hr hmessage
    exact ⟨exit, hexit, hstatus, hstdout, message, hmessage, hstderr⟩

/-- A run is the assembly of the text that it reads, and reports how that ended. -/
theorem run_of_invokes {ending s : Text} (host : Host) (hending : ending ∈ Text.lineEnds)
    (hs : '\r' ∉ s)
    (h : Invokes m f (Utf8.encode (Text.withLineEnds ending s)) input arguments) :
    (run host input arguments).events = (host.assemble m (.ofText s)).events ∧
      ∃ exit, (run host input arguments).answer = .ok exit ∧
        Reports f exit (host.assemble m (.ofText s)).answer := by
  obtain ⟨a, ha, hmode, hformat, hbytes⟩ := parse_of_invokes h
  have hsource : input.source a.source = .ok s := by
    rw [Input.source_eq, hbytes]
    exact decodeSource_encode hending hs
  refine ⟨events_run ha hsource hmode, ?_⟩
  rw [run_eq ha hsource hmode]
  exact reports_exit a host m (.ofText s) hformat

end

end CommandLine

end OnlineAssembler
