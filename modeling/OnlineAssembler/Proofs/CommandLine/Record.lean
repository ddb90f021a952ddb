import OnlineAssembler.Proofs.CommandLine.Invocation
import OnlineAssembler.Proofs.Json.Ascii
import OnlineAssembler.Proofs.Json.ReadBack
import OnlineAssembler.Proofs.MachineCode.Rendering

namespace OnlineAssembler

namespace Json

theorem printedField_injective : Function.Injective printedField := by
  intro f g h
  obtain ⟨hname, hvalue⟩ := Prod.mk.inj h
  exact Prod.ext (CodeText.ofText_inj hname) (CodeText.ofText_inj (Json.string.inj hvalue))

end Json

namespace Assembly

variable {a b : Assembly}

theorem names_record (a : Assembly) : a.record.map Prod.fst =
    ["code", "hex", "hex_zero_bold", "string", "array"].map String.toList := rfl

theorem record_injective : Function.Injective record := by
  intro a b h
  obtain ⟨hcode, hrest⟩ := List.cons.inj h
  have hhex := (Prod.mk.inj (List.cons.inj hrest).1).2
  have hbytes : a.bytes = b.bytes := MachineCode.Rendering.hex.write_injective hhex
  cases a
  cases b
  cases (Prod.mk.inj hcode).2
  cases hbytes
  rfl

/-- A line feed may follow the printed record. -/
theorem ofCodeText_record (a : Assembly) (depth : Nat) :
    Json.ofCodeText (depth + 1) (.ofText (Json.recordText a.record ++ ['\n'])) =
      .ok (.object (a.record.map Json.printedField)) := by
  have hnodup : ((a.record.map Json.printedField).map Prod.fst).Nodup := by
    have hnames : (a.record.map Json.printedField).map Prod.fst =
      (a.record.map Prod.fst).map CodeText.ofText := rfl
    rw [hnames, names_record]
    decide
  rw [← Json.ofFields_of_nodup hnodup]
  exact Json.ofCodeText_recordText _ _ depth rfl

theorem eq_of_recordText (h : Json.recordText a.record = Json.recordText b.record) : a = b := by
  have hread := ofCodeText_record a 0
  rw [h, ofCodeText_record b 0] at hread
  have hfields := Json.object.inj (Except.ok.inj hread)
  exact record_injective (List.map_injective_iff.2 Json.printedField_injective hfields).symm

end Assembly

namespace CommandLine

/-- JSON output is lossless. For whatever assembly is printed, the output is plain ASCII that is
read back as the object of its renderings, each under its name, and no other assembly gives the
same output. -/
theorem exit_json {arguments : Arguments} {r : Run ServiceError Assembly} {a : Assembly}
    (hformat : arguments.format = some .json) (hr : r.answer = .ok a) (depth : Nat) :
    ∃ exit, arguments.exit r = .ok exit ∧ exit.status = 0 ∧ Text.IsAscii exit.stdout ∧
      Json.ofCodeText (depth + 1) (.ofText exit.stdout) =
        .ok (.object (a.record.map Json.printedField)) ∧
      a.record.map Prod.fst =
        ["code", "hex", "hex_zero_bold", "string", "array"].map String.toList ∧
      (∀ b, Format.json.render b ++ ['\n'] = exit.stdout → b = a) ∧
      ∀ host input argv mode source, Arguments.parse argv = .ok arguments →
        input.source arguments.source = .ok source → arguments.mode = some mode →
        host.assemble mode (.ofText source) = r → (run host input argv).answer = .ok exit := by
  obtain ⟨exit, hexit, hstatus, hstdout⟩ := exit_of_ok hr hformat
  have hprinted : exit.stdout = Json.recordText a.record ++ ['\n'] := hstdout
  refine ⟨exit, hexit, hstatus, ?_, ?_, a.names_record, ?_, ?_⟩
  · rw [hprinted]
    exact (Json.isAscii_recordText a.record).append (.cons (by decide) Text.isAscii_nil)
  · rw [hprinted]
    exact a.ofCodeText_record depth
  · intro b hb
    rw [hprinted] at hb
    exact Assembly.eq_of_recordText (List.append_cancel_right hb)
  · rintro host input argv mode source hargv hsource hmode rfl
    rw [run_eq hargv hsource hmode]
    exact hexit

/-- A code with a quote, a backslash, a control character, DEL and characters of two and of four
bytes. -/
theorem exit_json_escapes :
    let a : Assembly := ⟨"\"\\\x01\x7fé😀".toList, [0x00, 0xC3]⟩
    ∃ exit, Arguments.exit { format := some .json } ⟨.ok a, [], []⟩ = .ok exit ∧
      Text.IsAscii exit.stdout ∧
      Json.ofCodeText 1 (.ofText exit.stdout) = .ok (.object (a.record.map Json.printedField)) := by
  intro a
  have hformat : Arguments.format { format := some .json } = some .json := rfl
  have hr : Run.answer (⟨.ok a, [], []⟩ : Run ServiceError Assembly) = .ok a := rfl
  obtain ⟨exit, hexit, -, hascii, hread, -⟩ := exit_json hformat hr 0
  exact ⟨exit, hexit, hascii, hread⟩

end CommandLine

end OnlineAssembler
