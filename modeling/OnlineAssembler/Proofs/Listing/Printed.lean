import OnlineAssembler.Proofs.Listing.Instruction
import OnlineAssembler.Proofs.Listing.Normal

namespace OnlineAssembler.Listing

open Text Line

/-- The lines of a disassembly, each with the bytes that it shows. An instruction that is too long
for one line is wrapped to lines of bytes alone. -/
inductive Prints : Text → MachineCode → Prop
  | blank {gap : Text} : gap.all isBlank = true → Prints gap []
  | symbol {name gap : Text} : gap.all isBlank = true → Prints (name ++ '>' :: ':' :: gap) []
  | wrapped {indent front gap : Text} {bytes : MachineCode} :
      indent.all isBlank = true → Front front bytes → gap.all isBlank = true →
      Prints (indent ++ (front ++ gap)) bytes
  | instruction {indent front gap t : Text} {bytes : MachineCode} :
      indent.all isBlank = true → Front front bytes → IsGap gap → IsInstruction t →
      ¬ HasStrayColon t → Prints (indent ++ (front ++ (gap ++ t))) bytes

theorem Prints.getD_bytes? {l : Text} {bytes : MachineCode} (h : Prints l bytes) (hl : '\n' ∉ l) :
    (bytes? l).getD [] = bytes := by
  cases h with
  | blank hgap => rw [bytes?_of_blank hgap, Option.getD_none]
  | @symbol name gap hgap =>
    have hname : '\n' ∉ name := fun h ↦ hl (List.mem_append_left _ h)
    rw [bytes?_of_symbol hname hgap, Option.getD_none]
  | wrapped hindent hfront hgap =>
    rw [bytes?_append_blank hindent,
      bytes?_front hfront (go_of_blank hgap true) (stopsBefore_of_blank hgap), Option.getD_some]
  | @instruction indent front gap t _ hindent hfront hgap ht hcolon =>
    have ht' : '\n' ∉ t := by
      intro h
      simp [h] at hl
    rw [← colonAhead_iff ht', Bool.not_eq_true] at hcolon
    rw [bytes?_append_blank hindent, bytes?_of_noStrayColon hfront hgap ht hcolon, Option.getD_some]

theorem bytes_flatMap {lines : List (Text × MachineCode)}
    (h : ∀ l ∈ lines, Prints l.1 l.2 ∧ '\n' ∉ l.1) :
    bytes (lines.flatMap fun l ↦ l.1 ++ ['\n']) = lines.flatMap (·.2) := by
  induction lines with
  | nil => rfl
  | cons l lines ih =>
    obtain ⟨hprints, hl⟩ := h l List.mem_cons_self
    have ih := ih fun k hk ↦ h k (List.mem_cons_of_mem l hk)
    simp only [List.flatMap_cons, List.append_assoc, List.singleton_append]
    rw [bytes_append hl, hprints.getD_bytes? hl, ih]

/-- Decoding a disassembly gives the bytes that its lines show, in order. -/
theorem decode_printed {head : Text} {lines : List (Text × MachineCode)}
    (hhead : ¬ "<_main>:\n".toList <:+: head)
    (hlines : ∀ l ∈ lines, Prints l.1 l.2 ∧ '\n' ∉ l.1) :
    ∃ code, (decode (head ++ ("<_main>:\n".toList ++ lines.flatMap fun l ↦ l.1 ++ ['\n']))).answer =
      .ok ⟨code, lines.flatMap (·.2)⟩ := by
  have hmarker : "<_main>:\n".toList = entryMarker := by decide
  rw [hmarker] at hhead ⊢
  obtain ⟨code, hcode⟩ := decode_append hhead (lines.flatMap fun l ↦ l.1 ++ ['\n'])
  rw [bytes_flatMap hlines] at hcode
  exact ⟨code, hcode⟩

theorem decode_printed_jump :
    let jump := "   ".toList ++ ("0:\tff 25 00 00 00 00".toList ++
      ("    \t".toList ++ "jmp    DWORD PTR ds:0x0".toList))
    let rest := "   ".toList ++ ("7:\t33 22 11".toList ++ " ".toList)
    let label := "0000000a <exit".toList ++ '>' :: ':' :: []
    let lines : List (Text × MachineCode) :=
      [(jump, [0xff, 0x25, 0, 0, 0, 0]), (rest, [0x33, 0x22, 0x11]), ([], []), (label, [])]
    ∃ code, (decode ("00000000 ".toList ++ ("<_main>:\n".toList ++
      lines.flatMap fun l ↦ l.1 ++ ['\n']))).answer =
        .ok ⟨code, [0xff, 0x25, 0, 0, 0, 0, 0x33, 0x22, 0x11]⟩ := by
  intro jump rest label lines
  have ht : IsInstruction "jmp    DWORD PTR ds:0x0".toList :=
    ⟨⟨'j', by decide, by decide⟩, by decide⟩
  have hcolon : ¬ HasStrayColon "jmp    DWORD PTR ds:0x0".toList := by
    rw [← colonAhead_iff (by decide)]
    decide
  have hjump : Prints jump [0xff, 0x25, 0, 0, 0, 0] :=
    .instruction (by decide) front_indirect_jump ⟨by decide, by decide⟩ ht hcolon
  have hrow : "7:\t33 22 11".toList = ['7'] ++ ':' :: '\t' :: row [0x33, 0x22, 0x11] := by decide
  have hfront : Front "7:\t33 22 11".toList [0x33, 0x22, 0x11] := by
    rw [hrow]
    exact front_row (by decide) (by decide) (by decide)
  have hrest : Prints rest [0x33, 0x22, 0x11] := .wrapped (by decide) hfront (by decide)
  have hhead : ¬ "<_main>:\n".toList <:+: "00000000 ".toList := by decide
  have hlines : ∀ l ∈ lines, Prints l.1 l.2 ∧ '\n' ∉ l.1 := by
    simp only [lines, List.forall_mem_cons]
    exact ⟨⟨hjump, by decide⟩, ⟨hrest, by decide⟩, ⟨.blank rfl, by decide⟩,
      ⟨.symbol rfl, by decide⟩, nofun⟩
  exact decode_printed hhead hlines

end OnlineAssembler.Listing
