import OnlineAssembler.Proofs.Listing.Normal
import OnlineAssembler.Proofs.Text.Trim

namespace OnlineAssembler.Listing

open Text Line

def contents (t : Text) : List Text := ((lines t).map trim).filter (· ≠ [])

/-- No entry marker of the listing comes before the one behind `head`. -/
def EntersAfter (head tail : Text) : Prop :=
  ∀ before behind,
    head ++ ("<_main>:\n".toList ++ tail) = before ++ ("<_main>:\n".toList ++ behind) →
      head.length ≤ before.length

theorem entersAfter_iff {head tail : Text} :
    EntersAfter head tail ↔ ¬ "<_main>:\n".toList <:+: head := by
  constructor
  · rintro h ⟨before, behind, rfl⟩
    have hlength := h before (behind ++ ("<_main>:\n".toList ++ tail)) (by simp)
    simp only [List.length_append] at hlength
    have hmarker : 0 < "<_main>:\n".toList.length := by decide
    omega
  · intro h before behind heq
    have hafter : after? "<_main>:\n".toList (head ++ ("<_main>:\n".toList ++ tail)) = some tail :=
      after?_append (by decide) h tail
    have hlengths := congrArg List.length heq
    rw [heq] at hafter
    have hbehind := length_le_of_after? hafter
    simp only [List.length_append] at hlengths
    omega

theorem bytes?_trim (l : Text) : bytes? (trim l) = bytes? l := by
  obtain ⟨gap, hstart, hgap⟩ := eq_takeWhile_append_trimStart l
  obtain ⟨tail, hend, htail⟩ := eq_trimEnd_append (trimStart l)
  calc bytes? (trim l)
    _ = bytes? (trim l ++ tail) := (bytes?_append_blank_right htail (trim l)).symm
    _ = bytes? (trimStart l) := by rw [trim, ← hend]
    _ = bytes? (gap ++ trimStart l) := (bytes?_append_blank hgap (trimStart l)).symm
    _ = bytes? l := by rw [← hstart]

theorem contents_of_not_mem {l : Text} (hl : '\n' ∉ l) :
    contents l = if trim l = [] then [] else [trim l] := by
  by_cases h : trim l = []
  · simp [contents, lines_of_not_mem hl, h]
  · simp [contents, lines_of_not_mem hl, h]

theorem contents_append {l : Text} (hl : '\n' ∉ l) (t : Text) :
    contents (l ++ '\n' :: t) = contents l ++ contents t := by
  simp only [contents, lines_append hl, lines_of_not_mem hl, List.map_cons, List.map_nil,
    ← List.filter_append, List.singleton_append]

theorem bytes_contents_of_not_mem {l : Text} (hl : '\n' ∉ l) :
    ((contents l).flatMap fun l ↦ (bytes? l).getD []) = (bytes? l).getD [] := by
  rw [contents_of_not_mem hl, ← bytes?_trim l]
  by_cases h : trim l = []
  · rw [if_pos h, h]
    rfl
  · rw [if_neg h, List.flatMap_singleton]

/-- The bytes of a text are those of its contents, line by line. -/
theorem bytes_eq_flatMap_contents (t : Text) :
    bytes t = (contents t).flatMap fun l ↦ (bytes? l).getD [] := by
  induction t using lines_induction with
  | last l hl => rw [bytes_of_line hl, bytes_contents_of_not_mem hl]
  | line l t hl ih =>
    rw [bytes_append hl, contents_append hl, List.flatMap_append, bytes_contents_of_not_mem hl, ih]

/-- Decoding gives the bytes of the text behind the entry marker as it stands there. It makes no
difference to them that the code is unindented and trimmed first, and none whatever blank lines and
white space at the ends of lines another listing has. -/
theorem decode_bytes {head tail : Text} (h : EntersAfter head tail) :
    (∃ code, code? (head ++ ("<_main>:\n".toList ++ tail)) = some code ∧
      bytes code = bytes tail ∧
      (decode (head ++ ("<_main>:\n".toList ++ tail))).answer = .ok ⟨code, bytes tail⟩) ∧
    ∀ front rest, EntersAfter front rest → contents rest = contents tail →
      ∃ code,
        (decode (front ++ ("<_main>:\n".toList ++ rest))).answer = .ok ⟨code, bytes tail⟩ := by
  have hmarker : "<_main>:\n".toList = entryMarker := by decide
  have hdecode (head tail : Text) (h : EntersAfter head tail) :
      ∃ code, code? (head ++ ("<_main>:\n".toList ++ tail)) = some code ∧ bytes code = bytes tail ∧
        (decode (head ++ ("<_main>:\n".toList ++ tail))).answer = .ok ⟨code, bytes tail⟩ := by
    rw [entersAfter_iff] at h
    rw [hmarker] at h ⊢
    have hcode := code?_append h tail
    have hbytes := bytes_trim_unindent tail
    refine ⟨_, hcode, hbytes, ?_⟩
    rw [decode_of_code? hcode, hbytes]
  refine ⟨hdecode head tail h, ?_⟩
  intro front rest hfront hcontents
  obtain ⟨code, -, -, hanswer⟩ := hdecode front rest hfront
  rw [bytes_eq_flatMap_contents, hcontents, ← bytes_eq_flatMap_contents] at hanswer
  exact ⟨code, hanswer⟩

theorem decode_bytes_indented :
    let head := "00000000 ".toList
    let tail := "   0:\t90 \tnop\n\n00000001 <end>:\n   1:\tc3 \n".toList
    let rest := "0:\t90 \tnop \n \x0b00000001 <end>: \n\u00a01:\tc3".toList
    EntersAfter head tail ∧ EntersAfter [] rest ∧ contents rest = contents tail ∧
      ∃ code, (decode ("<_main>:\n".toList ++ rest)).answer = .ok ⟨code, bytes tail⟩ := by
  intro head tail rest
  have hhead : EntersAfter head tail := entersAfter_iff.2 (by decide)
  have hrest : EntersAfter [] rest := entersAfter_iff.2 (by decide)
  have hcontents : contents rest = contents tail := by decide +kernel
  exact ⟨hhead, hrest, hcontents, (decode_bytes hhead).2 [] rest hrest hcontents⟩

end OnlineAssembler.Listing
