import OnlineAssembler.Listing
import OnlineAssembler.Proofs.Listing.Symbol
import OnlineAssembler.Proofs.Text.Lines

namespace OnlineAssembler.Listing

open Text

namespace Line

section

variable {gap : Text}

theorem head?_isBlank (hgap : gap.all isBlank = true) : ∀ c ∈ gap.head?, isBlank c = true :=
  fun c hc ↦ List.all_eq_true.1 hgap c (List.mem_of_mem_head? hc)

theorem not_mem_of_blank (hgap : gap.all isBlank = true) : ':' ∉ gap :=
  fun h ↦ absurd (List.all_eq_true.1 hgap ':' h) (by decide)

theorem colonAhead_append_right (hgap : ':' ∉ gap) (t : Text) :
    colonAhead (t ++ gap) = colonAhead t := by
  induction t with
  | nil =>
    induction gap with
    | nil => rfl
    | cons c gap ih =>
      cases gap with
      | nil => rfl
      | cons d gap =>
        simp only [List.mem_cons, not_or] at hgap
        have ih := ih (by simp [hgap])
        simp only [List.nil_append] at ih ⊢
        simp [colonAhead, ih, Ne.symm hgap.2.1]
  | cons c t ih =>
    cases t with
    | cons d t =>
      simp only [List.cons_append] at ih ⊢
      rw [colonAhead.eq_1, colonAhead.eq_1, ih]
    | nil =>
      cases gap with
      | nil => rfl
      | cons d gap =>
        rw [List.mem_cons, not_or] at hgap
        simp only [List.nil_append] at ih
        simp [colonAhead, ih, Ne.symm hgap.1]

theorem stopsBefore_append_blank (hgap : gap.all isBlank = true) (t : Text) :
    stopsBefore (t ++ gap) = stopsBefore t := by
  induction t with
  | nil => exact stopsBefore_of_blank hgap
  | cons c t ih =>
    rw [List.cons_append, stopsBefore, stopsBefore,
      colonAhead_append_right (not_mem_of_blank hgap), ih]

theorem byteOfDigits?_blank (hgap : gap.all isBlank = true) (c : Char) :
    ∀ d ∈ gap.head?, byteOfDigits? c d = none :=
  fun d hd ↦ byteOfDigits?_eq_none (.inr (isHexDigit_of_isBlank (head?_isBlank hgap d hd)))

theorem go_of_blank (hgap : gap.all isBlank = true) (behind : Bool) :
    run?.go behind gap = none := by
  cases behind with
  | true => simpa [run?.go] using go_append_blank hgap []
  | false =>
    cases gap with
    | nil => rfl
    | cons c gap =>
      have hc := isHexDigit_of_isBlank (head?_isBlank hgap c rfl)
      exact run?_eq_none (startsWithByte_cons hc gap)

theorem go_append_blank_right (hgap : gap.all isBlank = true) (t : Text) (behind : Bool) :
    run?.go behind (t ++ gap) = run?.go behind t := by
  induction t using List.twoStepInduction generalizing behind with
  | nil => rw [List.nil_append, go_of_blank hgap, run?.go]
  | singleton c =>
    have hsingle : run?.go behind [c] = none := by
      refine go_cons_eq_none (fun _ _ ↦ ?_) fun d u h ↦ absurd h (List.cons_ne_nil d u).symm
      rw [run?.go]
    rw [hsingle]
    refine go_cons_eq_none (fun _ _ ↦ go_of_blank hgap true) fun d u hu hs ↦ ?_
    have hd : d ∈ gap.head? := by
      rw [show gap = d :: u from hu]
      rfl
    rw [byteOfDigits?_blank hgap c d hd] at hs
    cases hs
  | cons_cons c d t ih ih' =>
    have hguard : (if (t ++ gap).head?.any isBlank then run?.go true (t ++ gap) else none) =
        if t.head?.any isBlank then run?.go true t else none := by
      cases t with
      | nil => simp [go_of_blank hgap]
      | cons e t => rw [ih, List.cons_append, List.head?_cons, List.head?_cons]
    have hskip : run?.go true (d :: (t ++ gap)) = run?.go true (d :: t) := ih' d true
    simp only [List.cons_append, run?.go.eq_3, hguard, hskip, stopsBefore_append_blank hgap]

theorem bytes?_append_blank_right (hgap : gap.all isBlank = true) (t : Text) :
    bytes? (t ++ gap) = bytes? t := by
  induction t with
  | nil => exact bytes?_of_blank hgap
  | cons c t ih =>
    rw [List.cons_append, bytes?, bytes?, run?, run?, ← List.cons_append,
      go_append_blank_right hgap, ih]

end

theorem exists_of_isSymbol {t : Text} (h : isSymbol t = true) :
    ∃ name gap, t = name ++ '>' :: ':' :: gap ∧ gap.all isBlank = true := by
  cases isSymbolLine_of_isSymbol h with
  | @intro address gap name tail _ _ _ _ htail =>
    refine ⟨address ++ (gap ++ '<' :: name), tail, ?_, htail⟩
    simp only [List.append_assoc, List.cons_append]

/-- A symbol line holds no bytes, so whether a line is one does not matter for its bytes. -/
theorem bytes_classify {l : Text} (hl : '\n' ∉ l) : (classify l).bytes = (bytes? l).getD [] := by
  unfold classify
  cases hs : isSymbol l with
  | true =>
    obtain ⟨name, gap, rfl, hgap⟩ := exists_of_isSymbol hs
    have hname : '\n' ∉ name := fun h ↦ hl (List.mem_append_left _ h)
    rw [bytes?_of_symbol hname hgap]
    rfl
  | false => cases bytes? l <;> rfl

end Line

open Line

theorem bytes_of_line {l : Text} (hl : '\n' ∉ l) : bytes l = (bytes? l).getD [] := by
  simp [bytes, lines_of_not_mem hl, bytes_classify hl]

theorem bytes_append {l : Text} (hl : '\n' ∉ l) (t : Text) :
    bytes (l ++ '\n' :: t) = (bytes? l).getD [] ++ bytes t := by
  simp [bytes, lines_append hl, bytes_classify hl]

theorem bytes_of_blank {gap : Text} (hgap : gap.all isBlank = true) : bytes gap = [] := by
  induction gap using lines_induction with
  | last l hl => rw [bytes_of_line hl, bytes?_of_blank hgap, Option.getD_none]
  | line l t hl ih =>
    rw [List.all_append, List.all_cons, Bool.and_eq_true, Bool.and_eq_true] at hgap
    rw [bytes_append hl, bytes?_of_blank hgap.1, ih hgap.2.2, Option.getD_none, List.nil_append]

theorem bytes_append_blank {gap : Text} (hgap : gap.all isBlank = true) (t : Text) :
    bytes (t ++ gap) = bytes t := by
  induction t using lines_induction with
  | line l t hl ih => rw [List.append_assoc, List.cons_append, bytes_append hl, bytes_append hl, ih]
  | last l hl =>
    induction gap using lines_induction with
    | last gap hgapl =>
      have hlg : '\n' ∉ l ++ gap := by simp [hl, hgapl]
      rw [bytes_of_line hlg, bytes_of_line hl, bytes?_append_blank_right hgap]
    | line gap u hgapl =>
      rw [List.all_append, List.all_cons, Bool.and_eq_true, Bool.and_eq_true] at hgap
      have hlg : '\n' ∉ l ++ gap := by simp [hl, hgapl]
      rw [← List.append_assoc, bytes_append hlg, bytes?_append_blank_right hgap.1,
        bytes_of_blank hgap.2.2, bytes_of_line hl, List.append_nil]

end OnlineAssembler.Listing
