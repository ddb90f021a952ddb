import OnlineAssembler.Proofs.Listing.Margin
import OnlineAssembler.Proofs.Text.Search

namespace OnlineAssembler.Listing

open Text Line

theorem unindent_false {l : Text} (hl : '\n' ∉ l) : unindent false l = l := by
  induction l with
  | nil => rfl
  | cons c l ih =>
    rw [List.mem_cons, not_or] at hl
    simp [unindent, Ne.symm hl.1, ih hl.2]

theorem unindent_false_append {l : Text} (hl : '\n' ∉ l) (t : Text) :
    unindent false (l ++ '\n' :: t) = l ++ '\n' :: unindent true t := by
  induction l with
  | nil => rfl
  | cons c l ih =>
    rw [List.mem_cons, not_or] at hl
    simp [unindent, Ne.symm hl.1, ih hl.2]

theorem unindent_true_cons {c : Char} (hc : isBlank c = false) (hn : c ≠ '\n') (t : Text) :
    unindent true (c :: t) = c :: unindent false t := by
  simp [unindent, hc, hn]

theorem bytes?_cons_blank {c : Char} (hc : isBlank c = true) (t : Text) :
    bytes? (c :: t) = bytes? t :=
  bytes?_append_blank (show [c].all isBlank = true by simp [hc]) t

theorem bytes_unindent_line {l : Text} (hl : '\n' ∉ l) :
    bytes (unindent true l) = (bytes? l).getD [] := by
  induction l with
  | nil => rfl
  | cons c l ih =>
    have hcl := hl
    rw [List.mem_cons, not_or] at hl
    cases hc : isBlank c with
    | true => simpa [unindent, hc, bytes?_cons_blank hc] using ih hl.2
    | false =>
      rw [unindent_true_cons hc (Ne.symm hl.1), unindent_false hl.2, bytes_of_line hcl]

theorem bytes_unindent_append {l : Text} (hl : '\n' ∉ l) (t : Text) :
    bytes (unindent true (l ++ '\n' :: t)) = (bytes? l).getD [] ++ bytes (unindent true t) := by
  induction l with
  | nil => simp [unindent, isBlank_newline, bytes?]
  | cons c l ih =>
    have hcl := hl
    rw [List.mem_cons, not_or] at hl
    cases hc : isBlank c with
    | true => simpa [unindent, hc, bytes?_cons_blank hc] using ih hl.2
    | false =>
      rw [List.cons_append, unindent_true_cons hc (Ne.symm hl.1), unindent_false_append hl.2,
        ← List.cons_append, bytes_append hcl]

theorem bytes_unindent (t : Text) : bytes (unindent true t) = bytes t := by
  induction t using lines_induction with
  | last l hl => rw [bytes_unindent_line hl, bytes_of_line hl]
  | line l t hl ih => rw [bytes_unindent_append hl, bytes_append hl, ih]

theorem isBlank_head?_unindent (t : Text) : ∀ c ∈ (unindent true t).head?, isBlank c = false := by
  induction t with
  | nil => exact nofun
  | cons c t ih =>
    cases hc : isBlank c with
    | true => simpa [unindent, hc] using ih
    | false => simp [unindent, hc]

theorem trimStart_unindent (t : Text) : trimStart (unindent true t) = unindent true t := by
  cases hu : unindent true t with
  | nil => rfl
  | cons c u =>
    have hc := isBlank_head?_unindent t c (by rw [hu]; rfl)
    simp [trimStart, hc]

/-- White space at the ends of lines and lines without anything else have no part in the bytes. -/
theorem bytes_trim_unindent (t : Text) : bytes (trim (unindent true t)) = bytes t := by
  obtain ⟨gap, hgap, hblank⟩ := eq_trimEnd_append (unindent true t)
  rw [trim, trimStart_unindent, ← bytes_append_blank hblank, ← hgap, bytes_unindent]

theorem code?_append {head : Text} (h : ¬ entryMarker <:+: head) (t : Text) :
    code? (head ++ (entryMarker ++ t)) = some (trim (unindent true t)) := by
  have hafter : after? entryMarker (head ++ (entryMarker ++ t)) = some t :=
    after?_append (by decide) h t
  rw [code?, hafter]

theorem decode_of_code? {listing code : Text} (h : code? listing = some code) :
    (decode listing).answer = .ok ⟨code, bytes code⟩ := by
  rw [decode, h]
  rfl

theorem decode_append {head : Text} (h : ¬ entryMarker <:+: head) (t : Text) :
    ∃ code, (decode (head ++ (entryMarker ++ t))).answer = .ok ⟨code, bytes t⟩ := by
  refine ⟨trim (unindent true t), ?_⟩
  rw [decode_of_code? (code?_append h t), bytes_trim_unindent]

end OnlineAssembler.Listing
