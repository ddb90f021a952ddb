import Mathlib.Data.List.Infix
import OnlineAssembler.Text.Basic

namespace OnlineAssembler.Text

theorem lines_of_not_mem {l : Text} (h : '\n' ∉ l) : lines l = [l] := by
  induction l with
  | nil => rfl
  | cons c l ih =>
    rw [List.mem_cons, not_or] at h
    simp [lines, ih h.2, Ne.symm h.1]

theorem lines_append {l : Text} (h : '\n' ∉ l) (t : Text) :
    lines (l ++ '\n' :: t) = l :: lines t := by
  induction l with
  | nil => simp [lines]
  | cons c l ih =>
    rw [List.mem_cons, not_or] at h
    simp [lines, ih h.2, Ne.symm h.1]

/-- A text is its last line, or a line before a line feed and another text. -/
@[elab_as_elim]
theorem lines_induction {motive : Text → Prop} (last : ∀ l, '\n' ∉ l → motive l)
    (line : ∀ l t, '\n' ∉ l → motive t → motive (l ++ '\n' :: t)) (t : Text) : motive t := by
  induction hn : t.length using Nat.strong_induction_on generalizing t with
  | _ n ih =>
    subst hn
    by_cases h : '\n' ∈ t
    · obtain ⟨l, u, rfl, hl⟩ := List.eq_append_cons_of_mem h
      refine line l u hl (ih u.length ?_ u rfl)
      rw [List.length_append, List.length_cons]
      omega
    · exact last t h

theorem lines_ne_nil (t : Text) : lines t ≠ [] := by
  induction t using lines_induction with
  | last l hl => simp [lines_of_not_mem hl]
  | line l t hl ih => simp [lines_append hl]

theorem not_mem_of_mem_lines {l t : Text} (h : l ∈ lines t) : '\n' ∉ l := by
  induction t using lines_induction with
  | last k hk =>
    rw [lines_of_not_mem hk, List.mem_singleton] at h
    rwa [h]
  | line k t hk ih =>
    rw [lines_append hk] at h
    rcases List.mem_cons.1 h with rfl | h
    · exact hk
    · exact ih h

theorem unlines_cons {ls : List Text} (h : ls ≠ []) (l : Text) :
    unlines (l :: ls) = l ++ '\n' :: unlines ls := by
  obtain ⟨k, ls, rfl⟩ := List.exists_cons_of_ne_nil h
  rw [unlines, List.intercalate_cons_cons, List.append_assoc]
  rfl

theorem unlines_lines (t : Text) : unlines (lines t) = t := by
  induction t using lines_induction with
  | last l hl => rw [lines_of_not_mem hl, unlines, List.intercalate_singleton]
  | line l t hl ih => rw [lines_append hl, unlines_cons (lines_ne_nil t), ih]

theorem lines_eq_splitOn (t : Text) : lines t = t.splitOn '\n' := by
  have hline {l : Text} (hl : '\n' ∉ l) : ∀ c ∈ l, (c == '\n') = false := by
    intro c hc
    refine beq_eq_false_iff_ne.2 ?_
    rintro rfl
    exact hl hc
  have hend : (fun c ↦ c == '\n') '\n' = true := rfl
  rw [List.splitOn_eq_splitOnP]
  induction t using lines_induction with
  | last l hl => rw [lines_of_not_mem hl, List.splitOnP_eq_singleton (hline hl)]
  | line l t hl ih =>
    rw [lines_append hl, List.splitOnP_append_cons_of_forall_mem (hline hl) '\n' hend t, ih]

theorem isBlank_newline : isBlank '\n' = true := by decide

theorem eq_takeWhile_append_trimStart (t : Text) :
    ∃ gap, t = gap ++ trimStart t ∧ gap.all isBlank = true :=
  ⟨t.takeWhile isBlank, (List.takeWhile_append_dropWhile).symm, by simp⟩

section

variable {p : Char → Bool} {t u : Text}

theorem dropWhile_append_cons {c : Char} (hu : u.all p = true) (hc : p c = false) (t : Text) :
    (u ++ c :: t).dropWhile p = c :: t := by
  rw [List.dropWhile_append_of_pos (List.all_eq_true.1 hu),
    List.dropWhile_cons_of_neg (by rw [hc]; exact Bool.false_ne_true)]

theorem takeWhile_ne_nil (h : t.head?.any p = true) : t.takeWhile p ≠ [] := by
  cases t with
  | nil => cases h
  | cons c t =>
    have hc : p c = true := h
    rw [List.takeWhile_cons_of_pos hc]
    exact List.cons_ne_nil _ _

theorem all_ne_iff {c : Char} : (t.all fun d ↦ decide (d ≠ c)) = true ↔ c ∉ t := by
  rw [List.all_eq_true]
  constructor
  · intro h hc
    have := h c hc
    simp at this
  · intro h d hd
    rw [decide_eq_true_eq]
    rintro rfl
    exact h hd

end

def lineEnds : List Text := [['\n'], ['\r', '\n'], ['\r']]

def withLineEnds (ending t : Text) : Text := t.flatMap fun c ↦ if c = '\n' then ending else [c]

section

variable {ending t : Text} {c : Char}

theorem withLineEnds_newline (ending t : Text) :
    withLineEnds ending ('\n' :: t) = ending ++ withLineEnds ending t := rfl

theorem withLineEnds_cons (hc : c ≠ '\n') (ending t : Text) :
    withLineEnds ending (c :: t) = c :: withLineEnds ending t := by
  rw [withLineEnds, List.flatMap_cons, if_neg hc]
  rfl

theorem normalizeLineEnds_cons (hc : c ≠ '\r') (t : Text) :
    normalizeLineEnds (c :: t) = c :: normalizeLineEnds t :=
  normalizeLineEnds.eq_3 c t (fun _ h _ ↦ hc h) hc

theorem normalizeLineEnds_return (h : t.head? ≠ some '\n') :
    normalizeLineEnds ('\r' :: t) = '\n' :: normalizeLineEnds t := by
  refine normalizeLineEnds.eq_2 t fun u hu ↦ h ?_
  rw [hu, List.head?_cons]

theorem head?_withLineEnds_return (t : Text) : (withLineEnds ['\r'] t).head? ≠ some '\n' := by
  cases t with
  | nil => nofun
  | cons c t =>
    by_cases hc : c = '\n'
    · subst hc
      rw [withLineEnds_newline, List.singleton_append, List.head?_cons]
      decide
    · rw [withLineEnds_cons hc, List.head?_cons]
      intro h
      exact hc (Option.some.inj h)

theorem normalizeLineEnds_append_withLineEnds (h : ending ∈ lineEnds) (t : Text) :
    normalizeLineEnds (ending ++ withLineEnds ending t) =
      '\n' :: normalizeLineEnds (withLineEnds ending t) := by
  simp only [lineEnds, List.mem_cons, List.not_mem_nil, or_false] at h
  rcases h with rfl | rfl | rfl
  · exact normalizeLineEnds_cons (by decide) _
  · exact normalizeLineEnds.eq_1 _
  · exact normalizeLineEnds_return (head?_withLineEnds_return t)

/-- However its lines are ended, a text is read as the same one. -/
theorem normalizeLineEnds_withLineEnds (h : ending ∈ lineEnds) (ht : '\r' ∉ t) :
    normalizeLineEnds (withLineEnds ending t) = t := by
  induction t with
  | nil => rfl
  | cons c t ih =>
    rw [List.mem_cons, not_or] at ht
    by_cases hc : c = '\n'
    · subst hc
      rw [withLineEnds_newline, normalizeLineEnds_append_withLineEnds h, ih ht.2]
    · rw [withLineEnds_cons hc, normalizeLineEnds_cons (Ne.symm ht.1), ih ht.2]

end

end OnlineAssembler.Text
