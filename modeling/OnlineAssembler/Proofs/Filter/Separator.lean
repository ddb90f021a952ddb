import OnlineAssembler.Proofs.Filter.Directive
import OnlineAssembler.Proofs.Text.Lines

namespace OnlineAssembler.Filter

structure IsSeparator (c : Char) : Prop where
  not_mem_directive : ∀ d ∈ safeDirectives, c ∉ d
  not_mem_marker : ∀ m ∈ markers, c ∉ m

instance (c : Char) : Decidable (IsSeparator c) :=
  decidable_of_iff ((∀ d ∈ safeDirectives, c ∉ d) ∧ ∀ m ∈ markers, c ∉ m)
    ⟨fun h ↦ ⟨h.1, h.2⟩, fun h ↦ ⟨h.not_mem_directive, h.not_mem_marker⟩⟩

section

variable {c : Char} {a b : Text}

theorem IsSeparator.ne_dot (hc : IsSeparator c) : '.' ≠ c := by
  rintro rfl
  exact hc.not_mem_directive ".byte".toList (by decide) (by decide)

theorem IsSeparator.strip_append (hc : IsSeparator c) (a b : Text) :
    strip (a ++ c :: b) = strip a ++ c :: strip b :=
  strip_append_cons_of_forall hc.not_mem_directive a b

theorem dot_mem_append_cons (hc : '.' ≠ c) : '.' ∈ a ++ c :: b ↔ '.' ∈ a ∨ '.' ∈ b := by
  rw [List.mem_append, List.mem_cons, or_iff_right hc]

theorem occursIn_append_cons {m : Text} (hc : c ∉ m) :
    Text.occursIn m (a ++ c :: b) = false ↔
      Text.occursIn m a = false ∧ Text.occursIn m b = false := by
  simp only [← Bool.not_eq_true, Text.occursIn_iff, ← not_or]
  refine not_congr ⟨Text.isInfix_append_cons hc, ?_⟩
  rintro (h | h)
  · exact h.trans (List.prefix_append a (c :: b)).isInfix
  · exact h.trans ((List.suffix_cons c b).trans (List.suffix_append a (c :: b))).isInfix

theorem IsSeparator.isSafe_append_iff (hc : IsSeparator c) :
    IsSafe (a ++ c :: b) ↔ IsSafe a ∧ IsSafe b := by
  have hmarkers : (∀ m ∈ markers, Text.occursIn m (strip a ++ c :: strip b) = false) ↔
      (∀ m ∈ markers, Text.occursIn m (strip a) = false) ∧
        ∀ m ∈ markers, Text.occursIn m (strip b) = false := by
    rw [← forall₂_and]
    exact forall₂_congr fun m hm ↦ occursIn_append_cons (hc.not_mem_marker m hm)
  rw [isSafe_iff, isSafe_iff, isSafe_iff, hc.strip_append, hmarkers,
    dot_mem_append_cons hc.ne_dot, not_or]
  exact and_and_and_comm

/-- Any number of separators cut a source into parts that are judged one by one. -/
theorem isSafe_iff_splitOnP {p : Char → Bool} (hp : ∀ c, p c = true → IsSeparator c)
    (source : Text) : IsSafe source ↔ ∀ t ∈ source.splitOnP p, IsSafe t := by
  induction hn : source.length using Nat.strong_induction_on generalizing source with
  | _ n ih =>
    subst hn
    by_cases h : ∃ c ∈ source, p c = true
    · obtain ⟨c, hmem, hc⟩ := h
      obtain ⟨a, b, rfl⟩ := List.append_of_mem hmem
      have ha := ih a.length (by simp) a rfl
      have hb := ih b.length (by simp; omega) b rfl
      rw [(hp c hc).isSafe_append_iff, ha, hb, List.splitOnP_append_cons a b hc,
        List.forall_mem_append]
    · have hnone : ∀ c ∈ source, p c = false := by simpa using h
      rw [List.splitOnP_eq_singleton hnone, List.forall_mem_singleton]

end

/-- Separators keep the statements of a source apart. What stands on the two sides of one is
stripped and judged by itself, so a source is accepted exactly if each of its statements is,
whichever separators end them, and exactly if each of its lines is. -/
theorem isSafe_at_separators :
    (∀ c ∈ ['\n', ' ', ',', ';'], IsSeparator c) ∧
    (∀ c, IsSeparator c → ∀ a b, strip (a ++ c :: b) = strip a ++ c :: strip b ∧
      (IsSafe (a ++ c :: b) ↔ IsSafe a ∧ IsSafe b)) ∧
    (∀ p : Char → Bool, (∀ c, p c = true → IsSeparator c) →
      ∀ source, IsSafe source ↔ ∀ t ∈ source.splitOnP p, IsSafe t) ∧
    ∀ source, IsSafe source ↔ ∀ l ∈ Text.lines source, IsSafe l := by
  have hends : ∀ c ∈ ['\n', ' ', ',', ';'], IsSeparator c := by
    simp only [List.forall_mem_cons, List.not_mem_nil, false_implies, implies_true, and_true]
    exact ⟨by decide, by decide, by decide, by decide⟩
  have hnewline : ∀ c, (c == '\n') = true → IsSeparator c := by
    intro c hc
    rw [eq_of_beq hc]
    exact hends '\n' List.mem_cons_self
  refine ⟨hends, ?_, ?_, ?_⟩
  · intro c hc a b
    exact ⟨hc.strip_append a b, hc.isSafe_append_iff⟩
  · intro p hp source
    exact isSafe_iff_splitOnP hp source
  · intro source
    rw [Text.lines_eq_splitOn, List.splitOn_eq_splitOnP]
    exact isSafe_iff_splitOnP hnewline source

/-- The halves of a directive do not come together across a semicolon, and a rejected statement
has the source rejected. -/
theorem isSafe_at_separators_semicolon :
    IsSeparator ';' ∧ strip (".asc".toList ++ ';' :: "ii".toList) = ".asc;ii".toList ∧
      ¬ IsSafe (".asc".toList ++ ';' :: "ii".toList) ∧
      IsSafe ".byte 1; nop\n.word 2".toList := by
  have hends : ∀ c, (fun c ↦ c == ';' || c == '\n') c = true → IsSeparator c := by
    intro c hc
    rcases Bool.or_eq_true_iff.1 hc with hc | hc
    · rw [eq_of_beq hc]
      decide
    · rw [eq_of_beq hc]
      decide
  obtain ⟨hall, hsides, hstatements, -⟩ := isSafe_at_separators
  have hsemicolon : IsSeparator ';' := hall ';' (by decide)
  obtain ⟨hstrip, hsafe⟩ := hsides ';' hsemicolon ".asc".toList "ii".toList
  refine ⟨hsemicolon, hstrip.trans (by decide), ?_, ?_⟩
  · rw [hsafe]
    exact fun h ↦ absurd h.1 (by decide)
  · exact (hstatements _ hends ".byte 1; nop\n.word 2".toList).2 (by decide)

end OnlineAssembler.Filter
