import OnlineAssembler.Filter
import OnlineAssembler.Proofs.Text.Search

namespace OnlineAssembler.Filter

def isNameChar (c : Char) : Bool := c.isAlphanum || c = '_' || c = '.' || c = '$'

/-- A directive of a source is a name in it that starts with a full stop and that no character
beside it could continue. -/
structure IsDirectiveOf (d source : Text) : Prop where
  dot : d.head? = some '.'
  isName : ∀ c ∈ d, isNameChar c = true
  isMaximal : ∃ before after, source = before ++ (d ++ after) ∧
    (∀ c ∈ before.getLast?, isNameChar c = false) ∧ ∀ c ∈ after.head?, isNameChar c = false

/-- A directive with one full stop that is not a safe directive with more characters behind it. -/
structure IsPlain (d : Text) : Prop where
  dot : '.' ∉ d.tail
  isWhole : ∀ s ∈ safeDirectives, s <+: d → s = d

theorem safeDirectives_ne_nil : ∀ s ∈ safeDirectives, s ≠ [] := by decide

theorem head?_of_mem_safeDirectives : ∀ s ∈ safeDirectives, s.head? = some '.' := by decide

theorem isNameChar_of_mem_safeDirectives : ∀ s ∈ safeDirectives, ∀ c ∈ s, isNameChar c = true := by
  have all : ∀ s ∈ safeDirectives, s.all isNameChar = true := by decide
  exact fun s hs ↦ List.all_eq_true.1 (all s hs)

theorem isPlain_of_mem_safeDirectives {d : Text} (h : d ∈ safeDirectives) : IsPlain d := by
  have all : ∀ d ∈ safeDirectives, '.' ∉ d.tail ∧ ∀ s ∈ safeDirectives, s <+: d → s = d := by
    decide
  exact ⟨(all d h).1, (all d h).2⟩

theorem strip_eq_removeEach (t : Text) : strip t = Text.removeEach safeDirectives t := rfl

theorem strip_append_cons_of_forall {c : Char} (hc : ∀ d ∈ safeDirectives, c ∉ d) (a b : Text) :
    strip (a ++ c :: b) = strip a ++ c :: strip b :=
  Text.removeEach_append_cons safeDirectives_ne_nil hc a b

/-- What is not a name character keeps the parts of a source on its two sides apart. -/
theorem strip_append_cons {c : Char} (hc : isNameChar c = false) (a b : Text) :
    strip (a ++ c :: b) = strip a ++ c :: strip b := by
  refine strip_append_cons_of_forall (fun s hs hcs ↦ ?_) a b
  rw [isNameChar_of_mem_safeDirectives s hs c hcs] at hc
  cases hc

theorem strip_subset_strip_append {a b : Text} (h : ∀ c ∈ b.head?, isNameChar c = false) :
    strip a ⊆ strip (a ++ b) := by
  cases b with
  | nil => simp
  | cons c b =>
    rw [strip_append_cons (h c rfl)]
    exact List.subset_append_left _ _

theorem strip_subset_append_strip {a b : Text} (h : ∀ c ∈ a.getLast?, isNameChar c = false) :
    strip b ⊆ strip (a ++ b) := by
  rcases List.eq_nil_or_concat a with rfl | ⟨a, c, rfl⟩
  · simp
  · rw [List.concat_append, strip_append_cons (h c (by simp))]
    exact List.Subset.trans (List.subset_cons_self c _) (List.subset_append_right _ _)

theorem IsDirectiveOf.strip_subset {d source : Text} (h : IsDirectiveOf d source) :
    strip d ⊆ strip source := by
  obtain ⟨before, after, rfl, hbefore, hafter⟩ := h.isMaximal
  exact List.Subset.trans (strip_subset_strip_append hafter) (strip_subset_append_strip hbefore)

theorem isSafe_of_isName {d : Text} (hd : ∀ c ∈ d, isNameChar c = true) (hdot : '.' ∉ strip d) :
    IsSafe d := by
  have hash : ∀ m ∈ markers, '#' ∈ m := by decide
  refine isSafe_iff.2 ⟨fun m hm ↦ ?_, hdot⟩
  by_contra hocc
  rw [Bool.not_eq_false, Text.occursIn_iff] at hocc
  have hmem : '#' ∈ d := (Text.removeEach_sublist safeDirectives d).subset
    (hocc.subset (hash m hm))
  exact absurd (hd '#' hmem) (by decide)

theorem eq_cons_tail {d : Text} {c : Char} (h : d.head? = some c) : d = c :: d.tail := by
  cases d with
  | nil => cases h
  | cons a d => rw [Option.some.inj h, List.tail_cons]

/-- Only a safe directive at its front can take away the full stop of a directive that has but
one. -/
theorem exists_isPrefix_of_not_mem_strip {d : Text} (hd : d.head? = some '.')
    (htail : '.' ∉ d.tail) (h : '.' ∉ strip d) : ∃ s ∈ safeDirectives, s <+: d := by
  by_contra hno
  have hinfix : ∀ s ∈ safeDirectives, ¬ s <:+: d := by
    intro s hs hsd
    have hdot : '.' ∈ s := List.mem_of_mem_head? (head?_of_mem_safeDirectives s hs)
    rw [eq_cons_tail hd, List.infix_cons_iff, ← eq_cons_tail hd] at hsd
    rcases hsd with hsd | hsd
    · exact hno ⟨s, hs, hsd⟩
    · exact htail (hsd.subset hdot)
  rw [strip_eq_removeEach, Text.removeEach_eq_self hinfix] at h
  exact h (List.mem_of_mem_head? hd)

theorem IsDirectiveOf.mem_safeDirectives {d source : Text} (h : IsDirectiveOf d source)
    (hsafe : IsSafe source) (hplain : IsPlain d) : d ∈ safeDirectives := by
  have hstrip : '.' ∉ strip d := fun hd ↦ (isSafe_iff.1 hsafe).2 (h.strip_subset hd)
  obtain ⟨s, hs, hsd⟩ := exists_isPrefix_of_not_mem_strip h.dot hplain.dot hstrip
  exact hplain.isWhole s hs hsd ▸ hs

/-- What gets past the filter: the directives of an accepted source are those that are accepted by
themselves, and they are safe directives exactly if all of them are plain. -/
theorem directives_of_isSafe {source : Text} (h : IsSafe source) :
    (∀ d, IsDirectiveOf d source → IsSafe d) ∧
      ((∀ d, IsDirectiveOf d source → d ∈ safeDirectives) ↔
        ∀ d, IsDirectiveOf d source → IsPlain d) := by
  refine ⟨fun d hd ↦ ?_, fun hs d hd ↦ ?_, fun hp d hd ↦ ?_⟩
  · exact isSafe_of_isName hd.isName fun hdot ↦ (isSafe_iff.1 h).2 (hd.strip_subset hdot)
  · exact isPlain_of_mem_safeDirectives (hs d hd)
  · exact hd.mem_safeDirectives h (hp d hd)

theorem isDirectiveOf_append_blank {d : Text} (hdot : d.head? = some '.')
    (hname : d.all isNameChar = true) (t : Text) : IsDirectiveOf d (d ++ ' ' :: t) := by
  refine ⟨hdot, List.all_eq_true.1 hname, [], ' ' :: t, rfl, nofun, fun c hc ↦ ?_⟩
  obtain rfl : ' ' = c := Option.some.inj hc
  decide

theorem directives_of_isSafe_spliced :
    IsSafe (".by.asciite".toList ++ [' ', '1']) ∧ IsSafe ".by.asciite".toList ∧
      ¬ ∀ d, IsDirectiveOf d (".by.asciite".toList ++ [' ', '1']) → IsPlain d := by
  have hsafe : IsSafe (".by.asciite".toList ++ [' ', '1']) := by decide
  have hd : IsDirectiveOf ".by.asciite".toList (".by.asciite".toList ++ [' ', '1']) :=
    isDirectiveOf_append_blank (by decide) (by decide) ['1']
  obtain ⟨hall, hiff⟩ := directives_of_isSafe hsafe
  exact ⟨hsafe, hall _ hd, fun hplain ↦ absurd (hiff.2 hplain _ hd) (by decide)⟩

/-- A directive that starts with a safe one gets past the filter. -/
theorem isSafe_internal :
    ¬ ∀ source, IsSafe source → ∀ d, IsDirectiveOf d source → d ∈ safeDirectives := by
  intro h
  have hsafe : IsSafe (".internal".toList ++ [' ', 'f', 'o', 'o']) := by decide
  have hd : IsDirectiveOf ".internal".toList (".internal".toList ++ [' ', 'f', 'o', 'o']) :=
    isDirectiveOf_append_blank (by decide) (by decide) ['f', 'o', 'o']
  exact absurd (h _ hsafe _ hd) (by decide)

end OnlineAssembler.Filter
