import Mathlib.Data.List.Pairwise
import OnlineAssembler.Proofs.Filter.Language

namespace OnlineAssembler.Filter

open Text (Inserted removeEach)

def sweep (directives : List Text) : Text → Text :=
  Text.delete fun t ↦ ((directives.find? (·.isPrefixOf t)).map List.length).getD 0

/-- Each full stop of the source starts a directive of the table. -/
def IsOrdinary (directives : List Text) (source : Text) : Prop :=
  ∀ t ∈ source.tails, t.head? = some '.' → ∃ d ∈ directives, d <+: t

instance (directives : List Text) (source : Text) : Decidable (IsOrdinary directives source) :=
  inferInstanceAs (Decidable (∀ t ∈ source.tails, t.head? = some '.' → ∃ d ∈ directives, d <+: t))

instance : Std.Symm Apart := ⟨fun _ _ h ↦ ⟨h.2, h.1⟩⟩

section

variable {ds : List Text} {c : Char} {d t u w : Text}

theorem IsOrdinary.of_isSuffix (h : IsOrdinary ds t) (hu : u <:+ t) : IsOrdinary ds u := by
  intro v hv hdot
  rw [List.mem_tails] at hv
  exact h v ((List.mem_tails v t).2 (hv.trans hu)) hdot

/-- An ordinary source is a text without full stops in which directives of the table were put. -/
theorem IsOrdinary.exists_inserted (hds : ∀ d ∈ ds, IsDotted d) (h : IsOrdinary ds t) :
    ∃ w, '.' ∉ w ∧ Inserted (· ∈ ds) w t := by
  induction hn : t.length using Nat.strong_induction_on generalizing t with
  | _ n ih =>
    subst hn
    cases t with
    | nil => exact ⟨[], List.not_mem_nil, .nil⟩
    | cons c t =>
      by_cases hc : c = '.'
      -- A full stop goes with the whole directive that it starts, so that the rest is ordinary.
      · have hfront : ∃ d ∈ ds, d <+: c :: t :=
          h (c :: t) ((List.mem_tails _ _).2 List.suffix_rfl) (congrArg some hc)
        obtain ⟨d, hmem, u, hu⟩ := hfront
        have hlength := congrArg List.length hu
        have hpos := (hds d hmem).length
        rw [List.length_append] at hlength
        obtain ⟨w, hw, hins⟩ := ih u.length (by omega) (h.of_isSuffix ⟨d, hu⟩) rfl
        rw [← hu]
        exact ⟨w, hw, .insert hmem hins⟩
      · obtain ⟨w, hw, hins⟩ :=
          ih t.length (by simp) (h.of_isSuffix (List.suffix_cons c t)) rfl
        refine ⟨c :: w, ?_, .char c hins⟩
        rw [List.mem_cons, not_or]
        exact ⟨Ne.symm hc, hw⟩

theorem removeEach_of_inserted (hds : ∀ d ∈ ds, IsDotted d) (hapart : ds.Pairwise Apart)
    (hw : '.' ∉ w) (h : Inserted (· ∈ ds) w t) : removeEach ds t = w := by
  apply (removeEach_eq_iff hds hapart fun d hd ↦ (hds d hd).not_isInfix_of_not_mem hw).2
  exact h.mono fun d hd ↦ (hds d hd).isAnyToken hd

theorem sweep_cons (h : ∀ d ∈ ds, ¬ d <+: c :: t) : sweep ds (c :: t) = c :: sweep ds t := by
  apply Text.delete_cons_of_width_eq_zero
  have hnone : ds.find? (·.isPrefixOf (c :: t)) = none := by
    rw [List.find?_eq_none]
    intro d hd
    rw [List.isPrefixOf_iff_prefix]
    exact h d hd
  rw [hnone]
  rfl

/-- At most one directive of the table stands at any place. -/
theorem find?_append (hapart : ds.Pairwise Apart) (hd : d ∈ ds) (t : Text) :
    ds.find? (·.isPrefixOf (d ++ t)) = some d := by
  cases hfind : ds.find? (·.isPrefixOf (d ++ t)) with
  | none =>
    have hno := List.find?_eq_none.1 hfind d hd
    exact absurd (List.isPrefixOf_iff_prefix.2 (List.prefix_append d t)) hno
  | some e =>
    have he := List.find?_some hfind
    have hmem : e ∈ ds := List.mem_of_find?_eq_some hfind
    rw [List.isPrefixOf_iff_prefix] at he
    by_contra hne
    have hed : Apart e d := hapart.forall hmem hd fun h ↦ hne (congrArg some h)
    rcases List.prefix_or_prefix_of_prefix he (List.prefix_append d t) with h | h
    · exact hed.1 h
    · exact hed.2 h

theorem sweep_append (hapart : ds.Pairwise Apart) (hd : d ∈ ds) (hne : d ≠ []) (t : Text) :
    sweep ds (d ++ t) = sweep ds t := by
  apply Text.delete_append_of_width_eq_length hne
  rw [find?_append hapart hd]
  rfl

theorem sweep_of_inserted (hds : ∀ d ∈ ds, IsDotted d) (hapart : ds.Pairwise Apart)
    (hw : '.' ∉ w) (h : Inserted (· ∈ ds) w t) : sweep ds t = w := by
  induction h with
  | nil => rfl
  | @char c w t h ih =>
    rw [List.mem_cons, not_or] at hw
    rw [sweep_cons, ih hw.2]
    intro d hd hprefix
    rw [(hds d hd).eq_cons] at hprefix
    exact hw.1 (List.cons_prefix_cons.1 hprefix).1
  | @insert d w t hd h ih =>
    have hne : d ≠ [] := List.ne_nil_of_length_pos (Nat.zero_lt_of_lt (hds d hd).length)
    rw [sweep_append hapart hd hne, ih hw]

theorem IsOrdinary.inserted_sweep (hds : ∀ d ∈ ds, IsDotted d) (hapart : ds.Pairwise Apart)
    (h : IsOrdinary ds t) : '.' ∉ sweep ds t ∧ Inserted (· ∈ ds) (sweep ds t) t := by
  obtain ⟨w, hw, hins⟩ := h.exists_inserted hds
  rw [sweep_of_inserted hds hapart hw hins]
  exact ⟨hw, hins⟩

/-- From an ordinary source the removals take the same whatever their order, and so does a single
pass. -/
theorem IsOrdinary.removeEach_eq (hds : ∀ d ∈ ds, IsDotted d) (hapart : ds.Pairwise Apart)
    (h : IsOrdinary ds t) {es : List Text} (hes : es.Perm ds) :
    removeEach es t = sweep ds t ∧ sweep es t = sweep ds t := by
  obtain ⟨hdot, hins⟩ := h.inserted_sweep hds hapart
  have hds' : ∀ d ∈ es, IsDotted d := fun d hd ↦ hds d (hes.mem_iff.1 hd)
  have hapart' : es.Pairwise Apart := (hes.pairwise_iff (Std.Symm.symm _ _)).2 hapart
  have hins' : Inserted (· ∈ es) (sweep ds t) t := hins.mono fun d ↦ hes.mem_iff.2
  exact ⟨removeEach_of_inserted hds' hapart' hdot hins', sweep_of_inserted hds' hapart' hdot hins'⟩

end

/-- The order of the removals does not matter for an ordinary source. What they leave is the source
without the directives that its full stops start, as a single pass leaves it. -/
theorem removeEach_of_isOrdinary {source : Text} (h : IsOrdinary safeDirectives source) :
    (∀ ds : List Text, ds.Perm safeDirectives →
      removeEach ds source = strip source ∧ sweep ds source = strip source) ∧
      Inserted (· ∈ safeDirectives) (strip source) source ∧ '.' ∉ strip source := by
  have heq {ds : List Text} (hds : ds.Perm safeDirectives) :=
    h.removeEach_eq isDotted_of_mem_safeDirectives pairwise_safeDirectives hds
  obtain ⟨hdot, hins⟩ :=
    h.inserted_sweep isDotted_of_mem_safeDirectives pairwise_safeDirectives
  have hstrip : strip source = sweep safeDirectives source := (heq (List.Perm.refl _)).1
  rw [hstrip]
  exact ⟨fun ds ↦ heq, hins, hdot⟩

theorem removeEach_of_isOrdinary_reverse :
    IsOrdinary safeDirectives ".byte.int 1;.word".toList ∧
      removeEach safeDirectives.reverse ".byte.int 1;.word".toList = " 1;".toList ∧
      sweep safeDirectives.reverse ".byte.int 1;.word".toList = " 1;".toList := by
  have h : IsOrdinary safeDirectives ".byte.int 1;.word".toList := by decide
  have hstrip : strip ".byte.int 1;.word".toList = " 1;".toList := by decide
  have hall := (removeEach_of_isOrdinary h).1 safeDirectives.reverse (List.reverse_perm _)
  rw [hstrip] at hall
  exact ⟨h, hall⟩

/-- With one directive inside another the order does matter. -/
example : removeEach safeDirectives.reverse ".by.asciite".toList ≠ strip ".by.asciite".toList := by
  decide

end OnlineAssembler.Filter
