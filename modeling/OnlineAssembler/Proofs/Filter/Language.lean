import OnlineAssembler.Proofs.Filter.Directive
import OnlineAssembler.Proofs.Text.Inserted

namespace OnlineAssembler.Filter

open Text (Inserted Spread removeEach remove)

/-- A token of the directive at place `k` is the directive with tokens of earlier directives put in
between its characters. -/
def IsToken (directives : List Text) (k : Nat) (t : Text) : Prop :=
  ∃ d ∈ directives[k]?, Spread (fun u ↦ ∃ j : Fin k, IsToken directives j u) d t
termination_by k
decreasing_by exact j.isLt

def IsAnyToken (directives : List Text) (t : Text) : Prop := ∃ k, IsToken directives k t

structure IsDotted (d : Text) : Prop where
  eq_cons : d = '.' :: d.tail
  dot : '.' ∉ d.tail
  length : 2 ≤ d.length

def Apart (d e : Text) : Prop := ¬ d <+: e ∧ ¬ e <+: d

section

variable {ds : List Text} {d s t u : Text}

theorem isToken_append {k : Nat} (hk : k < ds.length) (es : List Text) (t : Text) :
    IsToken (ds ++ es) k t ↔ IsToken ds k t := by
  induction k using Nat.strong_induction_on generalizing t with
  | _ k ih =>
    have hearlier : (fun u ↦ ∃ j : Fin k, IsToken (ds ++ es) j u) =
        fun u ↦ ∃ j : Fin k, IsToken ds j u := by
      funext u
      refine propext (exists_congr fun j ↦ ?_)
      exact ih j j.isLt (j.isLt.trans hk) u
    rw [IsToken, IsToken, List.getElem?_append_left hk, hearlier]

theorem IsToken.lt {k : Nat} (h : IsToken ds k t) : k < ds.length := by
  rw [IsToken] at h
  obtain ⟨d, hd, -⟩ := h
  exact (List.getElem?_eq_some_iff.1 hd).1

/-- A token of the last directive is that directive with tokens of the others inside. -/
theorem isToken_length_iff :
    IsToken (ds ++ [d]) ds.length t ↔ Spread (IsAnyToken ds) d t := by
  have hearlier : (fun u ↦ ∃ j : Fin ds.length, IsToken (ds ++ [d]) j u) = IsAnyToken ds := by
    funext u
    refine propext ⟨?_, ?_⟩
    · rintro ⟨j, hj⟩
      exact ⟨j, (isToken_append j.isLt [d] u).1 hj⟩
    · rintro ⟨j, hj⟩
      exact ⟨⟨j, hj.lt⟩, (isToken_append hj.lt [d] u).2 hj⟩
  rw [IsToken, hearlier]
  simp

theorem isAnyToken_append_singleton :
    IsAnyToken (ds ++ [d]) t ↔ IsAnyToken ds t ∨ Spread (IsAnyToken ds) d t := by
  constructor
  · rintro ⟨k, hk⟩
    have hlt := hk.lt
    rw [List.length_append, List.length_singleton, Nat.lt_succ_iff_lt_or_eq] at hlt
    rcases hlt with hlt | rfl
    · exact .inl ⟨k, (isToken_append hlt [d] t).1 hk⟩
    · exact .inr (isToken_length_iff.1 hk)
  · rintro (⟨k, hk⟩ | h)
    · exact ⟨k, (isToken_append hk.lt [d] t).2 hk⟩
    · exact ⟨ds.length, isToken_length_iff.2 h⟩

theorem removeEach_append_singleton (ds : List Text) (d t : Text) :
    removeEach (ds ++ [d]) t = remove d (removeEach ds t) := List.foldl_concat ..

theorem IsDotted.not_isInfix (hd : IsDotted d) {p : Text} (hp : IsDotted p) (hpd : Apart p d)
    (h : Inserted (· = d) s t) (hs : ¬ p <:+: s) : ¬ p <:+: t := by
  obtain ⟨hpref, hpref'⟩ := hpd
  rw [hd.eq_cons] at h hpref hpref'
  rw [hp.eq_cons] at hpref hpref' hs ⊢
  exact h.not_isInfix hp.dot hd.dot hpref hpref' hs

theorem IsDotted.remove_of_inserted (hd : IsDotted d) (h : Inserted (· = d) s t)
    (hs : ¬ d <:+: s) : remove d t = s := by
  rw [hd.eq_cons] at h hs ⊢
  exact Text.remove_of_inserted hd.dot h hs

theorem IsDotted.not_isInfix_of_not_mem (hd : IsDotted d) (hs : '.' ∉ s) : ¬ d <:+: s := by
  intro h
  rw [hd.eq_cons] at h
  exact hs (h.subset List.mem_cons_self)

theorem IsDotted.isAnyToken (hd : IsDotted d) (hmem : d ∈ ds) : IsAnyToken ds d := by
  obtain ⟨k, hk⟩ := List.getElem?_of_mem hmem
  refine ⟨k, ?_⟩
  rw [IsToken]
  exact ⟨d, hk, Spread.refl hd.length⟩

/-- What removals in turn leave of a text. -/
theorem removeEach_eq_iff (hds : ∀ d ∈ ds, IsDotted d) (hapart : ds.Pairwise Apart)
    (hs : ∀ d ∈ ds, ¬ d <:+: s) : removeEach ds t = s ↔ Inserted (IsAnyToken ds) s t := by
  -- From the last removal back: putting the last directive into what is left brings no earlier one
  -- about, so the text before the last removal holds no earlier directive either.
  induction ds using List.reverseRecOn generalizing s with
  | nil =>
    have hnone (u : Text) : ¬ IsAnyToken [] u := fun ⟨k, hk⟩ ↦ absurd hk.lt (Nat.not_lt_zero k)
    constructor
    · rintro rfl
      exact Inserted.refl t
    · intro h
      exact (h.eq_of_forall_not hnone).symm
  | append_singleton ds d ih =>
    obtain ⟨hpair, -, hlast⟩ := List.pairwise_append.1 hapart
    have hd : IsDotted d := hds d (by simp)
    have hds' : ∀ p ∈ ds, IsDotted p := fun p hp ↦ hds p (List.mem_append_left _ hp)
    have hfree {s' : Text} (h : Inserted (· = d) s s') : ∀ p ∈ ds, ¬ p <:+: s' := by
      intro p hp
      have hpd : Apart p d := hlast p hp d List.mem_cons_self
      exact hd.not_isInfix (hds' p hp) hpd h (hs p (List.mem_append_left _ hp))
    rw [removeEach_append_singleton]
    constructor
    · intro h
      have hlast : Inserted (· = d) s (removeEach ds t) := by
        rw [← h]
        exact Text.inserted_remove (List.ne_nil_of_length_pos (Nat.zero_lt_of_lt hd.length)) _
      have hearlier := (ih hds' hpair (hfree hlast)).1 rfl
      refine hlast.comp hd.length (fun u hu ↦ ?_) (fun u hu ↦ ?_) hearlier
      · exact isAnyToken_append_singleton.2 (.inl hu)
      · exact isAnyToken_append_singleton.2 (.inr hu)
    · intro h
      obtain ⟨s', hlast, hearlier⟩ := h.exists_comp fun u ↦ isAnyToken_append_singleton.1
      rw [(ih hds' hpair (hfree hlast)).2 hearlier]
      exact hd.remove_of_inserted hlast (hs d (by simp))

end

theorem isDotted_of_mem_safeDirectives : ∀ d ∈ safeDirectives, IsDotted d := by
  have all : ∀ d ∈ safeDirectives, d = '.' :: d.tail ∧ '.' ∉ d.tail ∧ 2 ≤ d.length := by decide
  intro d hd
  obtain ⟨hcons, hdot, hlength⟩ := all d hd
  exact ⟨hcons, hdot, hlength⟩

theorem pairwise_safeDirectives : safeDirectives.Pairwise Apart := by
  unfold Apart
  decide

theorem not_isInfix_of_not_mem {d w : Text} (hd : d ∈ safeDirectives) (hw : '.' ∉ w) :
    ¬ d <:+: w :=
  (isDotted_of_mem_safeDirectives d hd).not_isInfix_of_not_mem hw

theorem isSafe_iff_strip {t : Text} :
    IsSafe t ↔
      '.' ∉ strip t ∧ ¬ "#APP".toList <:+: strip t ∧ ¬ "#NO_APP".toList <:+: strip t := by
  rw [isSafe_iff, and_comm]
  refine and_congr_right fun hdot ↦ ?_
  simp only [markers, List.map_cons, List.map_nil, List.forall_mem_cons, List.not_mem_nil,
    false_implies, implies_true, and_true, ← Bool.not_eq_true, Text.occursIn_iff]
  exact and_comm

/-- The language of the filter. A source is stripped to a text without full stops exactly if it is
that text with tokens put in, and it is accepted exactly if no marker shows up in the text. -/
theorem strip_eq_iff_inserted (t : Text) :
    (∀ w, '.' ∉ w → (strip t = w ↔ Inserted (IsAnyToken safeDirectives) w t)) ∧
      (IsSafe t ↔ ∃ w, '.' ∉ w ∧ ¬ "#APP".toList <:+: w ∧ ¬ "#NO_APP".toList <:+: w ∧
        Inserted (IsAnyToken safeDirectives) w t) := by
  have hstrip : ∀ w, '.' ∉ w → (strip t = w ↔ Inserted (IsAnyToken safeDirectives) w t) := by
    intro w hw
    rw [strip_eq_removeEach]
    refine removeEach_eq_iff isDotted_of_mem_safeDirectives pairwise_safeDirectives fun d hd ↦ ?_
    exact not_isInfix_of_not_mem hd hw
  refine ⟨hstrip, ?_⟩
  rw [isSafe_iff_strip]
  constructor
  · rintro ⟨hdot, hmarkers⟩
    exact ⟨strip t, hdot, hmarkers.1, hmarkers.2, (hstrip (strip t) hdot).1 rfl⟩
  · rintro ⟨w, hdot, happ, hnoApp, h⟩
    obtain rfl := (hstrip w hdot).2 h
    exact ⟨hdot, happ, hnoApp⟩

/-- The token `.byte` with `.ascii` inside, in front of a blank. -/
theorem strip_eq_iff_inserted_spliced :
    '.' ∉ " 1".toList ∧ strip ".by.asciite 1".toList = " 1".toList ∧
      Inserted (IsAnyToken safeDirectives) " 1".toList ".by.asciite 1".toList := by
  have hdot : '.' ∉ " 1".toList := by decide
  have hstrip : strip ".by.asciite 1".toList = " 1".toList := by decide
  have hiff := (strip_eq_iff_inserted ".by.asciite 1".toList).1 " 1".toList hdot
  exact ⟨hdot, hstrip, hiff.1 hstrip⟩

end OnlineAssembler.Filter
