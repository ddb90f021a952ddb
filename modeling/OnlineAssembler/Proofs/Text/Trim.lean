import Mathlib.Data.List.TakeWhile
import OnlineAssembler.Text.Basic

namespace OnlineAssembler.Text

structure IsTrimmed (t : Text) : Prop where
  head : ∀ c ∈ t.head?, isBlank c = false
  last : ∀ c ∈ t.getLast?, isBlank c = false

theorem isBlank_head?_trimStart (t : Text) : ∀ c ∈ (trimStart t).head?, isBlank c = false := by
  intro c hc
  have hhead : (t.dropWhile isBlank).head? = some c := hc
  have h := List.head?_dropWhile_not isBlank t
  rw [hhead] at h
  exact h

theorem isBlank_getLast?_trimEnd (t : Text) : ∀ c ∈ (trimEnd t).getLast?, isBlank c = false := by
  induction t with
  | nil => nofun
  | cons c t ih =>
    cases ht : trimEnd t with
    | nil =>
      cases hc : isBlank c with
      | true => simp [trimEnd, ht, hc]
      | false => simp [trimEnd, ht, hc]
    | cons d u =>
      have hcons : trimEnd (c :: t) = c :: d :: u := by simp [trimEnd, ht]
      rw [hcons, List.getLast?_cons_cons, ← ht]
      exact ih

theorem trimStart_eq_nil_iff {t : Text} : trimStart t = [] ↔ t.all isBlank = true := by
  rw [trimStart, List.dropWhile_eq_nil_iff, List.all_eq_true]

theorem trimStart_append {gap t : Text} (hgap : gap.all isBlank = true)
    (ht : ∀ c ∈ t.head?, isBlank c = false) : trimStart (gap ++ t) = t := by
  rw [trimStart, List.dropWhile_append_of_pos (List.all_eq_true.1 hgap)]
  cases t with
  | nil => rfl
  | cons c t => exact List.dropWhile_cons_of_neg (by simp [ht c rfl])

theorem trimEnd_cons_ne_nil {c : Char} (hc : isBlank c = false) (t : Text) :
    trimEnd (c :: t) ≠ [] := by
  cases ht : trimEnd t with
  | nil => simp [trimEnd, ht, hc]
  | cons d u => simp [trimEnd, ht]

theorem trimEnd_append_of_ne_nil {u : Text} (h : trimEnd u ≠ []) (t : Text) :
    trimEnd (t ++ u) = t ++ trimEnd u := by
  induction t with
  | nil => rfl
  | cons c t ih =>
    obtain ⟨d, v, hv⟩ := List.exists_cons_of_ne_nil (List.append_ne_nil_of_right_ne_nil t h)
    rw [List.cons_append, trimEnd, ih, hv, List.cons_append, hv]

theorem trimEnd_of_getLast? {t : Text} (h : ∀ c ∈ t.getLast?, isBlank c = false) :
    trimEnd t = t := by
  obtain ⟨u, ht, hu⟩ := eq_trimEnd_append t
  rcases List.eq_nil_or_concat u with rfl | ⟨u, c, rfl⟩
  · rw [List.append_nil] at ht
    exact ht.symm
  · have hc : c ∈ t.getLast? := by
      rw [ht, List.concat_eq_append, ← List.append_assoc]
      exact List.getLast?_concat
    have hblank : isBlank c = true := List.all_eq_true.1 hu c (by simp)
    rw [h c hc] at hblank
    cases hblank

theorem trimEnd_trimEnd (t : Text) : trimEnd (trimEnd t) = trimEnd t := by
  obtain ⟨u, ht, hu⟩ := eq_trimEnd_append t
  calc trimEnd (trimEnd t)
    _ = trimEnd (trimEnd t ++ u) := (trimEnd_append_of_blank hu).symm
    _ = trimEnd t := by rw [← ht]

theorem trimEnd_append_cons_trimEnd (t : Text) (c : Char) (u : Text) :
    trimEnd (t ++ c :: trimEnd u) = trimEnd (t ++ c :: u) := by
  induction t with
  | nil => rw [List.nil_append, List.nil_append, trimEnd, trimEnd, trimEnd_trimEnd]
  | cons d t ih => rw [List.cons_append, List.cons_append, trimEnd, trimEnd, ih]

theorem trim_sublist (t : Text) : (trim t).Sublist t := by
  obtain ⟨u, ht, -⟩ := eq_trimEnd_append (trimStart t)
  have hend : (trim t).Sublist (trimStart t) := by
    rw [ht]
    exact List.sublist_append_left _ _
  exact hend.trans (List.dropWhile_sublist isBlank)

theorem mem_head?_of_mem_head?_trimEnd {t : Text} {c : Char} (h : c ∈ (trimEnd t).head?) :
    c ∈ t.head? := by
  obtain ⟨u, ht, -⟩ := eq_trimEnd_append t
  rw [ht, List.head?_append, Option.mem_def.1 h]
  rfl

theorem isTrimmed_trim (t : Text) : IsTrimmed (trim t) where
  head := fun c hc ↦ isBlank_head?_trimStart t c (mem_head?_of_mem_head?_trimEnd hc)
  last := isBlank_getLast?_trimEnd (trimStart t)

theorem IsTrimmed.trim_append {before t after : Text} (h : IsTrimmed t) (hne : t ≠ [])
    (hbefore : before.all isBlank = true) (hafter : after.all isBlank = true) :
    trim (before ++ (t ++ after)) = t := by
  have hhead : ∀ c ∈ (t ++ after).head?, isBlank c = false := by
    obtain ⟨d, t, rfl⟩ := List.exists_cons_of_ne_nil hne
    exact h.head
  rw [trim, trimStart_append hbefore hhead, trimEnd_append_of_blank hafter,
    trimEnd_of_getLast? h.last]

end OnlineAssembler.Text
