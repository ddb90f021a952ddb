import Mathlib.Data.List.Infix
import OnlineAssembler.Text.Basic

namespace OnlineAssembler.Text

/-- A pattern at the front of a text either ends before a given character or covers it. -/
theorem isPrefix_or_covers {p a b : Text} {c : Char} (h : p <+: a ++ c :: b) :
    p <+: a ∨ a ++ [c] <+: p := by
  have hc : a ++ [c] <+: a ++ c :: b := ⟨b, by simp⟩
  rcases List.prefix_or_prefix_of_prefix h hc with h | h
  · rcases List.prefix_concat_iff.1 h with rfl | h
    · exact .inr List.prefix_rfl
    · exact .inl h
  · exact .inr h

/-- No occurrence of a pattern reaches across a character that the pattern lacks. -/
theorem isInfix_append_cons {p a b : Text} {c : Char} (hc : c ∉ p) (h : p <:+: a ++ c :: b) :
    p <:+: a ∨ p <:+: b := by
  induction a with
  | nil =>
    rw [List.nil_append, List.infix_cons_iff] at h
    rcases h with h | h
    · rcases isPrefix_or_covers (a := []) h with h | h
      · exact .inl h.isInfix
      · exact absurd (h.subset (by simp)) hc
    · exact .inr h
  | cons d a ih =>
    rw [List.cons_append, List.infix_cons_iff] at h
    rcases h with h | h
    · rcases isPrefix_or_covers (a := d :: a) h with h | h
      · exact .inl h.isInfix
      · exact absurd (h.subset (by simp)) hc
    · exact (ih h).imp (fun h ↦ h.trans (List.suffix_cons d a).isInfix) id

/-- A stretch that lacks a character, and of which something lies before it, ends before it. -/
theorem exists_eq_append_cons {before u rest a b : Text} {c : Char}
    (h : before ++ (u ++ rest) = a ++ c :: b) (hc : c ∉ u) (hu : ∃ d ∈ u, d ∉ c :: b) :
    ∃ a', rest = a' ++ c :: b := by
  rw [← List.append_assoc] at h
  rcases List.append_eq_append_iff.1 h with ⟨a', -, hrest⟩ | ⟨taken, htaken, hrest⟩
  · exact ⟨a', hrest⟩
  · cases taken with
    | nil => exact ⟨[], hrest.symm⟩
    | cons e taken =>
      obtain ⟨rfl, -⟩ := List.cons.inj hrest
      rcases List.append_eq_append_iff.1 htaken with ⟨front, -, hfront⟩ | ⟨front, -, hfront⟩
      · have hmem : c ∈ u := by
          rw [hfront]
          exact List.mem_append_right front List.mem_cons_self
        exact absurd hmem hc
      · obtain ⟨d, hd, hdb⟩ := hu
        have hmem : d ∈ c :: taken ++ rest := by
          rw [hfront]
          exact List.mem_append_left rest (List.mem_append_right front hd)
        rw [← hrest] at hmem
        exact absurd hmem hdb

theorem isSuffix_of_isInfix_concat {p t : Text} {c : Char} (hc : c ∉ t)
    (h : p ++ [c] <:+: t ++ [c]) : p <:+ t := by
  obtain ⟨a, b, hab⟩ := h
  rcases List.eq_nil_or_concat b with rfl | ⟨b, d, rfl⟩
  · rw [List.append_nil, ← List.append_assoc] at hab
    exact ⟨a, List.append_cancel_right hab⟩
  · rw [List.concat_eq_append, ← List.append_assoc] at hab
    have ht := (List.append_inj' hab rfl).1
    have hmem : c ∈ t := by simp [← ht]
    exact absurd hmem hc

theorem occursIn_iff {p t : Text} : occursIn p t = true ↔ p <:+: t := by
  unfold occursIn
  induction t with
  | nil => simp [after?]
  | cons c t ih =>
    rw [after?, List.infix_cons_iff, ← ih]
    cases hp : p.isPrefixOf? (c :: t) with
    | none =>
      have hn : ¬ p <+: c :: t := by
        rintro ⟨rest, hr⟩
        rw [List.isPrefixOf?_eq_some_iff_append_eq.2 hr] at hp
        cases hp
      simp [hn]
    | some rest =>
      have hr : p <+: c :: t := ⟨rest, List.isPrefixOf?_eq_some_iff_append_eq.1 hp⟩
      simp [hr]

/-- A pattern whose first character does not come again cannot overlap itself, so the search goes
to the end of its first whole occurrence. -/
theorem after?_append {p a : Text} {c : Char} (hc : c ∉ p) (ha : ¬ c :: p <:+: a) (b : Text) :
    after? (c :: p) (a ++ (c :: p ++ b)) = some b := by
  induction a with
  | nil =>
    have hb : (c :: p).isPrefixOf? (c :: (p ++ b)) = some b :=
      List.isPrefixOf?_eq_some_iff_append_eq.2 rfl
    simp [after?, hb]
  | cons d a ih =>
    rw [List.infix_cons_iff, not_or] at ha
    have hp : (c :: p).isPrefixOf? (d :: (a ++ c :: (p ++ b))) = none := by
      refine Option.eq_none_iff_forall_ne_some.2 fun rest hr ↦ ?_
      have hr := List.isPrefixOf?_eq_some_iff_append_eq.1 hr
      rcases isPrefix_or_covers (a := d :: a) ⟨rest, hr⟩ with h | h
      · exact ha.1 h
      · obtain ⟨-, h⟩ := List.cons_prefix_cons.1 h
        exact hc (h.subset (by simp))
    simpa [after?, hp] using ih ha.2

theorem exists_of_after? {p t rest : Text} (h : after? p t = some rest) :
    ∃ head, t = head ++ (p ++ rest) := by
  induction t with
  | nil =>
    rw [after?] at h
    split at h
    · rename_i hp
      obtain rfl := Option.some.inj h
      exact ⟨[], by rw [hp]; rfl⟩
    · cases h
  | cons c t ih =>
    rw [after?] at h
    split at h
    · rename_i own hown
      obtain rfl := Option.some.inj h
      exact ⟨[], (List.isPrefixOf?_eq_some_iff_append_eq.1 hown).symm⟩
    · obtain ⟨head, rfl⟩ := ih h
      exact ⟨c :: head, rfl⟩

/-- The search stops at the first occurrence, so that no other one leaves more of the text. -/
theorem length_le_of_after? {p a b rest : Text} (h : after? p (a ++ (p ++ b)) = some rest) :
    b.length ≤ rest.length := by
  induction a with
  | nil =>
    have hp : p.isPrefixOf? (p ++ b) = some b := List.isPrefixOf?_eq_some_iff_append_eq.2 rfl
    rw [List.nil_append] at h
    cases hpb : p ++ b with
    | nil =>
      rw [(List.append_eq_nil_iff.1 hpb).2]
      exact Nat.zero_le _
    | cons c t =>
      rw [hpb] at h hp
      rw [after?, hp] at h
      rw [Option.some.inj h]
  | cons c a ih =>
    rw [List.cons_append, after?] at h
    split at h
    · rename_i own hown
      obtain rfl := Option.some.inj h
      have hlength := congrArg List.length (List.isPrefixOf?_eq_some_iff_append_eq.1 hown)
      simp only [List.length_append, List.length_cons] at hlength
      omega
    · exact ih h

/-- Removal goes through a text by occurrences of the pattern and by single characters that start
none. -/
@[elab_as_elim]
theorem remove_induction {p : Text} (hp : p ≠ []) {motive : Text → Prop} (nil : motive [])
    (occurrence : ∀ t, motive t → motive (p ++ t))
    (character : ∀ c t, ¬ p <+: c :: t → motive t → motive (c :: t)) (t : Text) : motive t := by
  induction hn : t.length using Nat.strong_induction_on generalizing t with
  | _ n ih =>
    subst hn
    cases t with
    | nil => exact nil
    | cons c t =>
      by_cases h : p <+: c :: t
      · obtain ⟨u, hu⟩ := h
        have hlen := congrArg List.length hu
        have hpos := List.length_pos_of_ne_nil hp
        rw [List.length_append] at hlen
        rw [← hu]
        exact occurrence u (ih u.length (by omega) u rfl)
      · exact character c t h (ih t.length (by simp) t rfl)

theorem delete_go_sublist (width : Text → Nat) (skip : Nat) (t : Text) :
    (delete.go width skip t).Sublist t := by
  induction t generalizing skip with
  | nil => simp [delete.go]
  | cons c t ih =>
    cases skip with
    | succ skip => exact (ih skip).cons c
    | zero =>
      rw [delete.go]
      split
      · exact (ih 0).cons_cons c
      · exact (ih _).cons c

/-- A line without the start of a stretch is left as it is. -/
theorem delete_line {width : Text → Nat} {l t : Text}
    (h : ∀ v, v <:+ l → width (v ++ '\n' :: t) = 0) :
    delete width (l ++ '\n' :: t) = l ++ '\n' :: delete width t := by
  induction l with
  | nil => exact delete_cons_of_width_eq_zero (h [] List.suffix_rfl)
  | cons c l ih =>
    have hfront : width (c :: (l ++ '\n' :: t)) = 0 := h (c :: l) List.suffix_rfl
    have ih := ih fun v hv ↦ h v (hv.trans (List.suffix_cons c l))
    rw [List.cons_append, delete_cons_of_width_eq_zero hfront, ih, List.cons_append]

theorem remove_sublist (p t : Text) : (remove p t).Sublist t := delete_go_sublist _ 0 t

@[simp] theorem remove_nil (p : Text) : remove p [] = [] := delete_nil

theorem remove_eq_self {p t : Text} (h : ¬ p <:+: t) : remove p t = t := by
  induction t with
  | nil => exact remove_nil p
  | cons c t ih =>
    rw [List.infix_cons_iff, not_or] at h
    rw [remove_cons h.1, ih h.2]

theorem remove_append_of_not_mem {c : Char} {a : Text} (ha : c ∉ a) (p t : Text) :
    remove (c :: p) (a ++ t) = a ++ remove (c :: p) t := by
  induction a with
  | nil => rfl
  | cons d a ih =>
    rw [List.mem_cons, not_or] at ha
    have hd : ¬ c :: p <+: d :: (a ++ t) := fun h ↦ ha.1 (List.cons_prefix_cons.1 h).1
    rw [List.cons_append, remove_cons hd, ih ha.2, List.cons_append]

theorem remove_append_cons {p : Text} {c : Char} (hp : p ≠ []) (hc : c ∉ p) (a b : Text) :
    remove p (a ++ c :: b) = remove p a ++ c :: remove p b := by
  have across {x : Text} (h : p <+: x ++ c :: b) : p <+: x := by
    rcases isPrefix_or_covers h with h | h
    · exact h
    · exact absurd (h.subset (by simp)) hc
  induction a using remove_induction hp with
  | nil =>
    have h : ¬ p <+: c :: b := fun h ↦ hp (List.prefix_nil.1 (across (x := []) h))
    simp [remove_cons h]
  | occurrence t ih => rw [List.append_assoc, remove_append hp, remove_append hp, ih]
  | character d t hd ih =>
    have h : ¬ p <+: d :: (t ++ c :: b) := fun h ↦ hd (across (x := d :: t) h)
    rw [List.cons_append, remove_cons h, remove_cons hd, ih, List.cons_append]

def removeEach (ps : List Text) (t : Text) : Text := ps.foldl (fun t p ↦ remove p t) t

@[simp] theorem removeEach_cons (p : Text) (ps : List Text) (t : Text) :
    removeEach (p :: ps) t = removeEach ps (remove p t) := rfl

theorem removeEach_sublist (ps : List Text) (t : Text) : (removeEach ps t).Sublist t := by
  induction ps generalizing t with
  | nil => exact List.Sublist.refl t
  | cons p ps ih => exact (ih (remove p t)).trans (remove_sublist p t)

theorem removeEach_eq_self {ps : List Text} {t : Text} (h : ∀ p ∈ ps, ¬ p <:+: t) :
    removeEach ps t = t := by
  induction ps with
  | nil => rfl
  | cons p ps ih =>
    rw [removeEach_cons, remove_eq_self (h p List.mem_cons_self)]
    exact ih fun q hq ↦ h q (List.mem_cons_of_mem p hq)

theorem removeEach_append_cons {ps : List Text} {c : Char} (hne : ∀ p ∈ ps, p ≠ [])
    (hc : ∀ p ∈ ps, c ∉ p) (a b : Text) :
    removeEach ps (a ++ c :: b) = removeEach ps a ++ c :: removeEach ps b := by
  induction ps generalizing a b with
  | nil => rfl
  | cons p ps ih =>
    rw [removeEach_cons, remove_append_cons (hne p List.mem_cons_self) (hc p List.mem_cons_self)]
    exact ih (fun q hq ↦ hne q (List.mem_cons_of_mem p hq))
      (fun q hq ↦ hc q (List.mem_cons_of_mem p hq)) _ _

end OnlineAssembler.Text
