import Mathlib.Data.List.Infix
import OnlineAssembler.Proofs.Text.Search

namespace OnlineAssembler.Text

/-- The second text is the first one with texts of `P` put in: any number of them, one behind the
other, in front of each character and at the end. -/
inductive Inserted (P : Text → Prop) : Text → Text → Prop
  | nil : Inserted P [] []
  | char (c : Char) {s t : Text} : Inserted P s t → Inserted P (c :: s) (c :: t)
  | insert {u s t : Text} : P u → Inserted P s t → Inserted P s (u ++ t)

/-- As `Inserted`, but the first character stays in front and the last one at the end. -/
inductive Spread (P : Text → Prop) : Text → Text → Prop
  | between (c e : Char) {s t : Text} :
      Inserted P s t → Spread P (c :: (s ++ [e])) (c :: (t ++ [e]))

section

variable {P Q : Text → Prop} {a b s t u : Text}

theorem Inserted.refl (s : Text) : Inserted P s s := by
  induction s with
  | nil => exact .nil
  | cons c s ih => exact .char c ih

theorem Inserted.eq_of_forall_not (hP : ∀ u, ¬ P u) (h : Inserted P s t) : s = t := by
  induction h with
  | nil => rfl
  | char c h ih => rw [ih]
  | insert hu h ih => exact absurd hu (hP _)

theorem Inserted.mono (hPQ : ∀ u, P u → Q u) (h : Inserted P s t) : Inserted Q s t := by
  induction h with
  | nil => exact .nil
  | char c h ih => exact .char c ih
  | insert hu h ih => exact .insert (hPQ _ hu) ih

theorem Inserted.append (h : Inserted P a u) (h' : Inserted P b t) :
    Inserted P (a ++ b) (u ++ t) := by
  induction h with
  | nil => exact h'
  | char c h ih => exact .char c ih
  | insert hu h ih =>
    rw [List.append_assoc]
    exact .insert hu ih

theorem Inserted.exists_append (h : Inserted P (a ++ b) t) :
    ∃ u v, t = u ++ v ∧ Inserted P a u ∧ Inserted P b v := by
  generalize hs : a ++ b = s at h
  induction h generalizing a with
  | nil =>
    obtain ⟨rfl, rfl⟩ := List.append_eq_nil_iff.1 hs
    exact ⟨[], [], rfl, .nil, .nil⟩
  | @char c s t h ih =>
    cases a with
    | nil =>
      rw [List.nil_append] at hs
      rw [hs]
      exact ⟨[], c :: t, rfl, .nil, .char c h⟩
    | cons d a =>
      obtain ⟨rfl, htail⟩ := List.cons.inj hs
      obtain ⟨u, v, rfl, hu, hv⟩ := ih htail
      exact ⟨d :: u, v, rfl, .char d hu, hv⟩
  | @insert w s t hw h ih =>
    obtain ⟨u, v, rfl, hu, hv⟩ := ih hs
    exact ⟨w ++ u, v, (List.append_assoc w u v).symm, .insert hw hu, hv⟩

theorem Inserted.exists_singleton {c : Char} (h : Inserted P [c] t) :
    ∃ u v, t = u ++ c :: v ∧ Inserted P [] u ∧ Inserted P [] v := by
  generalize hs : [c] = s at h
  induction h with
  | nil => cases hs
  | @char d s t h ih =>
    obtain ⟨rfl, rfl⟩ := List.cons.inj hs
    exact ⟨[], t, rfl, .nil, h⟩
  | @insert w s t hw h ih =>
    obtain ⟨u, v, rfl, hu, hv⟩ := ih hs
    exact ⟨w ++ u, v, (List.append_assoc w u _).symm, .insert hw hu, hv⟩

theorem Spread.mono (hPQ : ∀ u, P u → Q u) (h : Spread P s t) : Spread Q s t := by
  cases h with
  | between c e h => exact .between c e (h.mono hPQ)

theorem Spread.refl (hs : 2 ≤ s.length) : Spread P s s := by
  obtain ⟨c, s, rfl⟩ := List.exists_cons_of_length_pos (Nat.zero_lt_of_lt hs)
  have hne : s ≠ [] := List.ne_nil_of_length_pos (Nat.lt_of_succ_lt_succ hs)
  obtain ⟨m, e, rfl⟩ := (List.eq_nil_or_concat s).resolve_left hne
  rw [List.concat_eq_append]
  exact .between c e (.refl m)

theorem Spread.inserted (h : Spread P s t) : Inserted P s t := by
  cases h with
  | between c e h => exact .char c (h.append (.char e .nil))

/-- What is put in at the two ends can be split off. -/
theorem Inserted.exists_spread (hs : 2 ≤ s.length) (h : Inserted P s t) :
    ∃ u v w, t = u ++ (v ++ w) ∧ Inserted P [] u ∧ Spread P s v ∧ Inserted P [] w := by
  obtain ⟨c, s, rfl⟩ := List.exists_cons_of_length_pos (Nat.zero_lt_of_lt hs)
  have hne : s ≠ [] := List.ne_nil_of_length_pos (Nat.lt_of_succ_lt_succ hs)
  obtain ⟨m, e, rfl⟩ := (List.eq_nil_or_concat s).resolve_left hne
  rw [List.concat_eq_append] at h ⊢
  obtain ⟨x, y, rfl, hx, hy⟩ := h.exists_append (a := [c])
  obtain ⟨p, q, rfl, hp, hq⟩ := hy.exists_append
  obtain ⟨u, v, rfl, hu, hv⟩ := hx.exists_singleton
  obtain ⟨v', w, rfl, hv', hw⟩ := hq.exists_singleton
  have hm : Inserted P m (v ++ (p ++ v')) := by
    have hend := hp.append hv'
    rw [List.append_nil] at hend
    exact hv.append hend
  refine ⟨u, c :: (v ++ (p ++ v') ++ [e]), w, ?_, hu, .between c e hm, hw⟩
  simp

/-- Texts of `P` that are put in around and into copies of `d`. -/
theorem Inserted.comp {d : Text} (hd : 2 ≤ d.length) (hP : ∀ u, P u → Q u)
    (hQ : ∀ u, Spread P d u → Q u) (h : Inserted (· = d) a b) (h' : Inserted P b t) :
    Inserted Q a t := by
  induction h generalizing t with
  | nil => exact h'.mono hP
  | @char c a b h ih =>
    obtain ⟨x, y, rfl, hx, hy⟩ := h'.exists_append (a := [c])
    exact (hx.mono hP).append (ih hy)
  | @insert w a b hw h ih =>
    subst hw
    obtain ⟨x, y, rfl, hx, hy⟩ := h'.exists_append
    obtain ⟨u, v, w, rfl, hu, hv, hw⟩ := hx.exists_spread hd
    have hrest : Inserted Q ([] ++ a) (w ++ y) := (hw.mono hP).append (ih hy)
    have hall : Inserted Q ([] ++ a) (u ++ (v ++ (w ++ y))) :=
      (hu.mono hP).append (.insert (hQ v hv) hrest)
    rw [List.nil_append] at hall
    simpa using hall

theorem Inserted.exists_comp {d : Text} (hQ : ∀ u, Q u → P u ∨ Spread P d u)
    (h : Inserted Q a t) : ∃ b, Inserted (· = d) a b ∧ Inserted P b t := by
  induction h with
  | nil => exact ⟨[], .nil, .nil⟩
  | @char c a t h ih =>
    obtain ⟨b, hb, ht⟩ := ih
    exact ⟨c :: b, .char c hb, .char c ht⟩
  | @insert u a t hu h ih =>
    obtain ⟨b, hb, ht⟩ := ih
    rcases hQ u hu with hu | hu
    · exact ⟨b, hb, .insert hu ht⟩
    · exact ⟨d ++ b, .insert rfl hb, hu.inserted.append ht⟩

end

section

variable {c : Char} {d p s t : Text}

theorem inserted_remove (hp : p ≠ []) (t : Text) : Inserted (· = p) (remove p t) t := by
  induction t using remove_induction hp with
  | nil => exact .nil
  | occurrence t ih =>
    rw [remove_append hp]
    exact .insert rfl ih
  | character c t hc ih =>
    rw [remove_cons hc]
    exact .char c ih

/-- Copies of `c :: d` that are put into a text break up all that stands around them, but not what
ends before the next `c`. -/
theorem Inserted.isPrefix (hp : c ∉ p) (h : Inserted (· = c :: d) s t) (hpt : p <+: t) :
    p <+: s := by
  induction h generalizing p with
  | nil => exact hpt
  | char e h ih =>
    cases p with
    | nil => exact List.nil_prefix
    | cons f p =>
      rw [List.mem_cons, not_or] at hp
      obtain ⟨rfl, htail⟩ := List.cons_prefix_cons.1 hpt
      exact List.cons_prefix_cons.2 ⟨rfl, ih hp.2 htail⟩
  | insert hu h ih =>
    subst hu
    cases p with
    | nil => exact List.nil_prefix
    | cons f p =>
      obtain ⟨rfl, -⟩ := List.cons_prefix_cons.1 hpt
      exact absurd List.mem_cons_self hp

theorem isInfix_of_append {a : Text} (ha : c ∉ a) (h : c :: p <:+: a ++ t) : c :: p <:+: t := by
  induction a with
  | nil => exact h
  | cons e a ih =>
    rw [List.mem_cons, not_or] at ha
    rw [List.cons_append, List.infix_cons_iff] at h
    rcases h with h | h
    · exact absurd (List.cons_prefix_cons.1 h).1 ha.1
    · exact ih ha.2 h

/-- No word comes about by putting in another one, as long as neither is the front of the other. -/
theorem Inserted.not_isInfix (hp : c ∉ p) (hd : c ∉ d) (hpd : ¬ c :: p <+: c :: d)
    (hdp : ¬ c :: d <+: c :: p) (h : Inserted (· = c :: d) s t) (hs : ¬ c :: p <:+: s) :
    ¬ c :: p <:+: t := by
  induction h with
  | nil => exact hs
  | char e h ih =>
    rw [List.infix_cons_iff, not_or] at hs ⊢
    refine ⟨fun hpt ↦ hs.1 ?_, ih hs.2⟩
    obtain ⟨rfl, htail⟩ := List.cons_prefix_cons.1 hpt
    exact List.cons_prefix_cons.2 ⟨rfl, h.isPrefix hp htail⟩
  | @insert u s t hu h ih =>
    subst hu
    intro hpt
    rw [List.cons_append, List.infix_cons_iff, ← List.cons_append] at hpt
    rcases hpt with hpt | hpt
    · rcases List.prefix_or_prefix_of_prefix hpt (List.prefix_append (c :: d) t) with h | h
      · exact hpd h
      · exact hdp h
    · exact ih hs (isInfix_of_append hd hpt)

theorem remove_of_inserted (hd : c ∉ d) (h : Inserted (· = c :: d) s t) (hs : ¬ c :: d <:+: s) :
    remove (c :: d) t = s := by
  induction h with
  | nil => exact remove_nil _
  | char e h ih =>
    rw [List.infix_cons_iff, not_or] at hs
    rw [remove_cons, ih hs.2]
    intro hdt
    obtain ⟨rfl, htail⟩ := List.cons_prefix_cons.1 hdt
    exact hs.1 (List.cons_prefix_cons.2 ⟨rfl, h.isPrefix hd htail⟩)
  | insert hu h ih =>
    subst hu
    rw [remove_append (List.cons_ne_nil c d), ih hs]

end

end OnlineAssembler.Text
