import Mathlib.Data.List.Basic
import OnlineAssembler.Text.Basic

namespace OnlineAssembler.Text

/-- A pattern for the front of a text: what it may leave of the text, in the order in which a search
with backtracking tries. -/
abbrev Pattern := Text → List Text

namespace Pattern

def one (p : Char → Bool) : Pattern
  | c :: t => if p c then [t] else []
  | [] => []

def ending : Pattern := fun t ↦ if t = [] ∨ t = ['\n'] then [t] else []

def inTurn : List Pattern → Pattern
  | [] => fun t ↦ [t]
  | a :: as => fun t ↦ (a t).flatMap (inTurn as)

def orElse (a b : Pattern) : Pattern := fun t ↦ a t ++ b t

/-- As often as possible, but at least once. A turn that takes nothing is the last one. -/
def many (a : Pattern) (t : Text) : List Text :=
  (a t).flatMap fun u ↦ if u.length < t.length then many a u ++ [u] else [u]
termination_by t.length

def optional (a : Pattern) : Pattern := fun t ↦ a t ++ [t]

def notAhead (a : Pattern) : Pattern := fun t ↦ if a t = [] then [t] else []

def taken (t rest : Text) : Text := t.take (t.length - rest.length)

def find? (a : Pattern) : Text → Option Text
  | [] => (a []).head?.map (taken [])
  | c :: t => match a (c :: t) with
    | rest :: _ => some (taken (c :: t) rest)
    | [] => find? a t

section

variable {p : Char → Bool} {a b : Pattern} {t v : Text}

@[simp] theorem taken_append (u rest : Text) : taken (u ++ rest) rest = u := by
  simp [taken]

theorem find?_eq_none_iff : find? a t = none ↔ ∀ i, a (t.drop i) = [] := by
  induction t with
  | nil => simp [find?]
  | cons c t ih =>
    rw [find?]
    cases hfirst : a (c :: t) with
    | nil =>
      rw [ih]
      constructor
      · intro h i
        cases i with
        | zero => exact hfirst
        | succ i => exact h i
      · intro h i
        exact h (i + 1)
    | cons rest l =>
      constructor
      · intro h
        cases h
      · intro h
        have hnil : a (c :: t) = [] := h 0
        rw [hfirst] at hnil
        cases hnil

theorem one_cons_of_neg {c : Char} (hc : p c = false) (t : Text) : one p (c :: t) = [] := by
  simp [one, hc]

theorem mem_one_iff : v ∈ one p t ↔ ∃ c, p c = true ∧ t = c :: v := by
  constructor
  · intro h
    cases t with
    | nil => cases h
    | cons c t =>
      cases hc : p c with
      | false => simp [one, hc] at h
      | true =>
        obtain rfl : v = t := by simpa [one, hc] using h
        exact ⟨c, hc, rfl⟩
  · rintro ⟨c, hc, rfl⟩
    simp [one, hc]

theorem mem_inTurn_cons_iff {as : List Pattern} :
    v ∈ inTurn (a :: as) t ↔ ∃ u ∈ a t, v ∈ inTurn as u := List.mem_flatMap

theorem mem_inTurn_nil_iff : v ∈ inTurn [] t ↔ v = t := List.mem_singleton

theorem inTurn_singleton (a : Pattern) (t : Text) : inTurn [a] t = a t :=
  List.flatMap_singleton' (a t)

theorem inTurn_notAhead (a b : Pattern) (t : Text) :
    inTurn [a, notAhead b] t = (a t).filter fun u ↦ b u = [] := by
  have hstep : ∀ us : List Text,
      us.flatMap (inTurn [notAhead b]) = us.filter fun u ↦ b u = [] := by
    intro us
    induction us with
    | nil => rfl
    | cons u us ih =>
      rw [List.flatMap_cons, ih, inTurn_singleton, notAhead, List.filter_cons]
      by_cases hu : b u = []
      · simp [hu]
      · simp [hu]
  exact hstep (a t)

theorem mem_ending_iff : v ∈ ending t ↔ (t = [] ∨ t = ['\n']) ∧ v = t := by
  unfold ending
  split_ifs with h
  · simp [h]
  · simp [h]

theorem many_eq_nil (h : a t = []) : many a t = [] := by
  rw [many, h, List.flatMap_nil]

/-- Where each turn takes something, the repetition goes on behind each of the places that the first
turn leads to. -/
theorem many_eq_flatMap (h : ∀ u ∈ a t, u.length < t.length) :
    many a t = (a t).flatMap fun u ↦ many a u ++ [u] := by
  rw [many]
  refine List.flatMap_congr fun u hu ↦ ?_
  rw [if_pos (h u hu)]

/-- What holds of each turn, and of two stretches one behind the other if of both, holds of a
repetition. -/
theorem many_induction {motive : Text → Text → Prop} (turn : ∀ t, ∀ v ∈ a t, motive t v)
    (trans : ∀ t u v, motive t u → motive u v → motive t v) (h : v ∈ many a t) : motive t v := by
  -- There are more turns only where the first one takes something, so the length goes down.
  induction hn : t.length using Nat.strongRecOn generalizing t with
  | _ n ih =>
    subst hn
    rw [many, List.mem_flatMap] at h
    obtain ⟨u, hu, hv⟩ := h
    have hfirst := turn t u hu
    split_ifs at hv with hlt
    · rcases List.mem_append.1 hv with hv | hv
      · exact trans t u v hfirst (ih u.length hlt hv rfl)
      · obtain rfl := List.mem_singleton.1 hv
        exact hfirst
    · obtain rfl := List.mem_singleton.1 hv
      exact hfirst

theorem many_one_nil : many (one p) [] = [] := many_eq_nil rfl

theorem many_one_cons (c : Char) (t : Text) :
    many (one p) (c :: t) = if p c then many (one p) t ++ [t] else [] := by
  cases hc : p c with
  | true =>
    have hone : one p (c :: t) = [t] := by simp [one, hc]
    rw [many_eq_flatMap (by simp [hone]), hone, List.flatMap_singleton, if_pos rfl]
  | false => exact many_eq_nil (one_cons_of_neg hc t)

theorem mem_many_one_iff :
    v ∈ many (one p) t ↔ ∃ u, u ≠ [] ∧ u.all p = true ∧ t = u ++ v := by
  induction t with
  | nil =>
    rw [many_one_nil]
    refine ⟨nofun, ?_⟩
    rintro ⟨u, hu, -, heq⟩
    exact absurd (List.append_eq_nil_iff.1 heq.symm).1 hu
  | cons c t ih =>
    rw [many_one_cons]
    constructor
    · intro h
      cases hc : p c with
      | false => simp [hc] at h
      | true =>
        rw [hc, if_pos rfl, List.mem_append, List.mem_singleton, ih] at h
        rcases h with ⟨u, -, hall, rfl⟩ | rfl
        · exact ⟨c :: u, List.cons_ne_nil c u, by simp [hc, hall], rfl⟩
        · exact ⟨[c], List.cons_ne_nil c [], by simp [hc], rfl⟩
    · rintro ⟨u, hne, hall, heq⟩
      cases u with
      | nil => exact absurd rfl hne
      | cons d u =>
        obtain ⟨rfl, rfl⟩ := List.cons.inj heq
        rw [List.all_cons, Bool.and_eq_true] at hall
        rw [hall.1, if_pos rfl, List.mem_append, List.mem_singleton, ih]
        cases u with
        | nil => exact .inr rfl
        | cons e u => exact .inl ⟨e :: u, List.cons_ne_nil e u, hall.2, rfl⟩

theorem mem_optional_many_one_iff :
    v ∈ optional (many (one p)) t ↔ ∃ u, u.all p = true ∧ t = u ++ v := by
  unfold optional
  rw [List.mem_append, List.mem_singleton, mem_many_one_iff]
  constructor
  · rintro (⟨u, -, hall, heq⟩ | rfl)
    · exact ⟨u, hall, heq⟩
    · exact ⟨[], rfl, rfl⟩
  · rintro ⟨u, hall, heq⟩
    cases u with
    | nil => exact .inr heq.symm
    | cons c u => exact .inl ⟨c :: u, List.cons_ne_nil c u, hall, heq⟩

/-- The first choice of a repetition is to take all that it can. -/
theorem many_one_append {u : Text} (hne : u ≠ []) (hall : u.all p = true)
    (ht : ∀ c ∈ t.head?, p c = false) :
    ∃ l, many (one p) (u ++ t) = t :: l ∧ ∀ v ∈ l, ∃ c w, v = c :: w ∧ p c = true := by
  induction u with
  | nil => exact absurd rfl hne
  | cons c u ih =>
    rw [List.all_cons, Bool.and_eq_true] at hall
    rw [List.cons_append, many_one_cons, hall.1, if_pos rfl]
    cases u with
    | nil =>
      refine ⟨[], ?_, nofun⟩
      cases t with
      | nil => rw [List.nil_append, many_one_nil, List.nil_append]
      | cons d t =>
        have hd : p d = false := ht d rfl
        rw [List.nil_append, many_one_cons, hd, if_neg Bool.false_ne_true, List.nil_append]
    | cons d u =>
      obtain ⟨l, hl, hblank⟩ := ih (List.cons_ne_nil d u) hall.2
      refine ⟨l ++ [d :: u ++ t], by rw [hl, List.cons_append], ?_⟩
      intro v hv
      rcases List.mem_append.1 hv with hv | hv
      · exact hblank v hv
      · obtain rfl := List.mem_singleton.1 hv
        rw [List.all_cons, Bool.and_eq_true] at hall
        exact ⟨d, u ++ t, rfl, hall.2.1⟩

end

end Pattern

end OnlineAssembler.Text
