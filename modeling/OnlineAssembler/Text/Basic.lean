namespace OnlineAssembler

abbrev Text := List Char

namespace Text

/-- The characters that count as white space: the Unicode property, and the four separators
U+001C to U+001F. Closed ranges of code points, ascending and apart. -/
def blankRanges : List (Nat × Nat) :=
  [(0x09, 0x0D), (0x1C, 0x20), (0x85, 0x85), (0xA0, 0xA0), (0x1680, 0x1680), (0x2000, 0x200A),
   (0x2028, 0x2029), (0x202F, 0x202F), (0x205F, 0x205F), (0x3000, 0x3000)]

def isBlank (c : Char) : Bool :=
  blankRanges.any fun r ↦ r.1 ≤ c.toNat && c.toNat ≤ r.2

def trimStart (t : Text) : Text := t.dropWhile isBlank

def trimEnd : Text → Text
  | [] => []
  | c :: t =>
    match trimEnd t with
    | [] => if isBlank c then [] else [c]
    | d :: u => c :: d :: u

def trim (t : Text) : Text := trimEnd (trimStart t)

theorem trimEnd_append_of_blank {t u : Text} (hu : u.all isBlank = true) :
    trimEnd (t ++ u) = trimEnd t := by
  induction t with
  | nil =>
    induction u with
    | nil => rfl
    | cons c u ih =>
      rw [List.all_cons, Bool.and_eq_true] at hu
      simp [trimEnd, show trimEnd u = [] from ih hu.2, hu.1]
  | cons c t ih => simp only [List.cons_append, trimEnd, ih]

/-- Trimming the end takes a blank suffix away and leaves a text that is empty or ends in a
character that is not blank. -/
theorem eq_trimEnd_append (t : Text) : ∃ u, t = trimEnd t ++ u ∧ u.all isBlank = true := by
  induction t with
  | nil => exact ⟨[], rfl, rfl⟩
  | cons c t ih =>
    obtain ⟨u, ht, hu⟩ := ih
    cases he : trimEnd t with
    | nil =>
      have htu : t = u := by simpa [he] using ht
      cases hc : isBlank c with
      | true => exact ⟨c :: t, by simp [trimEnd, he, hc], by simp [hc, htu, hu]⟩
      | false => exact ⟨t, by simp [trimEnd, he, hc], by rw [htu]; exact hu⟩
    | cons d v =>
      have hc : trimEnd (c :: t) = c :: d :: v := by simp [trimEnd, he]
      rw [he] at ht
      exact ⟨u, by simpa [hc] using ht, hu⟩

def lines : Text → List Text
  | [] => [[]]
  | c :: t =>
    if c = '\n' then [] :: lines t
    else match lines t with
      | [] => [[c]]
      | l :: ls => (c :: l) :: ls

def unlines (ls : List Text) : Text := List.intercalate ['\n'] ls

def normalizeLineEnds : Text → Text
  | '\r' :: '\n' :: t => '\n' :: normalizeLineEnds t
  | '\r' :: t => '\n' :: normalizeLineEnds t
  | c :: t => c :: normalizeLineEnds t
  | [] => []

def after? (p : Text) : Text → Option Text
  | [] => if p = [] then some [] else none
  | c :: t => match p.isPrefixOf? (c :: t) with
    | some rest => some rest
    | none => after? p t

def occursIn (p t : Text) : Bool := (after? p t).isSome

/-- Deletes, from left to right, every stretch that `width` finds: `width t` is the length of the
stretch at the front of `t`, and zero where there is none. -/
def delete (width : Text → Nat) (t : Text) : Text := go 0 t
where
  go : Nat → Text → Text
    | _, [] => []
    | skip + 1, _ :: t => go skip t
    | 0, c :: t => match width (c :: t) with
      | 0 => c :: go 0 t
      | n + 1 => go n t

section
variable {width : Text → Nat}

@[simp] theorem delete_nil : delete width [] = [] := rfl

theorem delete_cons_of_width_eq_zero {c : Char} {t : Text} (h : width (c :: t) = 0) :
    delete width (c :: t) = c :: delete width t := by
  simp [delete, delete.go, h]

theorem delete_go_length (u t : Text) : delete.go width u.length (u ++ t) = delete width t := by
  induction u with
  | nil => rfl
  | cons c u ih => exact ih

theorem delete_append_of_width_eq_length {u t : Text} (hu : u ≠ [])
    (h : width (u ++ t) = u.length) : delete width (u ++ t) = delete width t := by
  cases u with
  | nil => exact absurd rfl hu
  | cons c u =>
    have hw : width (c :: (u ++ t)) = u.length + 1 := h
    simp only [List.cons_append, delete, delete.go, hw]
    exact delete_go_length u t

end

def remove (p : Text) : Text → Text :=
  delete fun t ↦ if p.isPrefixOf t then p.length else 0

theorem remove_append {p : Text} (hp : p ≠ []) (t : Text) : remove p (p ++ t) = remove p t := by
  refine delete_append_of_width_eq_length hp ?_
  rw [if_pos (by simp)]

theorem remove_cons {p : Text} {c : Char} {t : Text} (h : ¬ p <+: c :: t) :
    remove p (c :: t) = c :: remove p t := by
  refine delete_cons_of_width_eq_zero ?_
  rw [if_neg (by simpa using h)]

/-- A set of characters given by the code points at which its stretches and the gaps between them
begin, in turn. -/
def isWithin (bounds : List Nat) (c : Char) : Bool :=
  bounds.countP (fun bound ↦ bound ≤ c.toNat) % 2 = 1

end Text

end OnlineAssembler
