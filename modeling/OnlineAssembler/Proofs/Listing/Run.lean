import Mathlib.Data.List.Infix
import OnlineAssembler.Listing

namespace OnlineAssembler.Text

theorem toNat_of_isHexDigit {c : Char} (h : isHexDigit c = true) :
    (48 ≤ c.toNat ∧ c.toNat ≤ 57) ∨ (65 ≤ c.toNat ∧ c.toNat ≤ 70) ∨
      (97 ≤ c.toNat ∧ c.toNat ≤ 102) := by
  unfold isHexDigit hexValue? at h
  split_ifs at h with h₁ h₂ h₃
  · exact .inl h₁
  · exact .inr (.inl h₂)
  · exact .inr (.inr h₃)
  · cases h

theorem isBlank_of_isHexDigit {c : Char} (h : isHexDigit c = true) : isBlank c = false := by
  have hc := toNat_of_isHexDigit h
  simp only [isBlank, blankRanges, List.any_cons, List.any_nil, Bool.or_false, Bool.or_eq_false_iff,
    Bool.and_eq_false_iff, decide_eq_false_iff_not]
  omega

theorem isHexDigit_of_isBlank {c : Char} (h : isBlank c = true) : isHexDigit c = false := by
  by_contra hc
  rw [isBlank_of_isHexDigit (Bool.not_eq_false _ ▸ hc)] at h
  cases h

theorem isSome_byteOfDigits? (high low : Char) :
    (byteOfDigits? high low).isSome = (isHexDigit high && isHexDigit low) := by
  unfold byteOfDigits? isHexDigit
  cases hexValue? high <;> cases hexValue? low <;> rfl

theorem isHexDigit_of_byteOfDigits? {high low : Char} {b : UInt8}
    (h : byteOfDigits? high low = some b) : isHexDigit high = true ∧ isHexDigit low = true := by
  have hs := isSome_byteOfDigits? high low
  rw [h, Option.isSome_some] at hs
  exact Bool.and_eq_true_iff.1 hs.symm

theorem byteOfDigits?_eq_none {high low : Char}
    (h : isHexDigit high = false ∨ isHexDigit low = false) :
    byteOfDigits? high low = none := by
  rw [← Option.not_isSome_iff_eq_none, isSome_byteOfDigits?]
  rcases h with h | h <;> simp [h]

end OnlineAssembler.Text

namespace OnlineAssembler.Listing.Line

open Text

def startsWithByte : Text → Bool
  | high :: low :: t => isHexDigit high && isHexDigit low && t.head?.all isBlank
  | _ => false

def HasStrayColon (t : Text) : Prop := ∃ a c b, t = a ++ c :: ':' :: b ∧ c ≠ 's'

theorem startsWithByte_cons {c : Char} (hc : isHexDigit c = false) (t : Text) :
    startsWithByte (c :: t) = false := by
  cases t <;> simp [startsWithByte, hc]

theorem colonAhead_cons {c : Char} {t : Text} (hc : c ≠ '\n') (h : colonAhead t = true) :
    colonAhead (c :: t) = true := by
  cases t with
  | nil => cases h
  | cons d t => simp [colonAhead, hc, h]

theorem colonAhead_append {a t : Text} (ha : '\n' ∉ a) (h : colonAhead t = true) :
    colonAhead (a ++ t) = true := by
  induction a with
  | nil => exact h
  | cons c a ih =>
    rw [List.mem_cons, not_or] at ha
    exact colonAhead_cons (Ne.symm ha.1) (ih ha.2)

theorem exists_of_colonAhead {t : Text} (h : colonAhead t = true) :
    ∃ a c b, t = a ++ c :: ':' :: b ∧ c ≠ 's' ∧ '\n' ∉ a := by
  induction t with
  | nil => cases h
  | cons c t ih =>
    cases t with
    | nil => cases h
    | cons d t =>
      simp only [colonAhead, Bool.or_eq_true, Bool.and_eq_true, decide_eq_true_eq] at h
      rcases h with ⟨hc, rfl⟩ | ⟨hc, h⟩
      · exact ⟨[], c, t, rfl, hc, List.not_mem_nil⟩
      · obtain ⟨a, e, b, hab, he, ha⟩ := ih h
        refine ⟨c :: a, e, b, by rw [hab, List.cons_append], he, ?_⟩
        rw [List.mem_cons, not_or]
        exact ⟨Ne.symm hc, ha⟩

theorem colonAhead_iff {t : Text} (ht : '\n' ∉ t) : colonAhead t = true ↔ HasStrayColon t := by
  constructor
  · intro h
    obtain ⟨a, c, b, hab, hc, -⟩ := exists_of_colonAhead h
    exact ⟨a, c, b, hab, hc⟩
  · rintro ⟨a, c, b, rfl, hc⟩
    have ha : '\n' ∉ a := fun h ↦ ht (List.mem_append_left _ h)
    exact colonAhead_append ha (by simp [colonAhead, hc])

theorem stopsBefore_of_blank {t : Text} (h : t.all isBlank = true) : stopsBefore t = true := by
  induction t with
  | nil => rfl
  | cons c t ih =>
    rw [List.all_cons, Bool.and_eq_true] at h
    simp [stopsBefore, h.1, ih h.2]

theorem stopsBefore_append {gap t : Text} (hne : gap ≠ []) (hgap : gap.all isBlank = true)
    (ht : colonAhead t = false) : stopsBefore (gap ++ t) = true := by
  induction gap with
  | nil => exact absurd rfl hne
  | cons c gap ih =>
    rw [List.all_cons, Bool.and_eq_true] at hgap
    rw [List.cons_append, stopsBefore, hgap.1]
    cases gap with
    | nil => simp [ht]
    | cons d gap => rw [ih (by simp) hgap.2, Bool.or_true, Bool.and_true]

/-- With a colon ahead of all of its white space and of what follows, a run cannot stop. -/
theorem stopsBefore_eq_false {a t : Text} (ha : '\n' ∉ a) (ht : colonAhead t = true)
    (hb : ∀ c ∈ t.head?, isBlank c = false) : stopsBefore (a ++ t) = false := by
  induction a with
  | nil =>
    cases t with
    | nil => cases ht
    | cons c t => simp [stopsBefore, hb c rfl]
  | cons c a ih =>
    rw [List.mem_cons, not_or] at ha
    simp [stopsBefore, colonAhead_append ha.2 ht, ih ha.2]

theorem go_append_blank {gap : Text} (h : gap.all isBlank = true) (t : Text) :
    run?.go true (gap ++ t) = run?.go true t := by
  induction gap with
  | nil => rfl
  | cons c gap ih =>
    rw [List.all_cons, Bool.and_eq_true] at h
    rw [List.cons_append, run?.go.eq_def]
    simpa [h.1] using ih h.2

theorem go_byte {behind : Bool} {high low : Char} {b : UInt8} {t : Text}
    (hb : byteOfDigits? high low = some b) (ht : t.head?.all isBlank = true) :
    run?.go behind (high :: low :: t) =
      ((run?.go true t).map (b :: ·)).or (if stopsBefore t then some [b] else none) := by
  have hhigh := isBlank_of_isHexDigit (isHexDigit_of_byteOfDigits? hb).1
  have hguard : (if t.head?.any isBlank then run?.go true t else none) = run?.go true t := by
    cases t with
    | nil => rfl
    | cons c t => rw [List.head?_cons, Option.any_some, if_pos (by simpa using ht)]
  rw [run?.go.eq_def]
  simp only [hhigh, Bool.and_false, Bool.false_eq_true, if_false, hb, hguard]
  cases run?.go true t <;> rfl

/-- No run starts at a character if none starts behind it, where it is skipped as white space, and
if it can neither go on nor stop behind a digit pair. -/
theorem go_cons_eq_none {behind : Bool} {c : Char} {t : Text}
    (hskip : behind = true → isBlank c = true → run?.go true t = none)
    (hpair : ∀ d u, t = d :: u → (byteOfDigits? c d).isSome →
      (u.head?.any isBlank = true → run?.go true u = none) ∧ stopsBefore u = false) :
    run?.go behind (c :: t) = none := by
  rw [run?.go.eq_def]
  simp only [Bool.and_eq_true]
  split_ifs with h
  · exact hskip h.1 h.2
  · cases t with
    | nil => rfl
    | cons d u =>
      cases hb : byteOfDigits? c d with
      | none => simp only [hb]
      | some b =>
        obtain ⟨hgo, hstop⟩ := hpair d u rfl (by rw [hb, Option.isSome_some])
        have hguard : (if u.head?.any isBlank then run?.go true u else none) = none := by
          split_ifs with hu
          · exact hgo hu
          · rfl
        simp only [hb, hguard, hstop, Bool.false_eq_true, if_false]

theorem go_eq_none {behind : Bool} {t : Text} (ht : startsWithByte t = false)
    (hb : behind = true → ∀ c ∈ t.head?, isBlank c = false) : run?.go behind t = none := by
  cases t with
  | nil => rfl
  | cons c t =>
    refine go_cons_eq_none (fun h hc ↦ ?_) ?_
    · rw [hb h c rfl] at hc
      cases hc
    · rintro d u rfl hs
      rw [isSome_byteOfDigits?] at hs
      cases u with
      | nil => simp [startsWithByte, hs] at ht
      | cons e u =>
        have he : isBlank e = false := by simpa [startsWithByte, hs] using ht
        exact ⟨fun h ↦ by simp [he] at h, by simp [stopsBefore, he]⟩

/-- Where a colon is ahead behind it, no text that cannot reach over into `t` starts a run. -/
theorem go_append_eq_none {a t : Text} (ha : '\n' ∉ a)
    (hlast : ∀ c ∈ a.getLast?, ∀ d ∈ t.head?, byteOfDigits? c d = none)
    (hstart : startsWithByte t = false) (hb : ∀ c ∈ t.head?, isBlank c = false)
    (ht : colonAhead t = true) (behind : Bool) : run?.go behind (a ++ t) = none := by
  induction a using List.twoStepInduction generalizing behind with
  | nil => exact go_eq_none hstart fun _ ↦ hb
  | singleton c =>
    refine go_cons_eq_none (fun _ _ ↦ go_eq_none hstart fun _ ↦ hb) ?_
    rintro d u rfl hs
    rw [hlast c rfl d rfl] at hs
    cases hs
  | cons_cons c d a ih ih' =>
    rw [List.mem_cons, List.mem_cons, not_or, not_or] at ha
    refine go_cons_eq_none (fun _ _ ↦ ih' d ?_ ?_ true) ?_
    · simp [ha.2]
    · simpa using hlast
    · rintro e u he -
      obtain ⟨rfl, rfl⟩ := List.cons.inj he
      refine ⟨fun _ ↦ ih ha.2.2 (fun e he ↦ hlast e ?_) true, stopsBefore_eq_false ha.2.2 ht hb⟩
      simp [List.getLast?_cons, Option.mem_def.1 he]

theorem run?_eq_none {t : Text} (h : startsWithByte t = false) : run? t = none :=
  go_eq_none h fun hb ↦ absurd hb Bool.false_ne_true

theorem bytes?_cons {c : Char} {t : Text} (h : run? (c :: t) = none) :
    bytes? (c :: t) = bytes? t := by
  rw [bytes?, h]

theorem bytes?_cons_of_startsWithByte {c : Char} {t : Text} (h : startsWithByte (c :: t) = false) :
    bytes? (c :: t) = bytes? t :=
  bytes?_cons (run?_eq_none h)

theorem bytes?_append_of_colonAhead {a t : Text} (ha : '\n' ∉ a)
    (hlast : ∀ c ∈ a.getLast?, ∀ d ∈ t.head?, byteOfDigits? c d = none)
    (hstart : startsWithByte t = false) (hb : ∀ c ∈ t.head?, isBlank c = false)
    (ht : colonAhead t = true) : bytes? (a ++ t) = bytes? t := by
  induction a with
  | nil => rfl
  | cons c a ih =>
    have hrun : run? (c :: (a ++ t)) = none := go_append_eq_none ha hlast hstart hb ht false
    rw [List.cons_append, bytes?_cons hrun]
    refine ih (fun h ↦ ha (List.mem_cons_of_mem c h)) fun e he ↦ hlast e ?_
    simp [List.getLast?_cons, Option.mem_def.1 he]

theorem bytes?_append_blank {gap : Text} (h : gap.all isBlank = true) (t : Text) :
    bytes? (gap ++ t) = bytes? t := by
  induction gap with
  | nil => rfl
  | cons c gap ih =>
    rw [List.all_cons, Bool.and_eq_true] at h
    have hstart := startsWithByte_cons (isHexDigit_of_isBlank h.1) (gap ++ t)
    rw [List.cons_append, bytes?_cons_of_startsWithByte hstart, ih h.2]

theorem bytes?_of_blank {gap : Text} (hgap : gap.all isBlank = true) : bytes? gap = none := by
  simpa [bytes?] using bytes?_append_blank hgap []

/-- A line that ends like a symbol line holds no run of bytes. -/
theorem bytes?_of_symbol {name gap : Text} (hn : '\n' ∉ name) (hgap : gap.all isBlank = true) :
    bytes? (name ++ '>' :: ':' :: gap) = none := by
  have hcolon : colonAhead ('>' :: ':' :: gap) = true := rfl
  have hlast : ∀ c ∈ name.getLast?, ∀ d ∈ ('>' :: ':' :: gap).head?, byteOfDigits? c d = none := by
    rintro c - d hd
    obtain rfl := Option.some.inj hd
    exact byteOfDigits?_eq_none (.inr (by decide))
  have hb : ∀ c ∈ ('>' :: ':' :: gap).head?, isBlank c = false := by
    rintro c hc
    obtain rfl := Option.some.inj hc
    decide
  rw [bytes?_append_of_colonAhead hn hlast (startsWithByte_cons (by decide) _) hb hcolon,
    bytes?_cons_of_startsWithByte (startsWithByte_cons (by decide) _),
    bytes?_cons_of_startsWithByte (startsWithByte_cons (by decide) _)]
  exact bytes?_of_blank hgap

end OnlineAssembler.Listing.Line
