import OnlineAssembler.Proofs.Listing.Instruction
import OnlineAssembler.Proofs.Text.Lines
import OnlineAssembler.Proofs.Text.Trim

namespace OnlineAssembler.Listing.Line

open Text

/-- A byte group at the front of a text: two digits and all the white space behind them, of which
there is some unless the text ends. -/
inductive Group : Text → UInt8 → Text → Prop
  | intro {high low : Char} {b : UInt8} {gap rest : Text} :
      byteOfDigits? high low = some b → gap.all isBlank = true → gap ≠ [] ∨ rest = [] →
      (∀ c ∈ rest.head?, isBlank c = false) → Group (high :: low :: (gap ++ rest)) b rest

inductive Chain : Text → MachineCode → Text → Prop
  | nil (t : Text) : Chain t [] t
  | cons {t u rest : Text} {b : UInt8} {bytes : MachineCode} :
      Group t b u → Chain u bytes rest → Chain t (b :: bytes) rest

structure LongestChain (t : Text) (bytes : MachineCode) (rest : Text) : Prop where
  chain : Chain t bytes rest
  longest : ∀ others left, Chain t others left → others.length ≤ bytes.length

section

variable {t u v rest left gap : Text} {high low : Char} {b c : UInt8} {bytes others : MachineCode}

theorem head?_gap (hgap : gap.all isBlank = true) (hend : gap ≠ [] ∨ t = []) :
    (gap ++ t).head?.all isBlank = true := by
  by_cases hne : gap = []
  · obtain rfl := hend.resolve_left (not_not.2 hne)
    rw [hne]
    rfl
  · exact IsGap.all_head? ⟨hne, hgap⟩ t

theorem Group.startsWithByte (h : Group t b u) : startsWithByte t = true := by
  cases h with
  | intro hb hgap hend _ =>
    obtain ⟨hhigh, hlow⟩ := isHexDigit_of_byteOfDigits? hb
    simp only [Line.startsWithByte, hhigh, hlow, head?_gap hgap hend, Bool.and_true]

theorem exists_group (h : startsWithByte t = true) : ∃ b u, Group t b u := by
  match t, h with
  | high :: low :: u, h =>
    simp only [Line.startsWithByte, Bool.and_eq_true] at h
    obtain ⟨⟨hhigh, hlow⟩, hu⟩ := h
    have hb : (byteOfDigits? high low).isSome = true := by
      rw [isSome_byteOfDigits?, hhigh, hlow, Bool.and_true]
    obtain ⟨b, hb⟩ := Option.isSome_iff_exists.1 hb
    obtain ⟨gap, heq, hgap⟩ := eq_takeWhile_append_trimStart u
    have hrest := isBlank_head?_trimStart u
    refine ⟨b, trimStart u, ?_⟩
    rw [heq] at hu ⊢
    rw [trimStart_append hgap hrest]
    refine .intro hb hgap ?_ hrest
    by_cases hne : gap = []
    · right
      cases hu' : trimStart u with
      | nil => rfl
      | cons c w =>
        have hc := hrest c (by rw [hu']; rfl)
        rw [hne, hu', List.nil_append, List.head?_cons, Option.all_some, hc] at hu
        cases hu
    · exact .inl hne

theorem Group.length_lt (h : Group t b u) : u.length < t.length := by
  cases h with
  | intro =>
    simp only [List.length_cons, List.length_append]
    omega

theorem Group.unique (h : Group t b u) (h' : Group t c v) : b = c ∧ u = v := by
  cases h with
  | @intro high low b gap u hb hgap _ hu =>
    generalize hw : gap ++ u = w at h'
    cases h' with
    | @intro _ _ c gap' v hc hgap' _ hv =>
      rw [hb] at hc
      refine ⟨Option.some.inj hc, ?_⟩
      rw [← trimStart_append hgap hu, hw, trimStart_append hgap' hv]

theorem Chain.append (h : Chain t bytes u) (h' : Chain u others rest) :
    Chain t (bytes ++ others) rest := by
  induction h with
  | nil => exact h'
  | cons hgroup _ ih => exact .cons hgroup (ih h')

theorem exists_chain (t : Text) :
    ∃ bytes rest, Chain t bytes rest ∧ startsWithByte rest = false := by
  induction hn : t.length using Nat.strong_induction_on generalizing t with
  | _ n ih =>
    subst hn
    cases hstart : startsWithByte t with
    | false => exact ⟨[], t, .nil t, hstart⟩
    | true =>
      obtain ⟨b, u, hgroup⟩ := exists_group hstart
      obtain ⟨bytes, rest, hchain, hrest⟩ := ih u.length hgroup.length_lt u rfl
      exact ⟨b :: bytes, rest, .cons hgroup hchain, hrest⟩

theorem Chain.exists_append (h : Chain t bytes rest) : ∃ run, t = run ++ rest := by
  induction h with
  | nil t => exact ⟨[], rfl⟩
  | cons hgroup _ ih =>
    obtain ⟨run, rfl⟩ := ih
    cases hgroup with
    | @intro high low _ gap =>
      exact ⟨high :: low :: (gap ++ run), by simp only [List.cons_append, List.append_assoc]⟩

/-- A chain that no group follows goes on from wherever another chain ends. -/
theorem Chain.continues (h : Chain t bytes rest) (hrest : Line.startsWithByte rest = false)
    (h' : Chain t others left) : ∃ more, bytes = others ++ more ∧ Chain left more rest := by
  induction h' generalizing bytes with
  | nil t => exact ⟨bytes, rfl, h⟩
  | @cons t u left b others hgroup _ ih =>
    cases h with
    | nil =>
      rw [hgroup.startsWithByte] at hrest
      cases hrest
    | cons hfirst hchain =>
      obtain ⟨rfl, rfl⟩ := hgroup.unique hfirst
      obtain ⟨more, rfl, hmore⟩ := ih hchain
      exact ⟨more, rfl, hmore⟩

theorem longestChain_iff :
    LongestChain t bytes rest ↔ Chain t bytes rest ∧ startsWithByte rest = false := by
  constructor
  · rintro ⟨hchain, hlongest⟩
    refine ⟨hchain, ?_⟩
    by_contra hstart
    obtain ⟨b, u, hgroup⟩ := exists_group (Bool.not_eq_false _ ▸ hstart)
    have hlength := hlongest _ _ (hchain.append (.cons hgroup (.nil u)))
    rw [List.length_append, List.length_singleton] at hlength
    omega
  · rintro ⟨hchain, hstart⟩
    refine ⟨hchain, ?_⟩
    intro others left h
    obtain ⟨more, rfl, -⟩ := hchain.continues hstart h
    rw [List.length_append]
    omega

/-- There is one longest chain at each place. -/
theorem existsUnique_longestChain (t : Text) :
    ∃! p : MachineCode × Text, LongestChain t p.1 p.2 := by
  obtain ⟨bytes, rest, hchain, hstart⟩ := exists_chain t
  refine ⟨(bytes, rest), longestChain_iff.2 ⟨hchain, hstart⟩, ?_⟩
  rintro ⟨others, left⟩ h
  obtain ⟨hothers, hleft⟩ := longestChain_iff.1 h
  obtain ⟨more, rfl, hmore⟩ := hchain.continues hstart hothers
  cases hmore with
  | nil => rw [List.append_nil]
  | cons hgroup _ =>
    rw [hgroup.startsWithByte] at hleft
    cases hleft

theorem go_true (ht : ∀ c ∈ t.head?, isBlank c = false) : run?.go true t = run? t := by
  cases t with
  | nil => rfl
  | cons c t =>
    have hc : isBlank c = false := ht c rfl
    rw [run?, run?.go.eq_def, run?.go.eq_def]
    simp only [hc, Bool.and_false]

theorem run?_pair (hb : byteOfDigits? high low = some b) (hgap : gap.all isBlank = true)
    (hend : gap ≠ [] ∨ t = []) (ht : ∀ c ∈ t.head?, isBlank c = false) :
    run? (high :: low :: (gap ++ t)) =
      ((run? t).map (b :: ·)).or (if stopsBefore (gap ++ t) then some [b] else none) := by
  rw [run?, go_byte hb (head?_gap hgap hend), go_append_blank hgap, go_true ht]

theorem run?_of_noStrayColon (h : Chain t bytes rest) (hstart : startsWithByte rest = false)
    (hne : bytes ≠ []) (hcolon : colonAhead rest = false) : run? t = some bytes := by
  induction h with
  | nil => exact absurd rfl hne
  | @cons _ u _ _ _ hgroup hchain ih =>
    cases hgroup with
    | @intro _ _ _ gap _ hb hgap hend hu =>
      have hstop (hu : colonAhead u = false) : stopsBefore (gap ++ u) = true := by
        by_cases hgapne : gap = []
        · rw [hend.resolve_left (not_not.2 hgapne), List.append_nil]
          exact stopsBefore_of_blank hgap
        · exact stopsBefore_append hgapne hgap hu
      rw [run?_pair hb hgap hend hu]
      cases hchain with
      | nil =>
        rw [run?_eq_none hstart, hstop hcolon]
        rfl
      | cons hgroup hchain =>
        rw [ih hstart (List.cons_ne_nil _ _) hcolon]
        rfl

/-- A run that stops earlier has the same colon ahead. -/
theorem run?_of_strayColon (h : Chain t bytes rest) (hstart : startsWithByte rest = false)
    (hn : '\n' ∉ t) (hcolon : colonAhead rest = true) : run? t = none := by
  induction h with
  | nil t => exact run?_eq_none hstart
  | @cons _ u _ _ _ hgroup hchain ih =>
    cases hgroup with
    | @intro _ _ _ gap _ hb hgap hend hu =>
      simp only [List.mem_cons, List.mem_append, not_or] at hn
      obtain ⟨-, -, hngap, hnu⟩ := hn
      obtain ⟨run, rfl⟩ := hchain.exists_append
      have hrun : '\n' ∉ run := fun h ↦ hnu (List.mem_append_left _ h)
      have hstop := stopsBefore_eq_false hngap (colonAhead_append hrun hcolon) hu
      rw [run?_pair hb hgap hend hu, ih hstart hnu hcolon, hstop]
      rfl

end

end OnlineAssembler.Listing.Line
