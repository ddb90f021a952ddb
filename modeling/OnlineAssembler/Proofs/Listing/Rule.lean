import Mathlib.Data.Nat.Find
import OnlineAssembler.Proofs.Listing.Instruction
import OnlineAssembler.Proofs.Listing.Pattern

namespace OnlineAssembler.Listing.Line

open Text

/-- A byte group starts at place `i`, and behind the longest chain from there no stray colon is
left. -/
def ShowsAt (line : Text) (i : Nat) (bytes : MachineCode) : Prop :=
  ∃ rest, LongestChain (line.drop i) bytes rest ∧ bytes ≠ [] ∧ ¬ HasStrayColon rest

section

variable {t line rest : Text} {bytes : MachineCode} {i : Nat}

theorem bytes?_eq_some_iff : bytes? t = some bytes ↔
    ∃ i, run? (t.drop i) = some bytes ∧ ∀ j < i, run? (t.drop j) = none := by
  induction t with
  | nil =>
    constructor
    · intro h
      cases h
    · rintro ⟨i, hi, -⟩
      rw [List.drop_nil] at hi
      cases hi
  | cons c t ih =>
    rw [bytes?]
    cases hrun : run? (c :: t) with
    | some own =>
      constructor
      · intro h
        obtain rfl := Option.some.inj h
        refine ⟨0, hrun, ?_⟩
        intro j hj
        exact absurd hj (Nat.not_lt_zero j)
      · rintro ⟨i, hi, hfirst⟩
        cases i with
        | zero => exact hrun.symm.trans hi
        | succ i =>
          have hnone : run? (c :: t) = none := hfirst 0 (Nat.succ_pos i)
          rw [hrun] at hnone
          cases hnone
    | none =>
      rw [ih]
      constructor
      · rintro ⟨i, hi, hfirst⟩
        refine ⟨i + 1, hi, ?_⟩
        intro j hj
        cases j with
        | zero => exact hrun
        | succ j => exact hfirst j (Nat.lt_of_succ_lt_succ hj)
      · rintro ⟨i, hi, hfirst⟩
        cases i with
        | zero =>
          have hsome : run? (c :: t) = some bytes := hi
          rw [hrun] at hsome
          cases hsome
        | succ i => exact ⟨i, hi, fun j hj ↦ hfirst (j + 1) (Nat.succ_lt_succ hj)⟩

theorem bytes?_eq_none_iff : bytes? t = none ↔ ∀ i, run? (t.drop i) = none := by
  constructor
  · intro h
    by_contra hex
    rw [not_forall] at hex
    -- The first place at which there is a run is where the search stops.
    obtain ⟨bytes, hbytes⟩ := Option.ne_none_iff_exists'.1 (Nat.find_spec hex)
    have hsome : bytes? t = some bytes := by
      refine bytes?_eq_some_iff.2 ⟨Nat.find hex, hbytes, ?_⟩
      intro j hj
      exact not_not.1 (Nat.find_min hex hj)
    rw [h] at hsome
    cases hsome
  · intro h
    rw [Option.eq_none_iff_forall_ne_some]
    intro bytes hbytes
    obtain ⟨i, hi, -⟩ := bytes?_eq_some_iff.1 hbytes
    rw [h i] at hi
    cases hi

theorem LongestChain.colonAhead_iff (h : LongestChain t bytes rest) (hn : '\n' ∉ t) :
    colonAhead rest = true ↔ HasStrayColon rest := by
  obtain ⟨run, rfl⟩ := h.chain.exists_append
  exact Line.colonAhead_iff fun hrest ↦ hn (List.mem_append_right _ hrest)

theorem LongestChain.run?_eq (h : LongestChain t bytes rest) (hn : '\n' ∉ t) (hne : bytes ≠ [])
    (hcolon : ¬ HasStrayColon rest) : run? t = some bytes := by
  obtain ⟨hchain, hstart⟩ := longestChain_iff.1 h
  refine run?_of_noStrayColon hchain hstart hne ?_
  rwa [← h.colonAhead_iff hn, Bool.not_eq_true] at hcolon

theorem LongestChain.head?_byteRun_eq (h : LongestChain t bytes rest) (hn : '\n' ∉ t)
    (hne : bytes ≠ []) (hcolon : ¬ HasStrayColon rest) : (byteRun t).head? = some rest := by
  obtain ⟨hchain, hstart⟩ := longestChain_iff.1 h
  refine head?_byteRun hchain hstart hne ?_
  rwa [← h.colonAhead_iff hn, Bool.not_eq_true] at hcolon

theorem LongestChain.of_run? (h : LongestChain t bytes rest) (hn : '\n' ∉ t)
    (hrun : run? t ≠ none) : bytes ≠ [] ∧ ¬ HasStrayColon rest := by
  obtain ⟨hchain, hstart⟩ := longestChain_iff.1 h
  constructor
  · rintro rfl
    cases hchain
    exact hrun (run?_eq_none hstart)
  · rw [← h.colonAhead_iff hn]
    intro hcolon
    exact hrun (run?_of_strayColon hchain hstart hn hcolon)

theorem showsAt_iff (hn : '\n' ∉ line) :
    ShowsAt line i bytes ↔ run? (line.drop i) = some bytes := by
  have hdrop : '\n' ∉ line.drop i := fun h ↦ hn (List.mem_of_mem_drop h)
  constructor
  · rintro ⟨rest, h, hne, hcolon⟩
    exact h.run?_eq hdrop hne hcolon
  · intro hrun
    obtain ⟨⟨own, rest⟩, h, -⟩ := existsUnique_longestChain (line.drop i)
    obtain ⟨hne, hcolon⟩ := h.of_run? hdrop (by rw [hrun]; exact Option.some_ne_none bytes)
    rw [h.run?_eq hdrop hne hcolon] at hrun
    obtain rfl := Option.some.inj hrun
    exact ⟨rest, h, hne, hcolon⟩

/-- Backtracking settles on the longest chain or on nothing. -/
theorem head?_byteRun_eq_some_iff (hn : '\n' ∉ t) : (byteRun t).head? = some rest ↔
    ∃ bytes, LongestChain t bytes rest ∧ bytes ≠ [] ∧ ¬ HasStrayColon rest := by
  constructor
  · intro hrest
    obtain ⟨⟨bytes, left⟩, h, -⟩ := existsUnique_longestChain t
    have hrun : run? t ≠ none := by
      rw [Ne, ← byteRun_eq_nil_iff]
      intro hnil
      rw [hnil] at hrest
      cases hrest
    obtain ⟨hne, hcolon⟩ := h.of_run? hn hrun
    rw [h.head?_byteRun_eq hn hne hcolon] at hrest
    obtain rfl := Option.some.inj hrest
    exact ⟨bytes, h, hne, hcolon⟩
  · rintro ⟨bytes, h, hne, hcolon⟩
    exact h.head?_byteRun_eq hn hne hcolon

theorem classify_eq_symbol_iff : classify t = .symbol ↔ IsSymbolLine t := by
  rw [← isSymbol_iff]
  unfold classify
  cases isSymbol t with
  | true => simp
  | false => cases bytes? t <;> simp

theorem classify_eq_other_iff : classify t = .other ↔ isSymbol t = false ∧ bytes? t = none := by
  unfold classify
  cases isSymbol t with
  | true => simp
  | false => cases bytes? t <;> simp

/-- The rule by which a line is read. The bytes of a line that names no symbol are those of the
first chain of byte groups without a stray colon behind it, and of all of that chain. The patterns
of the two kinds of line lead to the same, whatever they go back to on the way: at each place they
settle on the longest chain or on nothing, and the digits that they find are bytes. -/
theorem classify_by_rule (hn : '\n' ∉ line) :
    (classify line = .symbol ↔ IsSymbolLine line) ∧
    (∀ bytes, classify line = .instruction bytes ↔ ¬ IsSymbolLine line ∧
      ∃ i, ShowsAt line i bytes ∧ ∀ j < i, ∀ others, ¬ ShowsAt line j others) ∧
    (classify line = .other ↔ ¬ IsSymbolLine line ∧ ∀ i bytes, ¬ ShowsAt line i bytes) ∧
    (∀ i rest, (byteRun (line.drop i)).head? = some rest ↔
      ∃ bytes, LongestChain (line.drop i) bytes rest ∧ bytes ≠ [] ∧ ¬ HasStrayColon rest) ∧
    classifyByPatterns line = some (classify line) := by
  have hnone : ∀ i, run? (line.drop i) = none ↔ ∀ bytes, ¬ ShowsAt line i bytes := by
    intro i
    simp only [showsAt_iff hn, Option.eq_none_iff_forall_ne_some, Ne]
  have hsymbol : isSymbol line = false ↔ ¬ IsSymbolLine line := by
    rw [← isSymbol_iff, Bool.not_eq_true]
  refine ⟨classify_eq_symbol_iff, ?_, ?_, ?_, classifyByPatterns_eq line⟩
  · intro bytes
    simp only [classify_eq_instruction_iff, hsymbol, bytes?_eq_some_iff, hnone, showsAt_iff hn]
  · simp only [classify_eq_other_iff, hsymbol, bytes?_eq_none_iff, hnone]
  · intro i rest
    exact head?_byteRun_eq_some_iff fun h ↦ hn (List.mem_of_mem_drop h)

end

/-- The search passes over the bytes in front of a far pointer and takes the end of its offset. -/
theorem classify_by_rule_far_jump :
    let line := "0:\tea 78 56 34 12 10 00 \tjmp    0x10:0x12345678".toList
    '\n' ∉ line ∧ ¬ IsSymbolLine line ∧
      ∃ i, ShowsAt line i [0x78] ∧ ∀ j < i, ∀ others, ¬ ShowsAt line j others := by
  intro line
  have hn : '\n' ∉ line := by decide
  obtain ⟨-, hinstruction, -⟩ := classify_by_rule hn
  exact ⟨hn, (hinstruction [0x78]).1 (by decide +kernel)⟩

end OnlineAssembler.Listing.Line
