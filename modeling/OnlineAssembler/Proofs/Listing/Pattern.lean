import OnlineAssembler.Proofs.Listing.Chain
import OnlineAssembler.Proofs.Listing.Symbol
import OnlineAssembler.Proofs.MachineCode.Rendering

namespace OnlineAssembler.Listing.Line

open Text Text.Pattern

open MachineCode (ofHex?)

def gapOrEnd : Pattern := orElse (many (one isBlank)) ending

def byteGroup : Pattern := inTurn [one isHexDigit, one isHexDigit, gapOrEnd]

def strayColon : Pattern :=
  inTurn [optional (many (one (· ≠ '\n'))), one (· ≠ 's'), one (· = ':')]

def byteRun : Pattern := inTurn [many byteGroup, notAhead strayColon]

def digitPairs : Text → List Text
  | high :: low :: t =>
    if isHexDigit high && isHexDigit low then [high, low] :: digitPairs t else digitPairs (low :: t)
  | _ => []

def readPairs (run : Text) : Option MachineCode := ofHex? (digitPairs run).flatten

def classifyByPatterns (t : Text) : Option Line :=
  if symbolPattern t ≠ [] then some .symbol
  else match byteRun.find? t with
    | some run => (readPairs run).map .instruction
    | none => some .other

section

variable {t u v gap : Text} {high low : Char} {b : UInt8}

theorem strayColon_eq_nil_iff : strayColon t = [] ↔ colonAhead t = false := by
  rw [← not_iff_not, Bool.not_eq_false]
  constructor
  · intro h
    obtain ⟨v, hv⟩ := List.exists_mem_of_ne_nil _ h
    simp only [strayColon, mem_inTurn_cons_iff, mem_inTurn_nil_iff, mem_one_iff,
      mem_optional_many_one_iff, decide_eq_true_eq] at hv
    obtain ⟨_, ⟨a, ha, rfl⟩, _, ⟨c, hc, rfl⟩, _, ⟨_, rfl, rfl⟩, -⟩ := hv
    exact colonAhead_append (all_ne_iff.1 ha) (by simp [colonAhead, hc])
  · intro h
    obtain ⟨a, c, b, rfl, hc, ha⟩ := exists_of_colonAhead h
    refine List.ne_nil_of_mem (a := b) ?_
    simp only [strayColon, mem_inTurn_cons_iff, mem_inTurn_nil_iff, mem_one_iff,
      mem_optional_many_one_iff, decide_eq_true_eq]
    exact ⟨_, ⟨a, all_ne_iff.2 ha, rfl⟩, _, ⟨c, hc, rfl⟩, _, ⟨_, rfl, rfl⟩, rfl⟩

theorem byteRun_eq_filter (t : Text) :
    byteRun t = (many byteGroup t).filter fun u ↦ !colonAhead u := by
  rw [byteRun, inTurn_notAhead]
  refine List.filter_congr fun u _ ↦ ?_
  rw [Bool.eq_iff_iff, decide_eq_true_iff, strayColon_eq_nil_iff, Bool.not_eq_true']

theorem mem_gapOrEnd_iff : v ∈ gapOrEnd t ↔
    (∃ gap, gap ≠ [] ∧ gap.all isBlank = true ∧ t = gap ++ v) ∨ (t = [] ∨ t = ['\n']) ∧ v = t := by
  unfold gapOrEnd orElse
  rw [List.mem_append, mem_many_one_iff, mem_ending_iff]

theorem exists_of_mem_gapOrEnd (h : v ∈ gapOrEnd t) :
    ∃ gap, gap.all isBlank = true ∧ t = gap ++ v := by
  rcases mem_gapOrEnd_iff.1 h with ⟨gap, -, hgap, heq⟩ | ⟨-, rfl⟩
  · exact ⟨gap, hgap, heq⟩
  · exact ⟨[], rfl, rfl⟩

/-- All of the white space is tried first, and what stands behind less of it begins with white
space. -/
theorem gapOrEnd_append (hgap : gap.all isBlank = true) (hend : gap ≠ [] ∨ t = [])
    (ht : ∀ c ∈ t.head?, isBlank c = false) :
    ∃ l, gapOrEnd (gap ++ t) = t :: l ∧ ∀ v ∈ l, ∃ c w, v = c :: w ∧ isBlank c = true := by
  by_cases hne : gap = []
  · obtain rfl : t = [] := hend.resolve_left (not_not.2 hne)
    rw [hne]
    exact ⟨[], by rw [gapOrEnd, orElse, List.append_nil, many_one_nil]; rfl, nofun⟩
  · obtain ⟨l, hl, hblank⟩ := many_one_append hne hgap ht
    refine ⟨l ++ ending (gap ++ t), ?_, ?_⟩
    · rw [gapOrEnd, orElse, hl, List.cons_append]
    · intro v hv
      rcases List.mem_append.1 hv with hv | hv
      · exact hblank v hv
      · obtain ⟨c, gap, rfl⟩ := List.exists_cons_of_ne_nil hne
        obtain ⟨-, rfl⟩ := mem_ending_iff.1 hv
        exact ⟨c, gap ++ t, rfl, (Bool.and_eq_true_iff.1 hgap).1⟩

theorem stopsBefore_iff : stopsBefore t = true ↔ ∃ v ∈ gapOrEnd t, colonAhead v = false := by
  induction t with
  | nil =>
    refine ⟨fun _ ↦ ⟨[], ?_, rfl⟩, fun _ ↦ rfl⟩
    exact mem_gapOrEnd_iff.2 (.inr ⟨.inl rfl, rfl⟩)
  | cons c t ih =>
    rw [stopsBefore, Bool.and_eq_true, Bool.or_eq_true, Bool.not_eq_true', ih]
    constructor
    · rintro ⟨hc, hcolon | ⟨v, hv, hcolon⟩⟩
      · refine ⟨t, ?_, hcolon⟩
        exact mem_gapOrEnd_iff.2 (.inl ⟨[c], List.cons_ne_nil c [], by simp [hc], rfl⟩)
      · obtain ⟨gap, hgap, rfl⟩ := exists_of_mem_gapOrEnd hv
        refine ⟨v, ?_, hcolon⟩
        exact mem_gapOrEnd_iff.2 (.inl ⟨c :: gap, List.cons_ne_nil c gap, by simp [hc, hgap], rfl⟩)
    · rintro ⟨v, hv, hcolon⟩
      rcases mem_gapOrEnd_iff.1 hv with ⟨gap, hne, hgap, heq⟩ | ⟨hend | hend, -⟩
      · obtain ⟨d, gap, rfl⟩ := List.exists_cons_of_ne_nil hne
        obtain ⟨rfl, rfl⟩ := List.cons.inj heq
        rw [List.all_cons, Bool.and_eq_true] at hgap
        refine ⟨hgap.1, ?_⟩
        by_cases hgapne : gap = []
        · subst hgapne
          exact .inl hcolon
        · exact .inr ⟨v, mem_gapOrEnd_iff.2 (.inl ⟨gap, hgapne, hgap.2, rfl⟩), hcolon⟩
      · cases hend
      · obtain ⟨rfl, rfl⟩ := List.cons.inj hend
        exact ⟨isBlank_newline, .inl rfl⟩

theorem byteGroup_digits (hhigh : isHexDigit high = true) (hlow : isHexDigit low = true)
    (u : Text) : byteGroup (high :: low :: u) = gapOrEnd u := by
  have hone : one isHexDigit (high :: low :: u) = [low :: u] := by simp [one, hhigh]
  have hone' : one isHexDigit (low :: u) = [u] := by simp [one, hlow]
  simp only [byteGroup, inTurn, hone, hone', List.flatMap_singleton, List.flatMap_singleton']

theorem head?_of_mem_gapOrEnd (h : v ∈ gapOrEnd t) : t.head?.all isBlank = true := by
  rcases mem_gapOrEnd_iff.1 h with ⟨gap, hne, hgap, rfl⟩ | ⟨rfl | rfl, -⟩
  · exact head?_gap hgap (.inl hne)
  · rfl
  · exact isBlank_newline

theorem exists_of_mem_byteGroup (h : v ∈ byteGroup t) :
    ∃ high low u, isHexDigit high = true ∧ isHexDigit low = true ∧ t = high :: low :: u ∧
      v ∈ gapOrEnd u := by
  simp only [byteGroup, mem_inTurn_cons_iff, mem_inTurn_nil_iff, mem_one_iff] at h
  obtain ⟨_, ⟨high, hhigh, rfl⟩, u, ⟨low, hlow, rfl⟩, w, hw, rfl⟩ := h
  exact ⟨high, low, u, hhigh, hlow, rfl, hw⟩

theorem byteGroup_eq_nil (h : startsWithByte t = false) : byteGroup t = [] := by
  rw [List.eq_nil_iff_forall_not_mem]
  intro v hv
  obtain ⟨high, low, u, hhigh, hlow, rfl, hgap⟩ := exists_of_mem_byteGroup hv
  have hu := head?_of_mem_gapOrEnd hgap
  simp [startsWithByte, hhigh, hlow, hu] at h

theorem byteRun_eq_nil (h : startsWithByte t = false) : byteRun t = [] := by
  rw [byteRun_eq_filter, many_eq_nil (byteGroup_eq_nil h), List.filter_nil]

/-- The choices for a run that starts with a digit pair: those of the runs behind its gap, and
those to stop within the gap. -/
theorem byteRun_pair (hhigh : isHexDigit high = true) (hlow : isHexDigit low = true)
    (hgap : gap.all isBlank = true) (hend : gap ≠ [] ∨ t = [])
    (ht : ∀ c ∈ t.head?, isBlank c = false) :
    byteRun (high :: low :: (gap ++ t)) =
      byteRun t ++ (gapOrEnd (gap ++ t)).filter fun v ↦ !colonAhead v := by
  have hshorter : ∀ v ∈ byteGroup (high :: low :: (gap ++ t)),
      v.length < (high :: low :: (gap ++ t)).length := by
    intro v hv
    rw [byteGroup_digits hhigh hlow] at hv
    obtain ⟨u, -, heq⟩ := exists_of_mem_gapOrEnd hv
    rw [heq]
    simp only [List.length_cons, List.length_append]
    omega
  obtain ⟨l, hl, hblank⟩ := gapOrEnd_append hgap hend ht
  -- Behind less than all of the white space no group starts, so a run can only stop there.
  have hstop : (l.flatMap fun v ↦ many byteGroup v ++ [v]) = l := by
    calc (l.flatMap fun v ↦ many byteGroup v ++ [v])
      _ = l.flatMap fun v ↦ [v] := by
        refine List.flatMap_congr fun v hv ↦ ?_
        obtain ⟨c, w, rfl, hc⟩ := hblank v hv
        have hstart := startsWithByte_cons (isHexDigit_of_isBlank hc) w
        rw [many_eq_nil (byteGroup_eq_nil hstart), List.nil_append]
      _ = l := List.flatMap_singleton' l
  rw [byteRun_eq_filter, byteRun_eq_filter, many_eq_flatMap hshorter, byteGroup_digits hhigh hlow,
    hl, List.flatMap_cons, hstop, List.append_assoc, List.singleton_append, List.filter_append]

theorem digitPairs_append_blank (hgap : gap.all isBlank = true) (t : Text) :
    digitPairs (gap ++ t) = digitPairs t := by
  induction gap with
  | nil => rfl
  | cons c gap ih =>
    rw [List.all_cons, Bool.and_eq_true] at hgap
    have hc := isHexDigit_of_isBlank hgap.1
    rw [← ih hgap.2, List.cons_append]
    cases gap ++ t with
    | nil => rfl
    | cons d u => rw [digitPairs, hc, Bool.false_and, if_neg Bool.false_ne_true]

theorem readPairs_pair {run : Text} {bytes : MachineCode} (hb : byteOfDigits? high low = some b)
    (hgap : gap.all isBlank = true) (hrun : readPairs run = some bytes) :
    readPairs (high :: low :: (gap ++ run)) = some (b :: bytes) := by
  obtain ⟨hhigh, hlow⟩ := isHexDigit_of_byteOfDigits? hb
  unfold readPairs at hrun ⊢
  rw [digitPairs, hhigh, hlow, Bool.and_true, if_pos rfl, digitPairs_append_blank hgap,
    List.flatten_cons, List.cons_append, List.cons_append, List.nil_append, ofHex?, hb, hrun]
  rfl

end

/-- The choices of the pattern, and the bytes of the stretch that the first of them takes. -/
inductive Settles (t : Text) : List Text → Option MachineCode → Prop
  | none : Settles t [] none
  | some {run rest : Text} {l : List Text} {bytes : MachineCode} :
      t = run ++ rest → readPairs run = some bytes → Settles t (rest :: l) (some bytes)

/-- Where no group can follow, a run stops behind its last pair if it may stop at all. -/
theorem settles_stop {high low : Char} {b : UInt8} (hb : byteOfDigits? high low = some b)
    (u : Text) : Settles (high :: low :: u) ((gapOrEnd u).filter fun v ↦ !colonAhead v)
      (if stopsBefore u then some [b] else none) := by
  cases hfilter : (gapOrEnd u).filter fun v ↦ !colonAhead v with
  | nil =>
    have hstop : stopsBefore u = false := by
      rw [← Bool.not_eq_true, stopsBefore_iff]
      rintro ⟨v, hv, hcolon⟩
      refine List.filter_eq_nil_iff.1 hfilter v hv ?_
      rw [hcolon, Bool.not_false]
    rw [hstop, if_neg Bool.false_ne_true]
    exact .none
  | cons v l =>
    have hmem : v ∈ (gapOrEnd u).filter fun v ↦ !colonAhead v := by
      rw [hfilter]
      exact List.mem_cons_self
    obtain ⟨hv, hcolon⟩ := List.mem_filter.1 hmem
    rw [Bool.not_eq_true'] at hcolon
    obtain ⟨gap, hgap, heq⟩ := exists_of_mem_gapOrEnd hv
    rw [stopsBefore_iff.2 ⟨v, hv, hcolon⟩, if_pos rfl]
    have hread : readPairs (high :: low :: (gap ++ [])) = some [b] := readPairs_pair hb hgap rfl
    refine .some ?_ hread
    rw [heq, List.append_nil]
    rfl

theorem settles_run (t : Text) : Settles t (byteRun t) (run? t) := by
  -- The induction is on the length, as a run goes on behind all of a group at once.
  induction hn : t.length using Nat.strong_induction_on generalizing t with
  | _ n ih =>
    subst hn
    cases hstart : startsWithByte t with
    | false =>
      rw [byteRun_eq_nil hstart, run?_eq_none hstart]
      exact .none
    | true =>
      obtain ⟨b, u, hgroup⟩ := exists_group hstart
      have hrest := ih u.length hgroup.length_lt u rfl
      cases hgroup with
      | @intro high low _ gap _ hb hgap hend hu =>
        obtain ⟨hhigh, hlow⟩ := isHexDigit_of_byteOfDigits? hb
        rw [byteRun_pair hhigh hlow hgap hend hu, run?_pair hb hgap hend hu]
        generalize byteRun u = rests, run? u = found at hrest
        cases hrest with
        | @some run rest l bytes hrun hread =>
          refine .some ?_ (readPairs_pair hb hgap hread)
          rw [hrun]
          simp only [List.cons_append, List.append_assoc]
        | none =>
          -- No longer run is possible, and what is left is to stop behind the first pair.
          rw [List.nil_append, Option.map_none, Option.none_or]
          exact settles_stop hb (gap ++ u)

theorem find?_byteRun (t : Text) : (byteRun.find? t).map readPairs = (bytes? t).map some := by
  induction t with
  | nil => rw [find?, byteRun_eq_nil rfl, bytes?]; rfl
  | cons c t ih =>
    have hsettles := settles_run (c :: t)
    rw [find?, bytes?]
    generalize byteRun (c :: t) = rests, run? (c :: t) = found at hsettles
    cases hsettles with
    | none => exact ih
    | some hrun hread =>
      simp only [hrun, taken_append, Option.map_some, hread]

theorem byteRun_eq_nil_iff {t : Text} : byteRun t = [] ↔ run? t = none := by
  have hsettles := settles_run t
  generalize byteRun t = rests, run? t = found at hsettles
  cases hsettles <;> simp

/-- The first choice at a place is to take the longest chain. -/
theorem head?_byteRun {t rest : Text} {bytes : MachineCode} (h : Chain t bytes rest)
    (hstart : startsWithByte rest = false) (hne : bytes ≠ []) (hcolon : colonAhead rest = false) :
    (byteRun t).head? = some rest := by
  induction h with
  | nil => exact absurd rfl hne
  | @cons _ u _ _ _ hgroup hchain ih =>
    cases hgroup with
    | @intro _ _ _ gap _ hb hgap hend hu =>
      obtain ⟨hhigh, hlow⟩ := isHexDigit_of_byteOfDigits? hb
      rw [byteRun_pair hhigh hlow hgap hend hu, List.head?_append]
      cases hchain with
      | nil =>
        obtain ⟨l, hl, -⟩ := gapOrEnd_append hgap hend hu
        rw [byteRun_eq_nil hstart, hl, List.filter_cons_of_pos (by rw [hcolon, Bool.not_false])]
        rfl
      | cons hgroup hchain =>
        rw [ih hstart (List.cons_ne_nil _ _) hcolon]
        rfl

/-- The patterns make of a line what the library makes of it, and they never fail. -/
theorem classifyByPatterns_eq (t : Text) : classifyByPatterns t = some (classify t) := by
  unfold classifyByPatterns classify
  have hsymbol : symbolPattern t ≠ [] ↔ isSymbol t = true :=
    symbolPattern_ne_nil_iff.trans isSymbol_iff.symm
  by_cases h : isSymbol t = true
  · rw [if_pos (hsymbol.2 h), if_pos h]
  · rw [if_neg (mt hsymbol.1 h), if_neg h]
    have hfind := find?_byteRun t
    generalize byteRun.find? t = run, bytes? t = found at hfind
    cases run with
    | none =>
      cases found with
      | none => rfl
      | some bytes => cases hfind
    | some run =>
      cases found with
      | none => cases hfind
      | some bytes =>
        have hread : readPairs run = some bytes := Option.some.inj hfind
        simp only [hread, Option.map_some]

end OnlineAssembler.Listing.Line
