import OnlineAssembler.Proofs.Listing.Margin
import OnlineAssembler.Proofs.Listing.Pattern
import OnlineAssembler.Proofs.Text.Search

namespace OnlineAssembler.Listing

open Text Text.Pattern

namespace Line

def EndsAsSymbol (line : Text) : Prop := ['>', ':'] <:+ trimEnd line

instance (line : Text) : Decidable (EndsAsSymbol line) :=
  inferInstanceAs (Decidable (['>', ':'] <:+ trimEnd line))

/-- What byte groups in a row take of a line: digits and white space, and not white space alone. -/
structure IsStretch (stretch : Text) : Prop where
  digit : ∃ c ∈ stretch, isHexDigit c = true
  all : ∀ c ∈ stretch, isHexDigit c = true ∨ isBlank c = true

inductive TestOrder
  | symbolFirst
  | bytesFirst

/-- What a line holds if `test` tells which lines are symbol lines, and if that or the search for
bytes comes first. -/
def classifyIn (order : TestOrder) (test : Text → Bool) (line : Text) : Line :=
  match order with
  | .symbolFirst =>
    if test line then .symbol
    else match bytes? line with
      | some bytes => .instruction bytes
      | none => .other
  | .bytesFirst =>
    match bytes? line with
    | some bytes => .instruction bytes
    | none => if test line then .symbol else .other

section

variable {line before stretch more rest t v : Text} {i : Nat} {order : TestOrder}
  {test : Text → Bool}

theorem endsAsSymbol_iff : EndsAsSymbol line ↔
    ∃ name gap, line = name ++ '>' :: ':' :: gap ∧ gap.all isBlank = true := by
  constructor
  · rintro ⟨name, hname⟩
    obtain ⟨gap, hgap, hblank⟩ := eq_trimEnd_append line
    refine ⟨name, gap, ?_, hblank⟩
    rw [hgap, ← hname, List.append_assoc]
    rfl
  · rintro ⟨name, gap, rfl, hblank⟩
    have hend : trimEnd ['>', ':'] = ['>', ':'] := by decide
    have htrim : trimEnd (name ++ '>' :: ':' :: gap) = name ++ ['>', ':'] := by
      calc trimEnd (name ++ '>' :: ':' :: gap)
        _ = trimEnd (name ++ ['>', ':'] ++ gap) := by simp
        _ = trimEnd (name ++ ['>', ':']) := trimEnd_append_of_blank hblank
        _ = name ++ trimEnd ['>', ':'] := trimEnd_append_of_ne_nil (by simp [hend]) name
        _ = name ++ ['>', ':'] := by rw [hend]
    exact ⟨name, htrim.symm⟩

theorem EndsAsSymbol.hasStrayColon (h : EndsAsSymbol line) : HasStrayColon line := by
  obtain ⟨name, gap, rfl, -⟩ := endsAsSymbol_iff.1 h
  exact ⟨name, '>', gap, rfl, by decide⟩

theorem endsAsSymbol_of_isSymbol (h : isSymbol line = true) : EndsAsSymbol line :=
  endsAsSymbol_iff.2 (exists_of_isSymbol h)

theorem IsStretch.append (h : IsStretch stretch) (h' : IsStretch more) :
    IsStretch (stretch ++ more) where
  digit := by
    obtain ⟨c, hc, hdigit⟩ := h.digit
    exact ⟨c, List.mem_append_left more hc, hdigit⟩
  all := List.forall_mem_append.2 ⟨h.all, h'.all⟩

theorem exists_isStretch_of_mem_byteGroup (h : v ∈ byteGroup t) :
    ∃ stretch, IsStretch stretch ∧ t = stretch ++ v := by
  obtain ⟨high, low, u, hhigh, hlow, rfl, hu⟩ := exists_of_mem_byteGroup h
  obtain ⟨gap, hgap, rfl⟩ := exists_of_mem_gapOrEnd hu
  refine ⟨high :: low :: gap, ⟨⟨high, List.mem_cons_self, hhigh⟩, ?_⟩, rfl⟩
  simp only [List.forall_mem_cons]
  exact ⟨.inl hhigh, .inl hlow, fun c hc ↦ .inr (List.all_eq_true.1 hgap c hc)⟩

theorem exists_isStretch_of_mem_many (h : v ∈ many byteGroup t) :
    ∃ stretch, IsStretch stretch ∧ t = stretch ++ v := by
  refine many_induction
    (motive := fun t v ↦ ∃ stretch, IsStretch stretch ∧ t = stretch ++ v) ?_ ?_ h
  · intro t v hv
    exact exists_isStretch_of_mem_byteGroup hv
  · rintro t u v ⟨stretch, hstretch, rfl⟩ ⟨more, hmore, rfl⟩
    exact ⟨stretch ++ more, hstretch.append hmore, (List.append_assoc _ _ _).symm⟩

/-- The end of the line is out of the reach of byte groups, as none can take the `>` or start behind
it. -/
theorem EndsAsSymbol.of_isStretch (h : EndsAsSymbol (before ++ (stretch ++ rest)))
    (hstretch : IsStretch stretch) : EndsAsSymbol rest := by
  obtain ⟨name, gap, heq, hblank⟩ := endsAsSymbol_iff.1 h
  have hopen : '>' ∉ stretch := fun h ↦ absurd (hstretch.all '>' h) (by decide)
  have htail : ∀ c ∈ '>' :: ':' :: gap, isHexDigit c = false := by
    simp only [List.forall_mem_cons]
    exact ⟨by decide, by decide, fun c hc ↦ isHexDigit_of_isBlank (List.all_eq_true.1 hblank c hc)⟩
  have hahead : ∃ c ∈ stretch, c ∉ '>' :: ':' :: gap := by
    obtain ⟨c, hc, hdigit⟩ := hstretch.digit
    exact ⟨c, hc, fun h ↦ absurd (htail c h) (by rw [hdigit]; decide)⟩
  obtain ⟨name', hrest⟩ := exists_eq_append_cons heq hopen hahead
  exact endsAsSymbol_iff.2 ⟨name', gap, hrest, hblank⟩

theorem EndsAsSymbol.hasStrayColon_of_mem (h : EndsAsSymbol line)
    (hrest : rest ∈ many byteGroup (line.drop i)) : HasStrayColon rest := by
  obtain ⟨stretch, hstretch, heq⟩ := exists_isStretch_of_mem_many hrest
  have hline : line = line.take i ++ (stretch ++ rest) := by rw [← heq, List.take_append_drop]
  rw [hline] at h
  exact (h.of_isStretch hstretch).hasStrayColon

theorem EndsAsSymbol.find?_byteRun (h : EndsAsSymbol line) (hn : '\n' ∉ line) :
    byteRun.find? line = none := by
  rw [find?_eq_none_iff]
  intro i
  -- Each place that the repetition may give back to is ruled out by the look ahead.
  rw [byteRun_eq_filter, List.filter_eq_nil_iff]
  intro rest hrest
  obtain ⟨stretch, -, heq⟩ := exists_isStretch_of_mem_many hrest
  have hsub : '\n' ∉ rest := by
    intro hmem
    refine hn (List.mem_of_mem_drop (i := i) ?_)
    rw [heq]
    exact List.mem_append_right stretch hmem
  rw [(colonAhead_iff hsub).2 (h.hasStrayColon_of_mem hrest)]
  exact Bool.false_ne_true

theorem EndsAsSymbol.bytes?_eq_none (h : EndsAsSymbol line) (hn : '\n' ∉ line) :
    bytes? line = none := by
  have hfind := Line.find?_byteRun line
  rw [h.find?_byteRun hn] at hfind
  exact Option.map_eq_none_iff.1 hfind.symm

theorem classifyIn_of_bytes?_eq_none (h : bytes? line = none) :
    classifyIn order test line = if test line then .symbol else .other := by
  cases order <;> rw [classifyIn, h]

theorem bytes_classifyIn (h : test line = true → bytes? line = none) :
    (classifyIn order test line).bytes = (bytes? line).getD [] := by
  cases hbytes : bytes? line with
  | none =>
    rw [classifyIn_of_bytes?_eq_none hbytes]
    cases test line <;> rfl
  | some bytes =>
    have htest : test line = false := by
      rw [← Bool.not_eq_true]
      intro htest
      rw [h htest] at hbytes
      cases hbytes
    cases order <;> simp [classifyIn, htest, hbytes, Line.bytes]

end

end Line

open Line

def bytesIn (order : TestOrder) (test : Text → Bool) (code : Text) : MachineCode :=
  (lines code).flatMap fun l ↦ (classifyIn order test l).bytes

theorem bytesIn_eq {order : TestOrder} {test : Text → Bool} {code : Text}
    (h : ∀ line ∈ lines code, test line = true → EndsAsSymbol line) :
    bytesIn order test code = (lines code).flatMap fun l ↦ (bytes? l).getD [] := by
  refine List.flatMap_congr fun line hline ↦ bytes_classifyIn fun htest ↦ ?_
  exact (h line hline htest).bytes?_eq_none (not_mem_of_mem_lines hline)

theorem bytesIn_isSymbol (code : Text) : bytesIn .symbolFirst isSymbol code = bytes code := rfl

/-- A line that ends in `>:` holds no bytes: wherever byte groups start in it, and however few of
them or of their white space are taken, a stray colon is ahead. All symbol lines end so. Hence the
bytes of a code depend neither on the order of the two tests that its lines are put to, nor on how
many of the lines that end so the test for symbols tells, be it none. -/
theorem symbols_hold_no_bytes :
    (∀ line, symbolPattern line ≠ [] → EndsAsSymbol line) ∧
    (∀ line, '\n' ∉ line → EndsAsSymbol line →
      (∀ i, ∀ rest ∈ many byteGroup (line.drop i), HasStrayColon rest) ∧
      byteRun.find? line = none ∧ bytes? line = none ∧
      ∀ order test, classifyIn order test line = if test line then .symbol else .other) ∧
    ∀ order test code, (∀ line ∈ lines code, test line = true → EndsAsSymbol line) →
      bytesIn order test code = bytes code := by
  refine ⟨?_, ?_, ?_⟩
  · intro line hsymbol
    exact endsAsSymbol_of_isSymbol (isSymbol_iff.2 (symbolPattern_ne_nil_iff.1 hsymbol))
  · intro line hn hline
    have hnone : bytes? line = none := hline.bytes?_eq_none hn
    refine ⟨?_, hline.find?_byteRun hn, hnone, ?_⟩
    · intro i rest hrest
      exact hline.hasStrayColon_of_mem hrest
    · intro order test
      exact classifyIn_of_bytes?_eq_none hnone
  · intro order test code htest
    have hsymbol : ∀ line ∈ lines code, isSymbol line = true → EndsAsSymbol line :=
      fun _ _ ↦ endsAsSymbol_of_isSymbol
    rw [bytesIn_eq htest, ← bytesIn_isSymbol, bytesIn_eq hsymbol]

/-- White space at its start keeps the second line from being a symbol line, and its name holds
digit pairs, blanks, a colon and a `>`. -/
theorem symbols_hold_no_bytes_indented :
    let line := " 4 <90 c3 >90 a:>: ".toList
    let code := "0:\t90 \tnop\n 4 <90 c3 >90 a:>: \n4:\tc3".toList
    let ends := fun l ↦ decide (EndsAsSymbol l)
    symbolPattern "4 <90 c3>:".toList ≠ [] ∧ EndsAsSymbol "4 <90 c3>:".toList ∧
      '\n' ∉ line ∧ EndsAsSymbol line ∧ isSymbol line = false ∧ byteRun.find? line = none ∧
      (∀ l ∈ lines code, ends l = true → EndsAsSymbol l) ∧
      bytesIn .bytesFirst ends code = bytes code ∧ bytes code = [0x90, 0xc3] := by
  intro line code ends
  obtain ⟨hsymbols, hlines, hcodes⟩ := symbols_hold_no_bytes
  have hsymbol : symbolPattern "4 <90 c3>:".toList ≠ [] :=
    symbolPattern_ne_nil_iff.2 (isSymbol_iff.1 (by decide))
  have hn : '\n' ∉ line := by decide
  have hline : EndsAsSymbol line := by decide
  have hends : ∀ l ∈ lines code, ends l = true → EndsAsSymbol l := fun _ _ ↦ of_decide_eq_true
  exact ⟨hsymbol, hsymbols _ hsymbol, hn, hline, by decide, (hlines line hn hline).2.1, hends,
    hcodes .bytesFirst ends code hends, by decide +kernel⟩

-- A line feed hides the colon behind it, and the digits are read.
example : bytes? "90 \n>:".toList = some [0x90] := by decide

end OnlineAssembler.Listing
