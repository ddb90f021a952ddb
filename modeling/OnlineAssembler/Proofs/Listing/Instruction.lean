import OnlineAssembler.Proofs.Listing.Run

namespace OnlineAssembler.Listing.Line

open Text

structure IsGap (gap : Text) : Prop where
  ne_nil : gap ≠ []
  isBlank : gap.all isBlank = true

inductive Column : Text → MachineCode → Prop
  | one {high low : Char} {b : UInt8} :
      byteOfDigits? high low = some b → Column [high, low] [b]
  | cons {high low : Char} {b : UInt8} {gap t : Text} {bytes : MachineCode} :
      byteOfDigits? high low = some b → IsGap gap → Column t bytes →
      Column (high :: low :: (gap ++ t)) (b :: bytes)

inductive Front : Text → MachineCode → Prop
  | intro {address gap column : Text} {bytes : MachineCode} :
      address ≠ [] → address.all isHexDigit = true → IsGap gap → Column column bytes →
      Front (address ++ ':' :: (gap ++ column)) bytes

/-- An instruction as text, which cannot be taken for one more byte. -/
structure IsInstruction (t : Text) : Prop where
  exists_head : ∃ c, t.head? = some c ∧ Text.isBlank c = false
  notByte : startsWithByte t = false

def row (bytes : MachineCode) : Text :=
  List.intercalate [' '] (bytes.map fun b ↦ hexDigits .lower 2 b.toNat)

theorem column_row {bytes : MachineCode} (hne : bytes ≠ []) : Column (row bytes) bytes := by
  induction bytes with
  | nil => exact absurd rfl hne
  | cons b bytes ih =>
    cases bytes with
    | nil =>
      rw [row, List.map_singleton, List.intercalate_singleton, hexDigits_two]
      exact .one (byteOfDigits?_hexDigit .lower b)
    | cons c bytes =>
      rw [row, List.map_cons, List.map_cons, List.intercalate_cons_cons, hexDigits_two]
      exact .cons (byteOfDigits?_hexDigit .lower b) ⟨by decide, by decide⟩
        (ih (List.cons_ne_nil c bytes))

theorem front_row {address : Text} {bytes : MachineCode} (haddress : address ≠ [])
    (hdigits : address.all isHexDigit = true) (hne : bytes ≠ []) :
    Front (address ++ ':' :: '\t' :: row bytes) bytes := by
  have hgap : IsGap ['\t'] := ⟨by decide, by decide⟩
  exact .intro haddress hdigits hgap (column_row hne)

theorem IsGap.all_head? {gap : Text} (h : IsGap gap) (t : Text) :
    (gap ++ t).head?.all Text.isBlank = true := by
  obtain ⟨hne, hblank⟩ := h
  cases gap with
  | nil => exact absurd rfl hne
  | cons c gap => simpa using (List.all_eq_true.1 hblank) c List.mem_cons_self

theorem IsGap.getLast? {gap : Text} (h : IsGap gap) (a : Text) :
    ∀ c ∈ (a ++ gap).getLast?, Text.isBlank c = true := by
  intro c hc
  rw [List.getLast?_append_of_ne_nil _ h.ne_nil] at hc
  exact List.all_eq_true.1 h.isBlank c (List.mem_of_getLast? hc)

theorem IsInstruction.isBlank_head {t : Text} (h : IsInstruction t) :
    ∀ c ∈ t.head?, Text.isBlank c = false := by
  obtain ⟨d, hd, hblank⟩ := h.exists_head
  intro c hc
  rw [hd] at hc
  exact Option.some.inj hc ▸ hblank

theorem all_head?_of_stopsBefore {t : Text} (h : stopsBefore t = true) :
    t.head?.all Text.isBlank = true := by
  cases t with
  | nil => rfl
  | cons c t => exact (Bool.and_eq_true_iff.1 h).1

theorem go_column {t rest : Text} {bytes : MachineCode} (h : Column t bytes)
    (hgo : run?.go true rest = none) (hstop : stopsBefore rest = true) (behind : Bool) :
    run?.go behind (t ++ rest) = some bytes := by
  induction h generalizing behind with
  | one hb =>
    have hrest := all_head?_of_stopsBefore hstop
    simp only [List.cons_append, List.nil_append]
    rw [go_byte hb hrest, hgo, hstop]
    rfl
  | @cons high low b gap t bytes hb hgap _ ih =>
    simp only [List.cons_append, List.append_assoc]
    rw [go_byte hb (hgap.all_head? _), go_append_blank hgap.isBlank, ih true]
    rfl

theorem bytes?_column {t rest : Text} {bytes : MachineCode} (h : Column t bytes)
    (hgo : run?.go true rest = none) (hstop : stopsBefore rest = true) :
    bytes? (t ++ rest) = some bytes := by
  have hrun := go_column h hgo hstop false
  cases h with
  | one _ => rw [List.cons_append, bytes?, run?, ← List.cons_append, hrun]
  | cons _ _ _ => rw [List.cons_append, bytes?, run?, ← List.cons_append, hrun]

/-- Digits right in front of a colon are no bytes. -/
theorem bytes?_address {address : Text} (h : address.all isHexDigit = true) (t : Text) :
    bytes? (address ++ ':' :: t) = bytes? t := by
  induction address with
  | nil => exact bytes?_cons_of_startsWithByte (startsWithByte_cons (by decide) t)
  | cons c address ih =>
    rw [List.all_cons, Bool.and_eq_true] at h
    have hstart : startsWithByte (c :: (address ++ ':' :: t)) = false := by
      cases address with
      | nil => simp [startsWithByte, show isHexDigit ':' = false by decide]
      | cons d address =>
        cases address with
        | nil => simp [startsWithByte, show Text.isBlank ':' = false by decide]
        | cons e address =>
          simp only [List.all_cons, Bool.and_eq_true] at h
          simp [startsWithByte, isBlank_of_isHexDigit h.2.2.1]
    rw [List.cons_append, bytes?_cons_of_startsWithByte hstart, ih h.2]

theorem bytes?_front {front rest : Text} {bytes : MachineCode} (h : Front front bytes)
    (hgo : run?.go true rest = none) (hstop : stopsBefore rest = true) :
    bytes? (front ++ rest) = some bytes := by
  obtain ⟨-, haddress, hgap, hcolumn⟩ := h
  simp only [List.append_assoc, List.cons_append]
  rw [bytes?_address haddress, bytes?_append_blank hgap.isBlank, bytes?_column hcolumn hgo hstop]

theorem isSymbol_front {front : Text} {bytes : MachineCode} (h : Front front bytes) (rest : Text) :
    isSymbol (front ++ rest) = false := by
  obtain ⟨-, haddress, -, -⟩ := h
  simp [isSymbol, List.dropWhile_append_of_pos (List.all_eq_true.1 haddress),
    show isHexDigit ':' = false by decide, show Text.isBlank ':' = false by decide]

section

variable {front gap t : Text} {bytes : MachineCode}

theorem bytes?_of_noStrayColon (hfront : Front front bytes) (hgap : IsGap gap)
    (ht : IsInstruction t) (hcolon : colonAhead t = false) :
    bytes? (front ++ (gap ++ t)) = some bytes := by
  refine bytes?_front hfront ?_ (stopsBefore_append hgap.ne_nil hgap.isBlank hcolon)
  rw [go_append_blank hgap.isBlank]
  exact go_eq_none ht.notByte fun _ ↦ ht.isBlank_head

theorem bytes?_of_strayColon (hgap : IsGap gap) (ht : IsInstruction t)
    (hn : '\n' ∉ front ++ gap) (hcolon : colonAhead t = true) :
    bytes? (front ++ (gap ++ t)) = bytes? t := by
  rw [← List.append_assoc]
  refine bytes?_append_of_colonAhead hn (fun c hc d _ ↦ ?_) ht.notByte ht.isBlank_head hcolon
  exact byteOfDigits?_eq_none (.inl (isHexDigit_of_isBlank (hgap.getLast? front c hc)))

theorem classify_eq_instruction_iff {t : Text} {found : MachineCode} :
    classify t = .instruction found ↔ isSymbol t = false ∧ bytes? t = some found := by
  unfold classify
  cases isSymbol t with
  | true => simp
  | false => cases bytes? t <;> simp

/-- An instruction line gives other bytes than its own only through a colon in its text that is not
behind an `s`. The search for bytes then goes on into the text, and what it finds there is taken
for the bytes of the line. -/
theorem classify_own_bytes_iff (hfront : Front front bytes) (hgap : IsGap gap)
    (ht : IsInstruction t) (hn : '\n' ∉ front ++ (gap ++ t)) :
    (∀ found, classify (front ++ (gap ++ t)) = .instruction found → found = bytes) ↔
      (HasStrayColon t → ∀ found, bytes? t = some found → found = bytes) := by
  have hsymbol := isSymbol_front hfront (gap ++ t)
  rw [← List.append_assoc, List.mem_append, not_or] at hn
  rw [← colonAhead_iff hn.2]
  simp only [classify_eq_instruction_iff, hsymbol, true_and]
  cases hcolon : colonAhead t with
  | true =>
    rw [bytes?_of_strayColon hgap ht hn.1 hcolon]
    exact ⟨fun h _ ↦ h, fun h ↦ h rfl⟩
  | false =>
    rw [bytes?_of_noStrayColon hfront hgap ht hcolon]
    exact ⟨fun _ ↦ nofun, fun _ found h ↦ (Option.some.inj h).symm⟩

end

theorem front_indirect_jump : Front "0:\tff 25 00 00 00 00".toList [0xff, 0x25, 0, 0, 0, 0] := by
  have hfront : "0:\tff 25 00 00 00 00".toList =
      ['0'] ++ ':' :: '\t' :: row [0xff, 0x25, 0, 0, 0, 0] := by decide
  rw [hfront]
  exact front_row (by decide) (by decide) (by decide)

theorem classify_own_bytes_segment :
    let front := "0:\tff 25 00 00 00 00".toList
    let gap := "    \t".toList
    let t := "jmp    DWORD PTR ds:0x0".toList
    let bytes := [0xff, 0x25, 0, 0, 0, 0]
    Front front bytes ∧ IsGap gap ∧ IsInstruction t ∧ '\n' ∉ front ++ (gap ++ t) ∧
      ∀ found, classify (front ++ (gap ++ t)) = .instruction found → found = bytes := by
  intro front gap t bytes
  have hgap : IsGap gap := ⟨by decide, by decide⟩
  have ht : IsInstruction t := ⟨⟨'j', by decide, by decide⟩, by decide⟩
  have hn : '\n' ∉ front ++ (gap ++ t) := by decide
  have hcolon : ¬ HasStrayColon t := by
    rw [← colonAhead_iff (by decide)]
    decide
  exact ⟨front_indirect_jump, hgap, ht, hn,
    (classify_own_bytes_iff front_indirect_jump hgap ht hn).2 fun h ↦ absurd h hcolon⟩

/-- The target of a far jump is written with a colon behind its segment. -/
theorem classify_far_jump : ¬ ∀ front gap t bytes, Front front bytes → IsGap gap →
    IsInstruction t → '\n' ∉ front ++ (gap ++ t) →
    ∀ found, classify (front ++ (gap ++ t)) = .instruction found → found = bytes := by
  intro h
  have hfront : Front ("0:\tea 78 56 34 12 10 00".toList)
      [0xea, 0x78, 0x56, 0x34, 0x12, 0x10, 0x00] := by
    have hrow : "0:\tea 78 56 34 12 10 00".toList =
        ['0'] ++ ':' :: '\t' :: row [0xea, 0x78, 0x56, 0x34, 0x12, 0x10, 0x00] := by decide
    rw [hrow]
    exact front_row (by decide) (by decide) (by decide)
  have hgap : IsGap " \t".toList := ⟨by decide, by decide⟩
  have ht : IsInstruction "jmp    0x10:0x12345678".toList :=
    ⟨⟨'j', by decide, by decide⟩, by decide⟩
  have hbytes := h _ _ _ _ hfront hgap ht (by decide) [0x78] (by decide +kernel)
  exact absurd hbytes (by decide)

end OnlineAssembler.Listing.Line
