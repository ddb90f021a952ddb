import OnlineAssembler.Json.Reader
import OnlineAssembler.Json.Basic
import OnlineAssembler.Proofs.Text.Utf8

namespace OnlineAssembler

theorem CodePoint.ofUnit_ofNat {c : Char} (h : c.toNat < 0x10000) :
    ofUnit (UInt16.ofNat c.toNat) = char c := by
  have hvalid : c.toNat < 0xD800 ∨ 0xDFFF < c.toNat ∧ c.toNat < 0x110000 := c.valid
  unfold ofUnit
  simp only [UInt16.toNat_ofNat_of_lt' h, Char.ofNat_toNat]
  rw [dif_neg (by omega)]

theorem CodePoint.isHighHalf_ofNat {c : Char} (h : c.toNat < 0x10000) :
    isHighHalf (UInt16.ofNat c.toNat) = false := by
  have hvalid : c.toNat < 0xD800 ∨ 0xDFFF < c.toNat ∧ c.toNat < 0x110000 := c.valid
  unfold isHighHalf
  rw [UInt16.toNat_ofNat_of_lt' h, Bool.and_eq_false_iff, decide_eq_false_iff_not,
    decide_eq_false_iff_not]
  omega

/-- The two halves of a character beyond U+FFFF join to it again. -/
theorem CodeText.ofPieces_halves {c : Char} {high low : UInt16} (h : 0x10000 ≤ c.toNat)
    (hhigh : high.toNat = 0xD800 + (c.toNat - 0x10000) / 0x400)
    (hlow : low.toNat = 0xDC00 + (c.toNat - 0x10000) % 0x400) (ps : List Piece) :
    ofPieces (.unit high :: .unit low :: ps) = .char c :: ofPieces ps := by
  have hvalid : c.toNat < 0xD800 ∨ 0xDFFF < c.toNat ∧ c.toNat < 0x110000 := c.valid
  have hjoin : (CodePoint.isHighHalf high && CodePoint.isLowHalf low) = true := by
    simp only [CodePoint.isHighHalf, CodePoint.isLowHalf, hhigh, hlow, Bool.and_eq_true,
      decide_eq_true_eq]
    omega
  have hpoint : 0x10000 + (high.toNat - 0xD800) * 0x400 + (low.toNat - 0xDC00) = c.toNat := by
    omega
  rw [ofPieces, if_pos hjoin, CodePoint.ofHalves, hpoint, Char.ofNat_toNat]

theorem CodeText.ofPieces_unit {u : UInt16} (h : CodePoint.isHighHalf u = false)
    (ps : List Piece) : ofPieces (.unit u :: ps) = CodePoint.ofUnit u :: ofPieces ps := by
  match ps with
  | [] | .point _ :: _ => rfl
  | .unit v :: qs => rw [ofPieces, h, Bool.false_and, if_neg Bool.false_ne_true]

theorem CodeText.ofText_append (s t : Text) : ofText (s ++ t) = ofText s ++ ofText t :=
  List.map_append

namespace Json

section

variable {α : Type} {name : CodeText} {fields : List (CodeText × α)}

theorem setField_of_not_mem (h : name ∉ fields.map Prod.fst) (value : α) :
    setField name value fields = fields ++ [(name, value)] := by
  induction fields with
  | nil => rfl
  | cons f fields ih =>
    rw [List.map_cons, List.mem_cons, not_or] at h
    rw [setField, if_neg (Ne.symm h.1), ih h.2, List.cons_append]

theorem foldl_setField (done : List (CodeText × α)) (h : ((done ++ fields).map Prod.fst).Nodup) :
    fields.foldl (fun o f ↦ setField f.1 f.2 o) done = done ++ fields := by
  induction fields generalizing done with
  | nil => rw [List.foldl_nil, List.append_nil]
  | cons f fields ih =>
    have hf : f.1 ∉ done.map Prod.fst := by
      rw [List.map_append, List.map_cons] at h
      intro hmem
      exact (List.nodup_append.1 h).2.2 _ hmem _ List.mem_cons_self rfl
    have hmove : done ++ f :: fields = done ++ [f] ++ fields := by simp
    rw [hmove] at h ⊢
    rw [List.foldl_cons, setField_of_not_mem hf, ih _ h]

/-- Fields of different names are all kept as they come. -/
theorem ofFields_of_nodup {fields : List (CodeText × Json)} (h : (fields.map Prod.fst).Nodup) :
    ofFields fields = .object fields := by
  rw [ofFields, foldl_setField [] h, List.nil_append]

end

/-- The inside of a string and its closing quote are read as `t`, which leaves `rest`. -/
def ReadsInside (s t rest : CodeText) : Prop :=
  ∃ pieces h, stringPieces? s = some (pieces, ⟨rest, h⟩) ∧ CodeText.ofPieces pieces = t

section

variable {s t rest : CodeText} {c l : Char} {u : UInt16} {pieces : List Piece}

theorem readsInside_quote (rest : CodeText) : ReadsInside (.char '"' :: rest) [] rest :=
  ⟨[], _, rfl, rfl⟩

theorem stringPieces?_unit (u : UInt16) {h : rest.length < s.length}
    (hs : stringPieces? s = some (pieces, ⟨rest, h⟩)) :
    ∃ h, stringPieces? (.ofText ('\\' :: 'u' :: Text.hexDigits .lower 4 u.toNat) ++ s) =
      some (.unit u :: pieces, ⟨rest, h⟩) := by
  have hu : Text.hexNumber? (Text.hexDigits .lower 4 u.toNat) = some u.toNat :=
    Text.hexNumber?_hexDigits .lower u.toNat_lt
  have hlength := Text.length_hexDigits .lower 4 u.toNat
  match Text.hexDigits .lower 4 u.toNat, hlength, hu with
  | [a, b, c, d], _, hu =>
    have hlt : rest.length < (CodeText.ofText ['\\', 'u', a, b, c, d] ++ s).length := by
      simp only [CodeText.ofText, List.length_append]
      omega
    refine ⟨hlt, ?_⟩
    refine (stringPieces?.eq_3 a b c d s).trans ?_
    rw [hu, hs]
    simp only [Option.bind_eq_bind, Option.bind_some, UInt16.ofNat_toNat]
    rfl

namespace ReadsInside

theorem point (h : ReadsInside s t rest) (hquote : c ≠ '"') (hslash : c ≠ '\\')
    (hc : 0x20 ≤ c.toNat) : ReadsInside (.char c :: s) (.char c :: t) rest := by
  obtain ⟨pieces, hlt, hs, rfl⟩ := h
  have hquote' : CodePoint.char c ≠ .char '"' := fun h ↦ hquote (CodePoint.char.inj h)
  have hslash' : CodePoint.char c ≠ .char '\\' := fun h ↦ hslash (CodePoint.char.inj h)
  have hplain : ¬ (CodePoint.char c = .char '\\' ∨ (CodePoint.char c).toNat < 0x20) := by
    rw [not_or, Nat.not_lt]
    exact ⟨hslash', hc⟩
  refine ⟨.point (.char c) :: pieces, Nat.lt_succ_of_lt hlt, ?_, rfl⟩
  rw [stringPieces?.eq_5 _ _ hquote' (fun _ _ _ _ _ h ↦ absurd h hslash')
    (fun _ _ h ↦ absurd h hslash'), if_neg hplain, hs]
  rfl

theorem letter (h : ReadsInside s t rest) (hl : l ≠ 'u') (hc : unescape? l = some c) :
    ReadsInside (.char '\\' :: .char l :: s) (.char c :: t) rest := by
  obtain ⟨pieces, hlt, hs, rfl⟩ := h
  refine ⟨.point (.char c) :: pieces, Nat.lt_succ_of_lt (Nat.lt_succ_of_lt hlt), ?_, rfl⟩
  rw [stringPieces?.eq_4 _ _ fun _ _ _ _ _ _ h ↦ hl h, hc, hs]
  rfl

theorem unit (h : ReadsInside s t rest) (hu : CodePoint.isHighHalf u = false) :
    ReadsInside (.ofText ('\\' :: 'u' :: Text.hexDigits .lower 4 u.toNat) ++ s)
      (CodePoint.ofUnit u :: t) rest := by
  obtain ⟨pieces, hlt, hs, rfl⟩ := h
  obtain ⟨hlt', hs'⟩ := stringPieces?_unit u hs
  exact ⟨.unit u :: pieces, hlt', hs', CodeText.ofPieces_unit hu pieces⟩

theorem units (h : ReadsInside s t rest) (c : Char) :
    ReadsInside (.ofText ((unitsOfChar c).flatMap fun u ↦
      '\\' :: 'u' :: Text.hexDigits .lower 4 u.toNat) ++ s) (.char c :: t) rest := by
  unfold unitsOfChar
  by_cases hc : c.toNat < 0x10000
  · rw [if_pos hc, List.flatMap_singleton, ← CodePoint.ofUnit_ofNat hc]
    exact h.unit (CodePoint.isHighHalf_ofNat hc)
  · obtain ⟨pieces, hlt, hs, rfl⟩ := h
    obtain ⟨hlt, hs⟩ := stringPieces?_unit
      (UInt16.ofNat (0xDC00 + (c.toNat - 0x10000) % 0x400)) hs
    obtain ⟨hlt, hs⟩ := stringPieces?_unit
      (UInt16.ofNat (0xD800 + (c.toNat - 0x10000) / 0x400)) hs
    have hvalid : c.toNat < 0xD800 ∨ 0xDFFF < c.toNat ∧ c.toNat < 0x110000 := c.valid
    have hhigh : 0xD800 + (c.toNat - 0x10000) / 0x400 < 0x10000 := by omega
    have hlow : 0xDC00 + (c.toNat - 0x10000) % 0x400 < 0x10000 := by omega
    have hjoin := CodeText.ofPieces_halves (Nat.not_lt.1 hc) (UInt16.toNat_ofNat_of_lt' hhigh)
      (UInt16.toNat_ofNat_of_lt' hlow) pieces
    rw [if_neg hc, List.flatMap_cons, List.flatMap_singleton, CodeText.ofText_append,
      List.append_assoc]
    exact ⟨_, hlt, hs, hjoin⟩

theorem escapeChar (h : ReadsInside s t rest) (c : Char) :
    ReadsInside (.ofText (escapeChar c) ++ s) (.char c :: t) rest := by
  unfold Json.escapeChar
  split_ifs with hquote h8 h12 h10 h13 h9 hplain
  · rcases hquote with rfl | rfl
    · exact h.letter (by decide) rfl
    · exact h.letter (by decide) rfl
  · subst h8
    exact h.letter (by decide) rfl
  · subst h12
    exact h.letter (by decide) rfl
  · subst h10
    exact h.letter (by decide) rfl
  · subst h13
    exact h.letter (by decide) rfl
  · subst h9
    exact h.letter (by decide) rfl
  · rw [not_or] at hquote
    exact h.point hquote.1 hquote.2 hplain.1
  · exact h.units c

end ReadsInside

theorem readsInside_flatMap (t : Text) (rest : CodeText) :
    ReadsInside (.ofText (t.flatMap escapeChar) ++ .char '"' :: rest) (.ofText t) rest := by
  induction t with
  | nil => exact readsInside_quote rest
  | cons c t ih =>
    rw [List.flatMap_cons, CodeText.ofText_append, List.append_assoc]
    exact ih.escapeChar c

def reading {α : Type} (r : Except Refusal (α × Rest s)) : Except Refusal (α × CodeText) :=
  r.map fun p ↦ (p.1, p.2.1)

theorem exists_of_reading {α : Type} {a : α} {r : Except Refusal (α × Rest s)}
    (h : reading r = .ok (a, rest)) : ∃ hlt, r = .ok (a, ⟨rest, hlt⟩) := by
  match r, h with
  | .ok (a, ⟨rest, hlt⟩), h =>
    cases h
    exact ⟨hlt, rfl⟩

theorem reading_stringLiteral (depth : Nat) (t : Text) (rest : CodeText) :
    reading (readValue depth (.ofText (stringLiteral t) ++ rest)) =
      .ok (.string (.ofText t), rest) := by
  obtain ⟨pieces, hlt, hs, ht⟩ := readsInside_flatMap t rest
  have hcons : CodeText.ofText (stringLiteral t) ++ rest =
      .char '"' :: (CodeText.ofText (t.flatMap escapeChar) ++ .char '"' :: rest) := by
    rw [CodeText.ofText, stringLiteral, List.map_cons, List.map_append, List.cons_append,
      List.append_assoc]
    rfl
  rw [hcons, readValue, hs, ← ht]
  rfl

section

variable {depth : Nat} {name tail value : CodeText} {v : Json} {fields : List (CodeText × Json)}

theorem reading_field (hname : ReadsInside s name t) (hcolon : skipGap t = .char ':' :: tail)
    (hvalue : reading (readValue depth (skipGap tail)) = .ok (v, value)) :
    reading (readFields depth (.char '"' :: s)) =
      match skipGap value with
      | .char '\x7d' :: rest => .ok ([(name, v)], rest)
      | .char ',' :: tail =>
        (reading (readFields depth (skipGap tail))).map fun p ↦ ((name, v) :: p.1, p.2)
      | _ => .error .malformed := by
  obtain ⟨pieces, hlt, hs, rfl⟩ := hname
  obtain ⟨hvalue_lt, hvalue⟩ := exists_of_reading hvalue
  rw [readFields, hs]
  simp only [orMalformed, bind, Except.bind]
  split
  · next found hfound =>
    obtain rfl := (List.cons.inj (hcolon.symm.trans hfound)).2
    rw [hvalue]
    simp only
    -- what stands behind the value tells whether another field follows
    split
    · next hend =>
      simp only [hend]
      rfl
    · next names hcomma =>
      simp only [hcomma]
      cases readFields depth (skipGap names) with
      | error e => rfl
      | ok p => rfl
    · next hend hcomma =>
      split
      · next h => exact absurd h (hend _)
      · next h => exact absurd h (hcomma _)
      · rfl
  · next hnone => exact absurd hcolon (hnone _)

theorem reading_object (hs : (skipGap s).head? ≠ some (.char '\x7d'))
    (hfields : reading (readFields depth (skipGap s)) = .ok (fields, rest)) :
    reading (readValue (depth + 1) (.char '\x7b' :: s)) = .ok (.ofFields fields, rest) := by
  obtain ⟨hlt, hfields⟩ := exists_of_reading hfields
  rw [readValue]
  split
  · next rest' hend =>
    rw [hend] at hs
    exact absurd rfl hs
  · rw [hfields]
    rfl

theorem ofCodeText_of_reading (h : reading (readValue depth (skipGap s)) = .ok (v, rest))
    (hrest : skipGap rest = []) : ofCodeText depth s = .ok v := by
  obtain ⟨hlt, h⟩ := exists_of_reading h
  rw [ofCodeText, h]
  exact if_pos hrest

end

section

def line (f : Text × Text) : Text :=
  ' ' :: ' ' :: (stringLiteral f.1 ++ ':' :: ' ' :: stringLiteral f.2)

def printedField (f : Text × Text) : CodeText × Json := (.ofText f.1, .string (.ofText f.2))

theorem skipGap_line (f : Text × Text) (rest : CodeText) :
    skipGap (.ofText (line f) ++ rest) =
      .char '"' :: (CodeText.ofText (f.1.flatMap escapeChar) ++ .char '"' ::
        .char ':' :: .char ' ' :: (CodeText.ofText (stringLiteral f.2) ++ rest)) := by
  have hline : CodeText.ofText (line f) ++ rest = .char ' ' :: .char ' ' :: .char '"' ::
      (CodeText.ofText (f.1.flatMap escapeChar) ++ .char '"' ::
        .char ':' :: .char ' ' :: (CodeText.ofText (stringLiteral f.2) ++ rest)) := by
    simp [line, stringLiteral, CodeText.ofText]
  rw [hline]
  rfl

theorem reading_line (f : Text × Text) (depth : Nat) (rest : CodeText) :
    reading (readFields depth (skipGap (.ofText (line f) ++ rest))) =
      match skipGap rest with
      | .char '\x7d' :: rest => .ok ([printedField f], rest)
      | .char ',' :: tail =>
        (reading (readFields depth (skipGap tail))).map fun p ↦ (printedField f :: p.1, p.2)
      | _ => .error .malformed := by
  rw [skipGap_line]
  exact reading_field (readsInside_flatMap f.1 _) rfl (reading_stringLiteral depth f.2 rest)

theorem reading_lines (f : Text × Text) (fields : List (Text × Text)) (depth : Nat) (rest : Text) :
    reading (readFields depth (skipGap (.ofText (List.intercalate [',', '\n']
      ((f :: fields).map line) ++ '\n' :: '\x7d' :: rest)))) =
      .ok ((f :: fields).map printedField, .ofText rest) := by
  induction fields generalizing f with
  | nil =>
    rw [List.map_singleton, List.intercalate_singleton, CodeText.ofText_append, reading_line]
    rfl
  | cons g fields ih =>
    have hlines : List.intercalate [',', '\n'] ((f :: g :: fields).map line) ++
          '\n' :: '\x7d' :: rest =
        line f ++ (',' :: '\n' ::
          (List.intercalate [',', '\n'] ((g :: fields).map line) ++ '\n' :: '\x7d' :: rest)) := by
      rw [List.map_cons, List.map_cons, List.intercalate_cons_cons, List.append_assoc,
        List.append_assoc]
      rfl
    rw [hlines, CodeText.ofText_append, reading_line]
    exact congrArg (Except.map fun p ↦ (printedField f :: p.1, p.2)) (ih g)

/-- A printed record is read back as the object of its fields, if nothing but a gap follows. -/
theorem ofCodeText_recordText (f : Text × Text) (fields : List (Text × Text)) (depth : Nat)
    {rest : Text} (hrest : skipGap (.ofText rest) = []) :
    ofCodeText (depth + 1) (.ofText (recordText (f :: fields) ++ rest)) =
      .ok (.ofFields ((f :: fields).map printedField)) := by
  have hopen : skipGap (.ofText (recordText (f :: fields) ++ rest)) = .char '\x7b' :: .char '\n' ::
      CodeText.ofText (List.intercalate [',', '\n'] ((f :: fields).map line) ++
        '\n' :: '\x7d' :: rest) := by
    rw [recordText, List.cons_append, List.cons_append, List.append_assoc]
    rfl
  have hclose : (skipGap (.char '\n' :: CodeText.ofText (List.intercalate [',', '\n']
      ((f :: fields).map line) ++ '\n' :: '\x7d' :: rest))).head? ≠ some (.char '\x7d') := by
    cases fields with
    | nil => nofun
    | cons g fields => nofun
  have hobject := reading_object hclose (reading_lines f fields depth rest)
  rw [← hopen] at hobject
  exact ofCodeText_of_reading hobject hrest

theorem detect_recordText (fields : List (Text × Text)) :
    detect (Utf8.encode (recordText fields)) = (.utf8, Utf8.encode (recordText fields)) := by
  -- the first four characters are a brace, a line feed and either two blanks or the end
  cases fields with
  | nil => rfl
  | cons f fields =>
    cases fields with
    | nil => rfl
    | cons g fields => rfl

theorem ofBytes_recordText (f : Text × Text) (fields : List (Text × Text)) (depth : Nat) :
    ofBytes (depth + 1) (Utf8.encode (recordText (f :: fields))) =
      .ok (.ofFields ((f :: fields).map printedField)) := by
  rw [ofBytes, detect_recordText, decode?, Utf8.decodeLoose_encode,
    ← List.append_nil (recordText (f :: fields))]
  exact ofCodeText_recordText f fields depth rfl

end

end

end Json

end OnlineAssembler
