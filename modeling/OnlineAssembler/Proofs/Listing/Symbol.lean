import OnlineAssembler.Proofs.Listing.Instruction
import OnlineAssembler.Proofs.Text.Lines
import OnlineAssembler.Proofs.Text.Pattern

namespace OnlineAssembler.Listing.Line

open Text Text.Pattern

/-- An address, white space, and a name without `>` between `<` and `>:`; white space may follow. -/
inductive IsSymbolLine : Text → Prop
  | intro {address gap name tail : Text} : address ≠ [] → address.all isHexDigit = true →
      IsGap gap → '>' ∉ name → tail.all isBlank = true →
      IsSymbolLine (address ++ (gap ++ '<' :: (name ++ '>' :: ':' :: tail)))

def symbolPattern : Pattern :=
  inTurn [many (one isHexDigit), many (one isBlank), one (· = '<'), optional (many (one (· ≠ '>'))),
    one (· = '>'), one (· = ':'), optional (many (one isBlank)), ending]

section

variable {t : Text}

theorem isSymbol_of_isSymbolLine (h : IsSymbolLine t) : isSymbol t = true := by
  cases h with
  | @intro address gap name tail hne haddress hgap hname htail =>
    obtain ⟨c, gap, rfl⟩ := List.exists_cons_of_ne_nil hgap.ne_nil
    obtain ⟨d, address, rfl⟩ := List.exists_cons_of_ne_nil hne
    have hblank := hgap.isBlank
    have hc : isBlank c = true := (Bool.and_eq_true_iff.1 hblank).1
    have hd : isHexDigit d = true := (Bool.and_eq_true_iff.1 haddress).1
    have hrest : (d :: address ++ c :: (gap ++ '<' :: (name ++ '>' :: ':' :: tail))).dropWhile
        isHexDigit = c :: (gap ++ '<' :: (name ++ '>' :: ':' :: tail)) :=
      dropWhile_append_cons haddress (isHexDigit_of_isBlank hc) _
    have hstart : trimStart (c :: gap ++ '<' :: (name ++ '>' :: ':' :: tail)) =
        '<' :: (name ++ '>' :: ':' :: tail) :=
      dropWhile_append_cons hblank (by decide) _
    have hname : (name ++ '>' :: ':' :: tail).dropWhile (· ≠ '>') = '>' :: ':' :: tail :=
      dropWhile_append_cons (all_ne_iff.2 hname) (by decide) _
    rw [List.cons_append] at hstart
    unfold isSymbol
    simp only [List.cons_append] at hrest ⊢
    simp only [hrest, hstart, hname, htail, List.head?_cons, Option.any_some, hc, hd, Bool.and_true]

theorem isSymbolLine_of_isSymbol (h : isSymbol t = true) : IsSymbolLine t := by
  simp only [isSymbol, Bool.and_eq_true] at h
  obtain ⟨⟨hfirst, hsecond⟩, h⟩ := h
  have ht : t.takeWhile isHexDigit ++ t.dropWhile isHexDigit = t := List.takeWhile_append_dropWhile
  have hrest : (t.dropWhile isHexDigit).takeWhile isBlank ++ trimStart (t.dropWhile isHexDigit) =
      t.dropWhile isHexDigit := List.takeWhile_append_dropWhile
  split at h
  · rename_i r hr
    have hname : r.takeWhile (· ≠ '>') ++ r.dropWhile (· ≠ '>') = r :=
      List.takeWhile_append_dropWhile
    split at h
    · rename_i tail htail
      have hclosed : '>' ∉ r.takeWhile (· ≠ '>') := all_ne_iff.1 List.all_takeWhile
      rw [htail] at hname
      rw [hr, ← hname] at hrest
      rw [← ht, ← hrest]
      exact .intro (takeWhile_ne_nil hfirst) List.all_takeWhile
        ⟨takeWhile_ne_nil hsecond, List.all_takeWhile⟩ hclosed h
    · cases h
  · cases h

theorem isSymbol_iff : isSymbol t = true ↔ IsSymbolLine t :=
  ⟨isSymbolLine_of_isSymbol, isSymbol_of_isSymbolLine⟩

theorem symbolPattern_ne_nil_iff : symbolPattern t ≠ [] ↔ IsSymbolLine t := by
  constructor
  · intro h
    obtain ⟨v, hv⟩ := List.exists_mem_of_ne_nil _ h
    simp only [symbolPattern, mem_inTurn_cons_iff, mem_inTurn_nil_iff, mem_many_one_iff,
      mem_one_iff, mem_optional_many_one_iff, mem_ending_iff, decide_eq_true_eq] at hv
    obtain ⟨_, ⟨address, hne, haddress, rfl⟩, _, ⟨gap, hgap, hblank, rfl⟩, _, ⟨_, rfl, rfl⟩, _,
      ⟨name, hname, rfl⟩, _, ⟨_, rfl, rfl⟩, _, ⟨_, rfl, rfl⟩, w,
      ⟨tail, htail, rfl⟩, _, ⟨hw, -⟩, -⟩ := hv
    refine .intro hne haddress ⟨hgap, hblank⟩ (all_ne_iff.1 hname) ?_
    rcases hw with rfl | rfl
    · rwa [List.append_nil]
    · rw [List.all_append, htail]
      decide
  · intro h
    cases h with
    | @intro address gap name tail hne haddress hgap hname htail =>
      refine List.ne_nil_of_mem (a := []) ?_
      simp only [symbolPattern, mem_inTurn_cons_iff, mem_inTurn_nil_iff, mem_many_one_iff,
        mem_one_iff, mem_optional_many_one_iff, mem_ending_iff, decide_eq_true_eq]
      exact ⟨_, ⟨address, hne, haddress, rfl⟩, _, ⟨gap, hgap.ne_nil, hgap.isBlank, rfl⟩, _,
        ⟨_, rfl, rfl⟩, _, ⟨name, all_ne_iff.2 hname, rfl⟩, _, ⟨_, rfl, rfl⟩, _, ⟨_, rfl, rfl⟩, [],
        ⟨tail, htail, (List.append_nil tail).symm⟩, _, ⟨.inl rfl, rfl⟩, rfl⟩

end

end OnlineAssembler.Listing.Line
