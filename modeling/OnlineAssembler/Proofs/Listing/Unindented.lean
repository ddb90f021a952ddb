import OnlineAssembler.Proofs.Listing.Contents

namespace OnlineAssembler.Listing

open Text Line

/-- The lines of a text that are not blank, without the white space at their start and without that
at the end of the last one. -/
def unindented (t : Text) : Text :=
  trimEnd (unlines (((lines t).filter fun l ↦ !l.all isBlank).map trimStart))

structure IsNormal (code : Text) : Prop where
  lines : code ≠ [] → ∀ l ∈ lines code, ∃ c ∈ l.head?, isBlank c = false
  trimEnd : trimEnd code = code

inductive HasCode : Text → Option Text → Prop
  | entered {head tail : Text} (h : EntersAfter head tail) :
      HasCode (head ++ ("<_main>:\n".toList ++ tail)) (some (unindented tail))
  | empty {listing : Text} (hmarker : ¬ "<_main>:\n".toList <:+: listing)
      (h : "file format ".toList <:+: listing ∧
        ¬ "Disassembly of section ".toList <:+: listing) : HasCode listing (some [])
  | missing {listing : Text} (hmarker : ¬ "<_main>:\n".toList <:+: listing)
      (h : ¬ ("file format ".toList <:+: listing ∧
        ¬ "Disassembly of section ".toList <:+: listing)) : HasCode listing none

section

variable {l t : Text}

theorem unindented_of_not_mem (hl : '\n' ∉ l) : unindented l = trim l := by
  unfold unindented
  rw [lines_of_not_mem hl]
  cases hblank : l.all isBlank with
  | true =>
    rw [trim, trimStart_eq_nil_iff.2 hblank]
    simp [hblank, unlines]
  | false => simp [hblank, unlines, trim]

theorem unindented_append_of_blank (hl : '\n' ∉ l) (hblank : l.all isBlank = true) (t : Text) :
    unindented (l ++ '\n' :: t) = unindented t := by
  unfold unindented
  rw [lines_append hl]
  simp [hblank]

theorem unindented_append (hl : '\n' ∉ l) (hblank : l.all isBlank = false) (t : Text) :
    unindented (l ++ '\n' :: t) = trimEnd (trimStart l ++ '\n' :: unindented t) := by
  unfold unindented
  rw [lines_append hl, List.filter_cons_of_pos (by simp [hblank]), List.map_cons,
    trimEnd_append_cons_trimEnd]
  generalize ((lines t).filter fun l ↦ !l.all isBlank).map trimStart = ls
  cases ls with
  | nil =>
    have hend : trimEnd (trimStart l ++ ['\n']) = trimEnd (trimStart l) :=
      trimEnd_append_of_blank (by decide)
    rw [unlines, List.intercalate_singleton]
    exact hend.symm
  | cons k ls => rw [unlines_cons (List.cons_ne_nil k ls)]

theorem trimEnd_unindented (t : Text) : trimEnd (unindented t) = unindented t := trimEnd_trimEnd _

theorem unindent_line (hl : '\n' ∉ l) : unindent true l = trimStart l := by
  induction l with
  | nil => rfl
  | cons c l ih =>
    rw [List.mem_cons, not_or] at hl
    cases hc : isBlank c with
    | true => simpa [unindent, trimStart, hc] using ih hl.2
    | false => simp [unindent_true_cons hc (Ne.symm hl.1), unindent_false hl.2, trimStart, hc]

theorem unindent_append_of_blank (hblank : l.all isBlank = true) (t : Text) :
    unindent true (l ++ '\n' :: t) = unindent true t := by
  induction l with
  | nil => simp [unindent, isBlank_newline]
  | cons c l ih =>
    rw [List.all_cons, Bool.and_eq_true] at hblank
    rw [List.cons_append, unindent, hblank.1]
    exact ih hblank.2

theorem unindent_append (hl : '\n' ∉ l) (hblank : l.all isBlank = false) (t : Text) :
    unindent true (l ++ '\n' :: t) = trimStart l ++ '\n' :: unindent true t := by
  induction l with
  | nil => cases hblank
  | cons c l ih =>
    rw [List.mem_cons, not_or] at hl
    cases hc : isBlank c with
    | true =>
      rw [List.all_cons, hc, Bool.true_and] at hblank
      have ih := ih hl.2 hblank
      simpa [unindent, trimStart, hc] using ih
    | false =>
      rw [List.cons_append, unindent_true_cons hc (Ne.symm hl.1), unindent_false_append hl.2]
      simp [trimStart, hc]

theorem trimEnd_unindent (t : Text) : trimEnd (unindent true t) = unindented t := by
  induction t using lines_induction with
  | last l hl => rw [unindent_line hl, unindented_of_not_mem hl, trim]
  | line l t hl ih =>
    cases hblank : l.all isBlank with
    | true => rw [unindent_append_of_blank hblank, unindented_append_of_blank hl hblank, ih]
    | false =>
      rw [unindent_append hl hblank, unindented_append hl hblank, ← ih,
        trimEnd_append_cons_trimEnd]

theorem unindented_append_of_eq_nil (hl : '\n' ∉ l) (h : unindented t = []) :
    unindented (l ++ '\n' :: t) = trim l := by
  cases hblank : l.all isBlank with
  | true =>
    rw [unindented_append_of_blank hl hblank, h, trim, trimStart_eq_nil_iff.2 hblank]
    rfl
  | false =>
    rw [unindented_append hl hblank, h]
    exact trimEnd_append_of_blank (by decide)

theorem unindented_append_of_ne_nil (hl : '\n' ∉ l) (hblank : l.all isBlank = false)
    (h : unindented t ≠ []) :
    unindented (l ++ '\n' :: t) = trimStart l ++ '\n' :: unindented t := by
  have hfeed : trimEnd ('\n' :: unindented t) = '\n' :: unindented t := by
    rw [← List.singleton_append, trimEnd_append_of_ne_nil, trimEnd_unindented]
    rwa [trimEnd_unindented]
  rw [unindented_append hl hblank, trimEnd_append_of_ne_nil, hfeed]
  rw [hfeed]
  exact List.cons_ne_nil _ _

theorem exists_mem_head? (hne : t ≠ []) (h : ∀ c ∈ t.head?, isBlank c = false) :
    ∃ c ∈ t.head?, isBlank c = false := by
  obtain ⟨c, t, rfl⟩ := List.exists_cons_of_ne_nil hne
  exact ⟨c, rfl, h c rfl⟩

theorem isNormal_trim (hl : '\n' ∉ l) : IsNormal (trim l) where
  lines := by
    intro hne k hk
    have hfeed : '\n' ∉ trim l := fun h ↦ hl ((trim_sublist l).subset h)
    rw [lines_of_not_mem hfeed, List.mem_singleton] at hk
    rw [hk]
    exact exists_mem_head? hne (isTrimmed_trim l).head
  trimEnd := trimEnd_trimEnd _

theorem IsNormal.append {code : Text} (hl : '\n' ∉ l) (hhead : ∃ c ∈ l.head?, isBlank c = false)
    (hne : code ≠ []) (h : IsNormal code) : IsNormal (l ++ '\n' :: code) where
  lines := by
    intro _ k hk
    rw [lines_append hl] at hk
    rcases List.mem_cons.1 hk with rfl | hk
    · exact hhead
    · exact h.lines hne k hk
  trimEnd := by
    have hcode : Text.trimEnd code ≠ [] := by rwa [h.trimEnd]
    rw [List.append_cons, trimEnd_append_of_ne_nil hcode, h.trimEnd]

theorem isNormal_unindented (t : Text) : IsNormal (unindented t) := by
  induction t using lines_induction with
  | last l hl =>
    rw [unindented_of_not_mem hl]
    exact isNormal_trim hl
  | line l t hl ih =>
    cases hblank : l.all isBlank with
    | true =>
      rw [unindented_append_of_blank hl hblank]
      exact ih
    | false =>
      by_cases ht : unindented t = []
      · rw [unindented_append_of_eq_nil hl ht]
        exact isNormal_trim hl
      · rw [unindented_append_of_ne_nil hl hblank ht]
        have hsub : (trimStart l).Sublist l := List.dropWhile_sublist isBlank
        have hne : trimStart l ≠ [] := by simp [trimStart_eq_nil_iff, hblank]
        have hhead := exists_mem_head? hne (isBlank_head?_trimStart l)
        exact ih.append (fun h ↦ hl (hsub.subset h)) hhead ht

theorem unindented_of_isNormal {code : Text} (h : IsNormal code) : unindented code = code := by
  by_cases hne : code = []
  · rw [hne]
    rfl
  · have hlines : ∀ l ∈ lines code, l.all isBlank = false ∧ trimStart l = l := by
      intro l hl
      obtain ⟨c, hc, hblank⟩ := h.lines hne l hl
      obtain ⟨l, rfl⟩ := List.head?_eq_some_iff.1 hc
      simp [hblank, trimStart]
    have hfilter : ((lines code).filter fun l ↦ !l.all isBlank) = lines code := by
      refine List.filter_eq_self.2 fun l hl ↦ ?_
      rw [(hlines l hl).1]
      rfl
    have hmap : (lines code).map trimStart = lines code := by
      calc (lines code).map trimStart
        _ = (lines code).map id := List.map_congr_left fun l hl ↦ (hlines l hl).2
        _ = lines code := List.map_id _
    rw [unindented, hfilter, hmap, unlines_lines, h.trimEnd]

end

section

variable {listing head tail code : Text}

theorem code?_of_entersAfter (h : EntersAfter head tail) :
    code? (head ++ ("<_main>:\n".toList ++ tail)) = some (unindented tail) := by
  have hmarker : "<_main>:\n".toList = entryMarker := by decide
  rw [entersAfter_iff] at h
  rw [hmarker] at h ⊢
  rw [code?_append h, trim, trimStart_unindent, trimEnd_unindent]

theorem exists_entersAfter (h : "<_main>:\n".toList <:+: listing) :
    ∃ head tail, listing = head ++ ("<_main>:\n".toList ++ tail) ∧ EntersAfter head tail := by
  obtain ⟨tail, htail⟩ := Option.isSome_iff_exists.1 (occursIn_iff.2 h)
  obtain ⟨head, rfl⟩ := exists_of_after? htail
  refine ⟨head, tail, rfl, ?_⟩
  intro before behind heq
  have hlengths := congrArg List.length heq
  rw [heq] at htail
  have hbehind := length_le_of_after? htail
  simp only [List.length_append] at hlengths
  omega

theorem code?_of_not_isInfix (h : ¬ "<_main>:\n".toList <:+: listing) :
    code? listing = if isEmpty listing then some [] else none := by
  have hmarker : "<_main>:\n".toList = entryMarker := by decide
  rw [hmarker, ← occursIn_iff, occursIn, Option.not_isSome_iff_eq_none] at h
  rw [code?, h]

theorem isEmpty_iff : isEmpty listing = true ↔
    "file format ".toList <:+: listing ∧ ¬ "Disassembly of section ".toList <:+: listing := by
  rw [isEmpty, Bool.and_eq_true, Bool.not_eq_true', ← Bool.not_eq_true, occursIn_iff, occursIn_iff]

theorem decode_of_code?_eq_none (h : code? listing = none) :
    (decode listing).answer = .error .entryMissing := by
  rw [decode, h]
  rfl

theorem hasCode (listing : Text) : HasCode listing (code? listing) := by
  by_cases hmarker : "<_main>:\n".toList <:+: listing
  · obtain ⟨head, tail, rfl, h⟩ := exists_entersAfter hmarker
    rw [code?_of_entersAfter h]
    exact .entered h
  · rw [code?_of_not_isInfix hmarker]
    by_cases hempty : isEmpty listing = true
    · rw [if_pos hempty]
      exact .empty hmarker (isEmpty_iff.1 hempty)
    · rw [if_neg hempty]
      exact .missing hmarker fun h ↦ hempty (isEmpty_iff.2 h)

theorem isNormal_of_code? (h : code? listing = some code) : IsNormal code := by
  have hcode := hasCode listing
  rw [h] at hcode
  cases hcode with
  | entered _ => exact isNormal_unindented _
  | empty _ _ => exact ⟨fun hne ↦ absurd rfl hne, rfl⟩

/-- The code of a listing is what stands behind its first entry label, unindented line by line. No
line of it is blank or indented, so that taking the code again changes nothing. -/
theorem code?_hasCode (listing : Text) :
    HasCode listing (code? listing) ∧
      (code? listing = none → (decode listing).answer = .error .entryMissing) ∧
      ∀ code, code? listing = some code →
        (code ≠ [] → ∀ l ∈ lines code, ∃ c ∈ l.head?, isBlank c = false) ∧
          code? ("<_main>:\n".toList ++ code) = some code := by
  refine ⟨hasCode listing, decode_of_code?_eq_none, ?_⟩
  intro code hcode
  have hnormal := isNormal_of_code? hcode
  have hfront : EntersAfter [] code := fun _ _ _ ↦ Nat.zero_le _
  have hagain := code?_of_entersAfter hfront
  rw [unindented_of_isNormal hnormal] at hagain
  exact ⟨hnormal.lines, hagain⟩

end

theorem code?_hasCode_indented :
    let listing := "0 <_main>:\n \n\t0:\t90 \tnop \n\n\u00a01:\tc3 \n".toList
    let code := "0:\t90 \tnop \n1:\tc3".toList
    code? listing = some code ∧ (∀ l ∈ lines code, ∃ c ∈ l.head?, isBlank c = false) ∧
      code? ("<_main>:\n".toList ++ code) = some code ∧
      code? "a.out: not found".toList = none ∧
      (decode "a.out: not found".toList).answer = .error .entryMissing := by
  intro listing code
  have hcode : code? listing = some code := by decide
  have hmissing : code? "a.out: not found".toList = none := by decide
  obtain ⟨-, -, hnormal⟩ := code?_hasCode listing
  obtain ⟨hlines, hagain⟩ := hnormal code hcode
  exact ⟨hcode, hlines (by decide), hagain, hmissing, (code?_hasCode _).2.1 hmissing⟩

end OnlineAssembler.Listing
