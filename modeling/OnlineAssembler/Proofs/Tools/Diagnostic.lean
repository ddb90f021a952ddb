import OnlineAssembler.Proofs.Text.Lines
import OnlineAssembler.Proofs.Text.Search
import OnlineAssembler.Proofs.Text.Trim
import OnlineAssembler.Tools.Disassembly

namespace OnlineAssembler.Diagnostic

open Text

inductive Line
  | located (number gap message : Text)
  | unnumbered (gap message : Text)
  | banner (gap : Text)
  | foreign (line : Text)

namespace Line

def print (path : Text) : Line → Text
  | located number gap message => path ++ ':' :: (number ++ ':' :: (gap ++ message))
  | unnumbered gap message => path ++ ':' :: (gap ++ message)
  | banner gap => path ++ ':' :: (gap ++ "Assembler messages:".toList)
  | foreign line => line

def kept : Line → Text
  | located _ _ message | unnumbered _ message => message ++ ['\n']
  | banner _ => []
  | foreign line => line ++ ['\n']

def unplaced : Line → Text
  | located _ _ message | unnumbered _ message => message
  | banner _ => "Assembler messages:".toList
  | foreign line => line

end Line

/-- A text on one line that holds neither the path with a colon behind it nor, at its end, the
banner. -/
structure IsQuiet (path t : Text) : Prop where
  feed : '\n' ∉ t
  path : ¬ path ++ [':'] <:+: t
  banner : ¬ "Assembler messages:".toList <:+ t

structure IsMessage (path t : Text) : Prop extends IsQuiet path t where
  head : ∃ c ∈ t.head?, isBlank c = false

inductive Line.IsValid (path : Text) : Line → Prop
  | located {number gap message : Text} (hne : number ≠ [])
      (hnumber : number.all Char.isDigit = true)
      (hgap : gap ⊆ [' ', '\t']) (h : IsMessage path message) :
      IsValid path (.located number gap message)
  | unnumbered {gap message : Text} (hne : gap ≠ []) (hgap : gap ⊆ [' ', '\t'])
      (h : IsMessage path message) : IsValid path (.unnumbered gap message)
  | banner {gap : Text} (hgap : gap ⊆ [' ', '\t']) : IsValid path (.banner gap)
  | foreign {line : Text} (h : IsQuiet path line) : IsValid path (.foreign line)

section

variable {path gap number t : Text}

theorem isDecimal_of_isDigit {c : Char} (h : c.isDigit = true) : isDecimal c = true := by
  simp only [Char.isDigit, Bool.and_eq_true, decide_eq_true_eq, ge_iff_le,
    UInt32.le_iff_toNat_le] at h
  have hlow : 48 ≤ c.toNat := h.1
  have hhigh : c.toNat ≤ 57 := h.2
  have hzero : 48 ∈ decimalZeros := by decide
  rw [isDecimal, decimalValue?, Option.isSome_map, List.find?_isSome]
  refine ⟨48, hzero, ?_⟩
  simp only [Bool.and_eq_true, decide_eq_true_eq]
  omega

theorem all_isBlank_of_subset (h : gap ⊆ [' ', '\t']) : gap.all isBlank = true := by
  have hall : [' ', '\t'].all isBlank = true := by decide
  exact List.all_eq_true.2 fun c hc ↦ List.all_eq_true.1 hall c (h hc)

theorem dropLineNumber_number (hne : number ≠ []) (hnumber : number.all Char.isDigit = true)
    (t : Text) : dropLineNumber (number ++ ':' :: t) = t := by
  obtain ⟨d, number, rfl⟩ := List.exists_cons_of_ne_nil hne
  have hdecimal : ∀ c ∈ d :: number, isDecimal c = true := fun c hc ↦
    isDecimal_of_isDigit (List.all_eq_true.1 hnumber c hc)
  have hd := hdecimal d List.mem_cons_self
  have hall := List.all_eq_true.2 hdecimal
  have hrest : (d :: number ++ ':' :: t).dropWhile isDecimal = ':' :: t :=
    dropWhile_append_cons hall (by decide) t
  unfold dropLineNumber
  rw [hrest]
  simp [hd]

theorem dropLineNumber_of_head? (h : t.head?.any isDecimal = false) : dropLineNumber t = t := by
  unfold dropLineNumber
  rw [h]

/-- A place, with the white space behind it, goes as a whole. -/
theorem delete_place {place rest : Text} (h : trimStart (dropLineNumber (place ++ rest)) = rest) :
    delete (locationWidth path) (path ++ ':' :: (place ++ rest)) =
      delete (locationWidth path) rest := by
  have hprefix : (path ++ [':']).isPrefixOf? (path ++ ':' :: (place ++ rest)) =
      some (place ++ rest) := by
    rw [List.isPrefixOf?_eq_some_iff_append_eq]
    simp
  have hsplit : path ++ ':' :: (place ++ rest) = path ++ ':' :: place ++ rest := by simp
  have hwidth : locationWidth path (path ++ ':' :: place ++ rest) =
      (path ++ ':' :: place).length := by
    rw [← hsplit, locationWidth, hprefix]
    simp only [h, List.length_append, List.length_cons]
    omega
  rw [hsplit]
  refine delete_append_of_width_eq_length ?_ hwidth
  simp

theorem delete_quiet {l : Text} (hpath : '\n' ∉ path) (hl : ¬ path ++ [':'] <:+: l) (t : Text) :
    delete (locationWidth path) (l ++ '\n' :: t) =
      l ++ '\n' :: delete (locationWidth path) t := by
  refine delete_line fun v hv ↦ ?_
  have hnone : (path ++ [':']).isPrefixOf? (v ++ '\n' :: t) = none := by
    refine Option.eq_none_iff_forall_ne_some.2 fun rest hrest ↦ ?_
    have hprefix := List.isPrefixOf?_eq_some_iff_append_eq.1 hrest
    rcases isPrefix_or_covers ⟨rest, hprefix⟩ with h | h
    · exact hl (h.isInfix.trans hv.isInfix)
    · have hmem : '\n' ∈ path ++ [':'] := h.subset (by simp)
      simp [hpath] at hmem
  rw [locationWidth, hnone]

theorem delete_placed {place message : Text} (hpath : '\n' ∉ path)
    (hmessage : ¬ path ++ [':'] <:+: message)
    (hplace : trimStart (dropLineNumber (place ++ (message ++ '\n' :: t))) =
      message ++ '\n' :: t) :
    delete (locationWidth path) (path ++ ':' :: (place ++ message) ++ '\n' :: t) =
      message ++ '\n' :: delete (locationWidth path) t := by
  have hsplit : path ++ ':' :: (place ++ message) ++ '\n' :: t =
      path ++ ':' :: (place ++ (message ++ '\n' :: t)) := by simp
  rw [hsplit, delete_place hplace, delete_quiet hpath hmessage]

theorem remove_quiet {l : Text} (hfeed : '\n' ∉ l) (hl : ¬ "Assembler messages:".toList <:+ l)
    (t : Text) : remove banner (l ++ '\n' :: t) = l ++ '\n' :: remove banner t := by
  have hbanner : banner = "Assembler messages:".toList ++ ['\n'] := by decide
  have hno {v : Text} (hv : v <:+ l) : ¬ banner <+: v ++ '\n' :: t := by
    intro h
    rcases isPrefix_or_covers h with h | h
    · have hmem : '\n' ∈ v := h.subset (by decide)
      exact hfeed (hv.subset hmem)
    · rw [hbanner] at h
      rcases List.prefix_concat_iff.1 h with h | h
      · rw [List.append_cancel_right h] at hv
        exact hl hv
      · have hmem : '\n' ∈ "Assembler messages:".toList := h.subset (by simp)
        exact absurd hmem (by decide)
  refine delete_line fun v hv ↦ ?_
  rw [if_neg]
  simpa using hno hv

variable {l : Line}

theorem trimStart_message {message : Text} (hgap : gap ⊆ [' ', '\t'])
    (hhead : ∃ c ∈ message.head?, isBlank c = false) (t : Text) :
    trimStart (gap ++ (message ++ t)) = message ++ t := by
  obtain ⟨c, hc, hblank⟩ := hhead
  obtain ⟨message, rfl⟩ := List.head?_eq_some_iff.1 hc
  refine trimStart_append (all_isBlank_of_subset hgap) ?_
  intro d hd
  obtain rfl : c = d := Option.some.inj hd
  exact hblank

theorem isDecimal_gap (hgap : gap ⊆ [' ', '\t']) (hne : gap ≠ []) (t : Text) :
    (gap ++ t).head?.any isDecimal = false := by
  have hall : [' ', '\t'].all (fun c ↦ !isDecimal c) = true := by decide
  obtain ⟨c, gap, rfl⟩ := List.exists_cons_of_ne_nil hne
  simpa using List.all_eq_true.1 hall c (hgap List.mem_cons_self)

/-- Whatever line it is, what is left of it without its place ends where it did. -/
theorem delete_print (hpath : '\n' ∉ path) (h : l.IsValid path)
    (hbanner : ∀ gap, l = .banner gap → ¬ path <:+ "Assembler messages".toList) (t : Text) :
    delete (locationWidth path) (l.print path ++ '\n' :: t) =
      l.unplaced ++ '\n' :: delete (locationWidth path) t := by
  cases h with
  | @located number gap message hne hnumber hgap h =>
    have hplace : trimStart (dropLineNumber (number ++ ':' :: gap ++ (message ++ '\n' :: t))) =
        message ++ '\n' :: t := by
      rw [List.append_assoc, List.cons_append, dropLineNumber_number hne hnumber]
      exact trimStart_message hgap h.head _
    have hsplit : number ++ ':' :: (gap ++ message) = number ++ ':' :: gap ++ message := by simp
    rw [Line.print, hsplit]
    exact delete_placed hpath h.path hplace
  | @unnumbered gap message hne hgap h =>
    refine delete_placed hpath h.path ?_
    rw [dropLineNumber_of_head? (isDecimal_gap hgap hne _)]
    exact trimStart_message hgap h.head _
  | @banner gap hgap =>
    have hquiet : ¬ path ++ [':'] <:+: "Assembler messages:".toList := by
      intro h
      exact hbanner gap rfl (isSuffix_of_isInfix_concat (by decide) h)
    refine delete_placed hpath hquiet ?_
    rw [dropLineNumber_of_head?]
    · exact trimStart_message hgap ⟨'A', rfl, by decide⟩ _
    · by_cases hne : gap = []
      · have hletter : isDecimal 'A' = false := by decide
        rw [hne]
        exact hletter
      · exact isDecimal_gap hgap hne _
  | foreign h => exact delete_quiet hpath h.path t

theorem Line.IsValid.isQuiet (h : l.IsValid path) :
    (∃ gap, l = .banner gap) ∨ IsQuiet path l.unplaced ∧ l.kept = l.unplaced ++ ['\n'] := by
  cases h with
  | located _ _ _ h => exact .inr ⟨h.toIsQuiet, rfl⟩
  | unnumbered _ _ h => exact .inr ⟨h.toIsQuiet, rfl⟩
  | @banner gap _ => exact .inl ⟨gap, rfl⟩
  | foreign h => exact .inr ⟨h, rfl⟩

theorem remove_unplaced (h : l.IsValid path) (t : Text) :
    remove banner (l.unplaced ++ '\n' :: t) = l.kept ++ remove banner t := by
  rcases h.isQuiet with ⟨gap, rfl⟩ | ⟨hquiet, hkept⟩
  · exact remove_append (by decide) t
  · rw [hkept, remove_quiet hquiet.feed hquiet.banner]
    simp

variable {lines : List Line}

theorem delete_flatMap (hpath : '\n' ∉ path) (h : ∀ l ∈ lines, l.IsValid path)
    (hbanner : (∃ gap, .banner gap ∈ lines) → ¬ path <:+ "Assembler messages".toList) :
    delete (locationWidth path) (lines.flatMap fun l ↦ l.print path ++ ['\n']) =
      lines.flatMap fun l ↦ l.unplaced ++ ['\n'] := by
  induction lines with
  | nil => rfl
  | cons l lines ih =>
    have hl : ∀ gap, l = .banner gap → ¬ path <:+ "Assembler messages".toList := by
      rintro gap rfl
      exact hbanner ⟨gap, List.mem_cons_self⟩
    have hlines : (∃ gap, .banner gap ∈ lines) → ¬ path <:+ "Assembler messages".toList := by
      rintro ⟨gap, hgap⟩
      exact hbanner ⟨gap, List.mem_cons_of_mem l hgap⟩
    have ih := ih (fun k hk ↦ h k (List.mem_cons_of_mem l hk)) hlines
    simp only [List.flatMap_cons, List.append_assoc, List.singleton_append]
    rw [delete_print hpath (h l List.mem_cons_self) hl, ih]

theorem remove_flatMap (h : ∀ l ∈ lines, l.IsValid path) :
    remove banner (lines.flatMap fun l ↦ l.unplaced ++ ['\n']) = lines.flatMap Line.kept := by
  induction lines with
  | nil => rfl
  | cons l lines ih =>
    have ih := ih fun k hk ↦ h k (List.mem_cons_of_mem l hk)
    simp only [List.flatMap_cons, List.append_assoc, List.singleton_append]
    rw [remove_unplaced (h l List.mem_cons_self), ih]

theorem not_isInfix_kept (hpath : '\n' ∉ path) (h : ∀ l ∈ lines, l.IsValid path) :
    ¬ path ++ [':'] <:+: lines.flatMap Line.kept := by
  have hcolon : '\n' ∉ path ++ [':'] := by simp [hpath]
  induction lines with
  | nil => simp
  | cons l lines ih =>
    have ih := ih fun k hk ↦ h k (List.mem_cons_of_mem l hk)
    rw [List.flatMap_cons]
    rcases (h l List.mem_cons_self).isQuiet with ⟨gap, rfl⟩ | ⟨hquiet, hkept⟩
    · exact ih
    · rw [hkept, List.append_assoc, List.singleton_append]
      intro hinfix
      rcases isInfix_append_cons hcolon hinfix with hinfix | hinfix
      · exact hquiet.path hinfix
      · exact ih hinfix

theorem clean_indented_line (hne : path ≠ []) (h : path <:+ "Assembler messages".toList) :
    clean path (path ++ ": Assembler messages:\n\tx\n".toList) ≠ "\tx\n".toList := by
  have hall : ∀ p ∈ "Assembler messages".toList.tails, p ≠ [] →
      clean p (p ++ ": Assembler messages:\n\tx\n".toList) ≠ "\tx\n".toList := by
    decide +kernel
  exact hall path ((List.mem_tails path _).2 h) hne

end

/-- Cleaning leaves the messages and the lines about something else as they stand, and nothing
besides. Only a path in which the title of the banner ends is in the way of this, as the end of the
title is taken for a place then. -/
theorem clean_flatMap {path : Text} (hne : path ≠ []) (hpath : '\n' ∉ path) :
    (∀ lines : List Line, (∀ l ∈ lines, l.IsValid path) →
      ((∃ gap, .banner gap ∈ lines) → ¬ path <:+ "Assembler messages".toList) →
      clean path (lines.flatMap fun l ↦ l.print path ++ ['\n']) = lines.flatMap Line.kept ∧
        ¬ path ++ [':'] <:+: lines.flatMap Line.kept) ∧
    (path <:+ "Assembler messages".toList → ∃ lines : List Line, (∀ l ∈ lines, l.IsValid path) ∧
      clean path (lines.flatMap fun l ↦ l.print path ++ ['\n']) ≠ lines.flatMap Line.kept) := by
  constructor
  · intro lines hlines hbanner
    constructor
    · rw [clean, delete_flatMap hpath hlines hbanner, remove_flatMap hlines]
    · exact not_isInfix_kept hpath hlines
  · intro hsuffix
    have hforeign : IsQuiet path "\tx".toList := by
      refine ⟨by decide, fun h ↦ ?_, by decide⟩
      have hcolon : ':' ∈ "\tx".toList := h.subset (by simp)
      exact absurd hcolon (by decide)
    refine ⟨[.banner [' '], .foreign "\tx".toList], ?_, ?_⟩
    · simp only [List.forall_mem_cons]
      exact ⟨.banner (by decide), .foreign hforeign, nofun⟩
    · have h := clean_indented_line hne hsuffix
      simpa [Line.print, Line.kept] using h

theorem clean_flatMap_listed :
    let path := "/tmp/a+b.s".toList
    let lines : List Line := [.banner [' '], .located ['1', '2'] [' '] "Error: bad x:y".toList,
      .foreign "\tfrom main.s:3:".toList, .unnumbered ['\t', ' '] "3: no more".toList]
    path ≠ [] ∧ '\n' ∉ path ∧ (∀ l ∈ lines, l.IsValid path) ∧
      ¬ path <:+ "Assembler messages".toList ∧
      clean path (lines.flatMap fun l ↦ l.print path ++ ['\n']) =
        "Error: bad x:y\n\tfrom main.s:3:\n3: no more\n".toList := by
  intro path lines
  have hne : path ≠ [] := by decide
  have hpath : '\n' ∉ path := by decide
  have hsuffix : ¬ path <:+ "Assembler messages".toList := by decide
  have hlines : ∀ l ∈ lines, l.IsValid path := by
    simp only [lines, List.forall_mem_cons]
    refine ⟨.banner (by decide), .located (by decide) (by decide) (by decide) ?_,
      .foreign ?_, .unnumbered (by decide) (by decide) ?_, nofun⟩
    · exact ⟨⟨by decide, by decide, by decide⟩, 'E', rfl, by decide⟩
    · exact ⟨by decide, by decide, by decide⟩
    · exact ⟨⟨by decide, by decide, by decide⟩, '3', rfl, by decide⟩
  exact ⟨hne, hpath, hlines, hsuffix,
    ((clean_flatMap hne hpath).1 lines hlines fun _ ↦ hsuffix).1⟩

/-- A banner is not left out if its title ends in the path. -/
theorem clean_banner_of_suffix :
    ¬ ∀ (path : Text) (lines : List Line), path ≠ [] → '\n' ∉ path →
      (∀ l ∈ lines, l.IsValid path) →
      clean path (lines.flatMap fun l ↦ l.print path ++ ['\n']) = lines.flatMap Line.kept := by
  intro h
  have hlines : ∀ l ∈ [Line.banner [' ']], l.IsValid ['s'] := by
    simp only [List.forall_mem_cons]
    exact ⟨.banner (by decide), nofun⟩
  have hclean := h ['s'] [.banner [' ']] (by decide) (by decide) hlines
  exact absurd hclean (by decide)

end OnlineAssembler.Diagnostic
