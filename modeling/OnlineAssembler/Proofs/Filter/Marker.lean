import OnlineAssembler.Proofs.Filter.Language

namespace OnlineAssembler.Filter

open Text (Inserted Spread)

section

variable {d m t w : Text}

theorem isAnyToken_of_mem (hd : d ∈ safeDirectives) : IsAnyToken safeDirectives d :=
  (isDotted_of_mem_safeDirectives d hd).isAnyToken hd

theorem strip_of_inserted (hw : '.' ∉ w) (h : Inserted (IsAnyToken safeDirectives) w t) :
    strip t = w := by
  rw [strip_eq_removeEach]
  refine (removeEach_eq_iff isDotted_of_mem_safeDirectives pairwise_safeDirectives ?_).2 h
  intro d hd
  exact not_isInfix_of_not_mem hd hw

theorem strip_append_spread (hm : ∀ d ∈ safeDirectives, m.all (· ∉ d) = true)
    (h : Spread (IsAnyToken safeDirectives) m t) (x y : Text) :
    strip (x ++ (t ++ y)) = strip x ++ (m ++ strip y) := by
  cases h with
  | @between c e s t h =>
    have hapart {f : Char} (hf : f ∈ c :: (s ++ [e])) : ∀ d ∈ safeDirectives, f ∉ d :=
      fun d hd ↦ of_decide_eq_true (List.all_eq_true.1 (hm d hd) f hf)
    have hdot : '.' ∉ s := by
      intro hs
      have hmem : '.' ∈ c :: (s ++ [e]) := List.mem_cons_of_mem c (List.mem_append_left [e] hs)
      exact hapart hmem ".byte".toList (by decide) (by decide)
    have hc := hapart List.mem_cons_self
    have he : ∀ d ∈ safeDirectives, e ∉ d := hapart (by simp)
    -- The two ends keep what is inside apart from all that stands around.
    calc strip (x ++ (c :: (t ++ [e]) ++ y))
      _ = strip (x ++ c :: (t ++ e :: y)) := by simp
      _ = strip x ++ c :: (strip t ++ e :: strip y) := by
        rw [strip_append_cons_of_forall hc, strip_append_cons_of_forall he]
      _ = strip x ++ c :: (s ++ e :: strip y) := by rw [strip_of_inserted hdot h]
      _ = strip x ++ (c :: (s ++ [e]) ++ strip y) := by simp

theorem exists_verdict_eq_marker {source : Text} (hm : m ∈ markers) (h : m <:+: strip source) :
    ∃ k ∈ markers, verdict source = .marker k := by
  cases hk : markers.find? (Text.occursIn · (strip source)) with
  | none =>
    have hno := List.find?_eq_none.1 hk m hm
    exact absurd (Text.occursIn_iff.2 h) hno
  | some k =>
    refine ⟨k, List.mem_of_find?_eq_some hk, ?_⟩
    rw [verdict, hk]

theorem exists_verdict_of_spread (hm : m ∈ markers) (h : Spread (IsAnyToken safeDirectives) m t)
    (x y : Text) : ∃ k ∈ markers, verdict (x ++ (t ++ y)) = .marker k := by
  have hapart : ∀ m ∈ markers, ∀ d ∈ safeDirectives, m.all (· ∉ d) = true := by decide
  apply exists_verdict_eq_marker hm
  rw [strip_append_spread (hapart m hm) h]
  exact ⟨strip x, strip y, List.append_assoc _ _ _⟩

/-- A marker does not get past the filter, and neither does one with safe directives between its
characters. -/
theorem not_isSafe_of_spread (hm : m = "#APP".toList ∨ m = "#NO_APP".toList)
    (h : Spread (· ∈ safeDirectives) m t) (x y : Text) :
    ¬ IsSafe (x ++ (t ++ y)) ∧ (∃ k ∈ markers, verdict (x ++ (t ++ y)) = .marker k) ∧
      ∀ source, IsSafe source → ¬ m <:+: source := by
  have hmem : m ∈ markers := by
    rcases hm with rfl | rfl
    · decide
    · decide
  have hlength : ∀ m ∈ markers, 2 ≤ m.length := by decide
  have hreject {t : Text} (h : Spread (IsAnyToken safeDirectives) m t) (x y : Text) :
      ¬ IsSafe (x ++ (t ++ y)) := by
    intro hsafe
    obtain ⟨k, -, hk⟩ := exists_verdict_of_spread hmem h x y
    rw [IsSafe, hk] at hsafe
    cases hsafe
  have htokens : Spread (IsAnyToken safeDirectives) m t := h.mono fun d ↦ isAnyToken_of_mem
  refine ⟨hreject htokens x y, exists_verdict_of_spread hmem htokens x y, ?_⟩
  rintro source hsafe ⟨a, b, rfl⟩
  rw [List.append_assoc] at hsafe
  exact hreject (Spread.refl (hlength m hmem)) a b hsafe

end

/-- The marker `#APP` with three directives inside, between the halves of a fourth one. -/
theorem not_isSafe_of_spread_halves :
    Spread (· ∈ safeDirectives) "#APP".toList "#.byteA.int.wordPP".toList ∧
      ¬ IsSafe (".as".toList ++ ("#.byteA.int.wordPP".toList ++ "cii".toList)) := by
  have hbyte : ".byte".toList ∈ safeDirectives := by decide
  have hint : ".int".toList ∈ safeDirectives := by decide
  have hword : ".word".toList ∈ safeDirectives := by decide
  have h : Spread (· ∈ safeDirectives) "#APP".toList "#.byteA.int.wordPP".toList :=
    .between '#' 'P' (.insert hbyte (.char 'A' (.insert hint (.insert hword (.char 'P' .nil)))))
  exact ⟨h, (not_isSafe_of_spread (.inl rfl) h ".as".toList "cii".toList).1⟩

end OnlineAssembler.Filter
