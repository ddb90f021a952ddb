import OnlineAssembler.Text.Basic

namespace OnlineAssembler.Filter

/-- The directives that a source may use, in the order of their removal. Directives that repeat
or fill are not among them: they can make the assembler emit output without bound. -/
def safeDirectives : List Text :=
  [".ascii", ".asciz", ".align", ".balign", ".byte", ".int", ".double", ".quad", ".octa",
   ".word"].map String.toList

def markers : List Text := ["#NO_APP", "#APP"].map String.toList

/-- The source without the safe directives. Each directive in turn is removed as plain text, so
one removal can bring the parts of a later directive together. -/
def strip (source : Text) : Text :=
  safeDirectives.foldl (fun t d ↦ Text.remove d t) source

inductive Verdict
  | accepted
  | marker (m : Text)
  | directive
deriving DecidableEq, Repr

/-- A full stop that is left after the safe directives are gone counts as a directive, also
inside a string constant. -/
def verdict (source : Text) : Verdict :=
  match markers.find? (Text.occursIn · (strip source)) with
  | some m => .marker m
  | none => if '.' ∈ strip source then .directive else .accepted

def IsSafe (source : Text) : Prop := verdict source = .accepted

instance (source : Text) : Decidable (IsSafe source) :=
  inferInstanceAs (Decidable (verdict source = .accepted))

theorem isSafe_iff {source : Text} :
    IsSafe source ↔
      (∀ m ∈ markers, Text.occursIn m (strip source) = false) ∧ '.' ∉ strip source := by
  unfold IsSafe verdict
  split
  · rename_i m h
    have hm := List.find?_some h
    refine ⟨nofun, fun hs ↦ ?_⟩
    simp [hs.1 m (List.mem_of_find?_eq_some h)] at hm
  · rename_i h
    simp only [List.find?_eq_none, Bool.not_eq_true] at h
    by_cases hd : '.' ∈ strip source
    · simp [hd]
    · simp only [hd, if_false, not_false_eq_true, and_true, true_iff]
      exact h

end OnlineAssembler.Filter
