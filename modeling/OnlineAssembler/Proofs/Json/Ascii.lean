import Mathlib.Tactic.SplitIfs
import OnlineAssembler.Json.Basic

namespace OnlineAssembler

namespace Text

def IsAscii (t : Text) : Prop := ∀ c ∈ t, c.toNat < 0x80

section

variable {c : Char} {s t : Text}

theorem isAscii_nil : IsAscii [] := nofun

theorem IsAscii.cons (hc : c.toNat < 0x80) (h : IsAscii t) : IsAscii (c :: t) :=
  List.forall_mem_cons.2 ⟨hc, h⟩

theorem IsAscii.append (hs : IsAscii s) (ht : IsAscii t) : IsAscii (s ++ t) :=
  List.forall_mem_append.2 ⟨hs, ht⟩

theorem isAscii_flatMap {α : Type} {f : α → Text} (h : ∀ a, IsAscii (f a)) (as : List α) :
    IsAscii (as.flatMap f) := by
  intro c hc
  obtain ⟨a, -, ha⟩ := List.mem_flatMap.1 hc
  exact h a c ha

theorem isAscii_intercalate (hs : IsAscii s) {ts : List Text} (hts : ∀ t ∈ ts, IsAscii t) :
    IsAscii (List.intercalate s ts) := by
  induction ts with
  | nil => exact isAscii_nil
  | cons t ts ih =>
    obtain ⟨ht, hts⟩ := List.forall_mem_cons.1 hts
    cases ts with
    | nil => rwa [List.intercalate_singleton]
    | cons u us =>
      rw [List.intercalate_cons_cons]
      exact (ht.append hs).append (ih hts)

theorem isAscii_hexDigits (letters : LetterCase) (width n : Nat) :
    IsAscii (hexDigits letters width n) := by
  have hdigit : ∀ n < 16, (hexDigit letters n).toNat < 0x80 := by cases letters <;> decide
  induction width generalizing n with
  | zero => exact isAscii_nil
  | succ width ih =>
    exact (ih (n / 16)).append (isAscii_nil.cons (hdigit (n % 16) (Nat.mod_lt n (by decide))))

end

end Text

namespace Json

open Text (IsAscii isAscii_nil)

theorem isAscii_escapeChar (c : Char) : IsAscii (escapeChar c) := by
  have hletter {l : Char} (hl : l.toNat < 0x80) : IsAscii ['\\', l] :=
    .cons (by decide) (.cons hl isAscii_nil)
  unfold escapeChar
  split_ifs with hquote h8 h12 h10 h13 h9 hplain
  · rcases hquote with rfl | rfl
    · exact hletter (by decide)
    · exact hletter (by decide)
  · exact hletter (by decide)
  · exact hletter (by decide)
  · exact hletter (by decide)
  · exact hletter (by decide)
  · exact hletter (by decide)
  · exact .cons (Nat.lt_trans hplain.2 (by decide)) isAscii_nil
  · apply Text.isAscii_flatMap
    intro u
    exact .cons (by decide) (.cons (by decide) (Text.isAscii_hexDigits .lower 4 u.toNat))

theorem isAscii_stringLiteral (t : Text) : IsAscii (stringLiteral t) :=
  .cons (by decide) ((Text.isAscii_flatMap isAscii_escapeChar t).append
    (.cons (by decide) isAscii_nil))

theorem isAscii_recordText (fields : List (Text × Text)) : IsAscii (recordText fields) := by
  have hline (f : Text × Text) : IsAscii
      (' ' :: ' ' :: (stringLiteral f.1 ++ ':' :: ' ' :: stringLiteral f.2)) := by
    have hvalue : IsAscii (':' :: ' ' :: stringLiteral f.2) :=
      .cons (by decide) (.cons (by decide) (isAscii_stringLiteral f.2))
    exact .cons (by decide) (.cons (by decide) ((isAscii_stringLiteral f.1).append hvalue))
  have hcomma : IsAscii [',', '\n'] := .cons (by decide) (.cons (by decide) isAscii_nil)
  have hclose : IsAscii ['\n', '\x7d'] := .cons (by decide) (.cons (by decide) isAscii_nil)
  refine .cons (by decide) (.cons (by decide) (.append ?_ hclose))
  apply Text.isAscii_intercalate hcomma
  rw [List.forall_mem_map]
  exact fun f _ ↦ hline f

end Json

end OnlineAssembler
