import Mathlib.Data.List.Forall2
import OnlineAssembler.Proofs.Listing.Run
import OnlineAssembler.Proofs.Text.Search
import OnlineAssembler.Proofs.Text.Trim

namespace OnlineAssembler.MachineCode

open Text

def isUpperHexDigit (c : Char) : Bool := ('0' ≤ c && c ≤ '9') || ('A' ≤ c && c ≤ 'F')

inductive IsPair (b : UInt8) : Text → Prop
  | digits {high low : Char} : isUpperHexDigit high = true → isUpperHexDigit low = true →
      byteOfDigits? high low = some b → IsPair b [high, low]

def IsMarked (mark : Text) (b : UInt8) (t : Text) : Prop := ∃ pair, t = mark ++ pair ∧ IsPair b pair

structure IsBoldUnit (b : UInt8) (t : Text) : Prop where
  bold : t = "<b>00</b>".toList ↔ b = 0
  pair : b ≠ 0 → IsPair b t

def withoutTags (t : Text) : Text := remove "</b>".toList (remove "<b>".toList t)

def ofHex? : Text → Option MachineCode
  | [] => some []
  | [_] => none
  | high :: low :: t => do
    let b ← byteOfDigits? high low
    let bytes ← ofHex? t
    some (b :: bytes)

/-- The items between the braces of an initializer list, without the white space around them. -/
def items (t : Text) : List Text := if trim t = [] then [] else (t.splitOn ',').map trim

def ofStringLiteral? : Text → Option MachineCode
  | [] => some []
  | '\\' :: 'x' :: high :: low :: t => do
    let b ← byteOfDigits? high low
    let bytes ← ofStringLiteral? t
    some (b :: bytes)
  | _ => none

def ofItem? : Text → Option UInt8
  | ['0', 'x', high, low] => byteOfDigits? high low
  | _ => none

def ofArrayLiteral? : Text → Option MachineCode
  | '{' :: t => if t.getLast? = some '}' then (items t.dropLast).mapM ofItem? else none
  | _ => none

inductive Rendering
  | hex
  | hexZeroBold
  | stringLiteral
  | arrayLiteral
deriving DecidableEq, Repr

namespace Rendering

def write : Rendering → MachineCode → Text
  | hex => MachineCode.hex
  | hexZeroBold => MachineCode.hexZeroBold
  | stringLiteral => MachineCode.stringLiteral
  | arrayLiteral => MachineCode.arrayLiteral

def read? : Rendering → Text → Option MachineCode
  | hex, t => ofHex? t
  | hexZeroBold, t => ofHex? (withoutTags t)
  | stringLiteral, t => ofStringLiteral? t
  | arrayLiteral, t => ofArrayLiteral? t

def convert? (r s : Rendering) (t : Text) : Option Text := (r.read? t).map s.write

end Rendering

section

variable {b : UInt8} {c : Char} {t : Text} {bytes : MachineCode}

theorem isPair_digits (b : UInt8) : IsPair b (digits b) := by
  have hupper : ∀ n < 16, isUpperHexDigit (hexDigit .upper n) = true := by decide
  have hb := b.toNat_lt
  have hhigh : b.toNat / 16 < 16 := by omega
  have hlow : b.toNat % 16 < 16 := by omega
  rw [digits, hexDigits_two]
  exact .digits (hupper _ hhigh) (hupper _ hlow) (byteOfDigits?_hexDigit .upper b)

theorem IsPair.length_eq (h : IsPair b t) : t.length = 2 := by
  cases h
  rfl

theorem IsPair.isUpperHexDigit (h : IsPair b t) : ∀ c ∈ t, isUpperHexDigit c = true := by
  cases h with
  | digits hhigh hlow hb =>
    rw [List.forall_mem_cons, List.forall_mem_singleton]
    exact ⟨hhigh, hlow⟩

theorem not_mem_digits (hc : isUpperHexDigit c = false) (b : UInt8) : c ∉ digits b := by
  intro hmem
  rw [(isPair_digits b).isUpperHexDigit c hmem] at hc
  cases hc

theorem ofHex?_append (h : IsPair b t) (u : Text) :
    ofHex? (t ++ u) = (ofHex? u).map (b :: ·) := by
  cases h with
  | @digits high low hhigh hlow hb =>
    rw [List.cons_append, List.cons_append, List.nil_append, ofHex?, hb]
    cases ofHex? u <;> rfl

theorem hex_cons (b : UInt8) (bytes : MachineCode) : hex (b :: bytes) = digits b ++ hex bytes := rfl

theorem ofHex?_hex (bytes : MachineCode) : ofHex? (hex bytes) = some bytes := by
  induction bytes with
  | nil => rfl
  | cons b bytes ih => rw [hex_cons, ofHex?_append (isPair_digits b), ih, Option.map_some]

theorem length_flatMap_eq {f : UInt8 → Text} {n : Nat} (h : ∀ b, (f b).length = n)
    (bytes : MachineCode) : (bytes.flatMap f).length = n * bytes.length := by
  induction bytes with
  | nil => rfl
  | cons b bytes ih =>
    rw [List.flatMap_cons, List.length_append, h, ih, List.length_cons, Nat.mul_succ, Nat.add_comm]

/-- A rendering of byte after byte falls apart into what stands for each of them. -/
theorem exists_units {f : UInt8 → Text} {R : UInt8 → Text → Prop} (h : ∀ b, R b (f b))
    (bytes : MachineCode) :
    ∃ units, bytes.flatMap f = units.flatten ∧ List.Forall₂ R bytes units := by
  refine ⟨bytes.map f, List.flatMap_def .., ?_⟩
  rw [List.forall₂_map_right_iff, List.forall₂_same]
  exact fun b _ ↦ h b

def boldUnit (b : UInt8) : Text := if b = 0 then "<b>00</b>".toList else digits b

def closingUnit (b : UInt8) : Text := if b = 0 then "00</b>".toList else digits b

theorem isBoldUnit_boldUnit (b : UInt8) : IsBoldUnit b (boldUnit b) := by
  by_cases hb : b = 0
  · rw [boldUnit, if_pos hb]
    exact ⟨iff_of_true rfl hb, fun h ↦ absurd hb h⟩
  · rw [boldUnit, if_neg hb]
    refine ⟨iff_of_false (fun h ↦ ?_) hb, fun _ ↦ isPair_digits b⟩
    have hlength := (isPair_digits b).length_eq
    rw [h] at hlength
    cases hlength

theorem remove_flatMap_units {p : Text} {f g : UInt8 → Text}
    (h : ∀ b t, remove p (f b ++ t) = g b ++ remove p t) (bytes : MachineCode) :
    remove p (bytes.flatMap f) = bytes.flatMap g := by
  induction bytes with
  | nil => rfl
  | cons b bytes ih => rw [List.flatMap_cons, h, ih, List.flatMap_cons]

theorem remove_opening (b : UInt8) (t : Text) :
    remove "<b>".toList (boldUnit b ++ t) = closingUnit b ++ remove "<b>".toList t := by
  by_cases hb : b = 0
  · have hclosing : ¬ "<b>".toList <+: '<' :: ("/b>".toList ++ t) := by
      intro h
      exact absurd (List.cons_prefix_cons.1 (List.cons_prefix_cons.1 h).2).1 (by decide)
    rw [boldUnit, closingUnit, if_pos hb, if_pos hb]
    calc remove "<b>".toList ("<b>".toList ++ ("00".toList ++ '<' :: ("/b>".toList ++ t)))
      _ = remove "<b>".toList ("00".toList ++ '<' :: ("/b>".toList ++ t)) :=
        remove_append (by decide) _
      _ = "00".toList ++ remove "<b>".toList ('<' :: ("/b>".toList ++ t)) :=
        remove_append_of_not_mem (by decide) _ _
      _ = "00".toList ++ '<' :: remove "<b>".toList ("/b>".toList ++ t) := by
        rw [remove_cons hclosing]
      _ = "00".toList ++ '<' :: ("/b>".toList ++ remove "<b>".toList t) :=
        congrArg (fun u ↦ "00".toList ++ '<' :: u) (remove_append_of_not_mem (by decide) _ _)
  · rw [boldUnit, closingUnit, if_neg hb, if_neg hb]
    exact remove_append_of_not_mem (not_mem_digits (by decide) b) _ _

theorem remove_closing (b : UInt8) (t : Text) :
    remove "</b>".toList (closingUnit b ++ t) = digits b ++ remove "</b>".toList t := by
  by_cases hb : b = 0
  · rw [closingUnit, if_pos hb, hb]
    calc remove "</b>".toList ("00".toList ++ ("</b>".toList ++ t))
      _ = "00".toList ++ remove "</b>".toList ("</b>".toList ++ t) :=
        remove_append_of_not_mem (by decide) _ _
      _ = digits 0 ++ remove "</b>".toList t :=
        congrArg ("00".toList ++ ·) (remove_append (by decide) _)
  · rw [closingUnit, if_neg hb]
    exact remove_append_of_not_mem (not_mem_digits (by decide) b) _ _

theorem withoutTags_hexZeroBold (bytes : MachineCode) :
    withoutTags (hexZeroBold bytes) = hex bytes := by
  have hopening : remove "<b>".toList (hexZeroBold bytes) = bytes.flatMap closingUnit :=
    remove_flatMap_units remove_opening bytes
  rw [withoutTags, hopening, remove_flatMap_units remove_closing, hex]

theorem ofStringLiteral?_append (h : IsPair b t) (u : Text) :
    ofStringLiteral? ('\\' :: 'x' :: (t ++ u)) = (ofStringLiteral? u).map (b :: ·) := by
  cases h with
  | @digits high low hhigh hlow hb =>
    rw [List.cons_append, List.cons_append, List.nil_append, ofStringLiteral?, hb]
    cases ofStringLiteral? u <;> rfl

theorem ofStringLiteral?_stringLiteral (bytes : MachineCode) :
    ofStringLiteral? (stringLiteral bytes) = some bytes := by
  induction bytes with
  | nil => rfl
  | cons b bytes ih =>
    have hcons : stringLiteral (b :: bytes) =
      '\\' :: 'x' :: (digits b ++ stringLiteral bytes) := rfl
    rw [hcons, ofStringLiteral?_append (isPair_digits b), ih, Option.map_some]

def item (b : UInt8) : Text := '0' :: 'x' :: digits b

theorem ofItem?_item (b : UInt8) : ofItem? (item b) = some b := by
  have h : ∀ t, IsPair b t → ofItem? ('0' :: 'x' :: t) = some b := by
    intro t ht
    cases ht with
    | digits hhigh hlow hb => exact hb
  exact h (digits b) (isPair_digits b)

theorem IsPair.isBlank (h : IsPair b t) : ∀ c ∈ t, isBlank c = false := by
  cases h with
  | digits hhigh hlow hb =>
    obtain ⟨hhigh, hlow⟩ := isHexDigit_of_byteOfDigits? hb
    rw [List.forall_mem_cons, List.forall_mem_singleton]
    exact ⟨isBlank_of_isHexDigit hhigh, isBlank_of_isHexDigit hlow⟩

theorem isTrimmed_item (b : UInt8) : IsTrimmed (item b) := by
  have hblank : ∀ c ∈ item b, isBlank c = false := by
    rw [item, List.forall_mem_cons, List.forall_mem_cons]
    exact ⟨by decide, by decide, (isPair_digits b).isBlank⟩
  exact ⟨fun c hc ↦ hblank c (List.mem_of_mem_head? hc),
    fun c hc ↦ hblank c (List.mem_of_mem_getLast? hc)⟩

theorem trim_item (b : UInt8) {gap : Text} (hgap : gap.all isBlank = true) :
    trim (' ' :: (item b ++ gap)) = item b := by
  have hne : item b ≠ [] := List.cons_ne_nil _ _
  have h : trim ([' '] ++ (item b ++ gap)) = item b :=
    (isTrimmed_item b).trim_append hne (by decide) hgap
  exact h

def inside (bytes : MachineCode) : Text :=
  List.intercalate [','] (bytes.map fun b ↦ ' ' :: item b) ++ [' ']

theorem inside_cons_cons (b e : UInt8) (bytes : MachineCode) :
    inside (b :: e :: bytes) = ' ' :: item b ++ ',' :: inside (e :: bytes) := by
  rw [inside, List.map_cons, List.map_cons, List.intercalate_cons_cons, List.append_assoc,
    List.append_assoc]
  rfl

theorem beq_comma_of_mem_item (b : UInt8) {gap : Text} (hgap : ',' ∉ gap) :
    ∀ c ∈ ' ' :: (item b ++ gap), (c == ',') = false := by
  have hitem : ',' ∉ item b := by
    rw [item, List.mem_cons, List.mem_cons, not_or, not_or]
    exact ⟨by decide, by decide, not_mem_digits (by decide) b⟩
  intro c hc
  rw [beq_eq_false_iff_ne]
  rintro rfl
  rcases List.mem_append.1 (List.mem_of_ne_of_mem (by decide) hc) with h | h
  · exact hitem h
  · exact hgap h

theorem map_trim_splitOn_inside (b : UInt8) (bytes : MachineCode) :
    ((inside (b :: bytes)).splitOn ',').map trim = (b :: bytes).map item := by
  have hend : (fun c ↦ c == ',') ',' = true := rfl
  rw [List.splitOn_eq_splitOnP]
  induction bytes generalizing b with
  | nil =>
    have hlast : inside [b] = ' ' :: (item b ++ [' ']) := rfl
    rw [hlast, List.splitOnP_eq_singleton (beq_comma_of_mem_item b (by decide)), List.map_singleton,
      trim_item b (by decide), List.map_singleton]
  | cons e bytes ih =>
    have hcomma := beq_comma_of_mem_item b List.not_mem_nil
    have htrim : trim (' ' :: (item b ++ [])) = item b := trim_item b rfl
    rw [List.append_nil] at hcomma htrim
    rw [inside_cons_cons, List.splitOnP_append_cons_of_forall_mem hcomma ',' hend, List.map_cons,
      ih e, htrim, List.map_cons, List.map_cons, List.map_cons]

theorem arrayLiteral_eq (bytes : MachineCode) :
    arrayLiteral bytes = '{' :: (inside bytes ++ ['}']) := by
  rw [arrayLiteral, inside, List.append_assoc]
  rfl

theorem items_inside (bytes : MachineCode) : items (inside bytes) = bytes.map item := by
  cases bytes with
  | nil => rfl
  | cons b bytes =>
    have hfront : ∃ t, inside (b :: bytes) = ' ' :: '0' :: t := by
      cases bytes with
      | nil => exact ⟨_, rfl⟩
      | cons e bytes => exact ⟨_, inside_cons_cons b e bytes⟩
    have hne : trim (inside (b :: bytes)) ≠ [] := by
      obtain ⟨t, ht⟩ := hfront
      rw [ht]
      exact trimEnd_cons_ne_nil (by decide) t
    rw [items, if_neg hne, map_trim_splitOn_inside]

theorem ofArrayLiteral?_arrayLiteral (bytes : MachineCode) :
    ofArrayLiteral? (arrayLiteral bytes) = some bytes := by
  have hitems : (bytes.map item).mapM ofItem? = some bytes := by
    induction bytes with
    | nil => rfl
    | cons b bytes ih =>
      rw [List.map_cons, List.mapM_cons, ofItem?_item, ih]
      rfl
  rw [arrayLiteral_eq, ofArrayLiteral?, if_pos List.getLast?_concat, List.dropLast_concat,
    items_inside, hitems]

theorem Rendering.read?_write (r : Rendering) (bytes : MachineCode) :
    r.read? (r.write bytes) = some bytes := by
  cases r with
  | hex => exact ofHex?_hex bytes
  | hexZeroBold => exact (congrArg ofHex? (withoutTags_hexZeroBold bytes)).trans (ofHex?_hex bytes)
  | stringLiteral => exact ofStringLiteral?_stringLiteral bytes
  | arrayLiteral => exact ofArrayLiteral?_arrayLiteral bytes

theorem Rendering.write_injective (r : Rendering) : Function.Injective r.write := by
  intro a b h
  have hread := congrArg r.read? h
  rw [r.read?_write, r.read?_write] at hread
  exact Option.some.inj hread

end

/-- The four renderings lose nothing. Each of them is made of what stands for byte after byte, in
digits that are read as that byte, and from each the other three can be made again. In bold no
character stands but digits, outside the tags around zero bytes. -/
theorem renderings_lossless (bytes : MachineCode) :
    ((hex bytes).length = 2 * bytes.length ∧ (hex bytes).all isUpperHexDigit = true ∧
      ofHex? (hex bytes) = some bytes) ∧
    ((∃ units, hexZeroBold bytes = units.flatten ∧ List.Forall₂ IsBoldUnit bytes units) ∧
      withoutTags (hexZeroBold bytes) = hex bytes) ∧
    ((stringLiteral bytes).length = 4 * bytes.length ∧
      ∃ groups, stringLiteral bytes = groups.flatten ∧
        List.Forall₂ (IsMarked "\\x".toList) bytes groups) ∧
    (∃ t, arrayLiteral bytes = '{' :: (t ++ ['}']) ∧
      List.Forall₂ (IsMarked "0x".toList) bytes (items t)) ∧
    (∀ r : Rendering, Function.Injective r.write) ∧
    ∀ r s : Rendering, r.convert? s (r.write bytes) = some (s.write bytes) := by
  have hmarked (mark : Text) (b : UInt8) : IsMarked mark b (mark ++ digits b) :=
    ⟨digits b, rfl, isPair_digits b⟩
  refine ⟨⟨?_, ?_, ofHex?_hex bytes⟩, ⟨?_, withoutTags_hexZeroBold bytes⟩, ⟨?_, ?_⟩, ?_,
    Rendering.write_injective, ?_⟩
  · exact length_flatMap_eq (fun b ↦ (isPair_digits b).length_eq) bytes
  · rw [hex, List.all_flatMap, List.all_eq_true]
    exact fun b _ ↦ List.all_eq_true.2 (isPair_digits b).isUpperHexDigit
  · exact exists_units isBoldUnit_boldUnit bytes
  · refine length_flatMap_eq (fun b ↦ ?_) bytes
    rw [List.length_cons, List.length_cons, (isPair_digits b).length_eq]
  · exact exists_units (hmarked "\\x".toList) bytes
  · refine ⟨inside bytes, arrayLiteral_eq bytes, ?_⟩
    rw [items_inside, List.forall₂_map_right_iff, List.forall₂_same]
    exact fun b _ ↦ hmarked "0x".toList b
  · intro r s
    rw [Rendering.convert?, r.read?_write, Option.map_some]

theorem renderings_lossless_nibbles :
    Rendering.convert? .hexZeroBold .arrayLiteral "A00B<b>00</b>".toList =
      some "\x7b 0xA0, 0x0B, 0x00 \x7d".toList := by
  obtain ⟨-, -, -, -, -, hconvert⟩ := renderings_lossless [0xA0, 0x0B, 0x00]
  exact hconvert .hexZeroBold .arrayLiteral

end OnlineAssembler.MachineCode
