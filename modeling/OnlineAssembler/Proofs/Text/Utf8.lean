import Mathlib.Data.List.Infix
import OnlineAssembler.Text.CodePoint

namespace OnlineAssembler

theorem Char.toNat_ofNat {n : Nat} (h : n.isValidChar) : (Char.ofNat n).toNat = n := by
  rw [Char.ofNat, dif_pos h]
  rfl

theorem CodePoint.toNat_of_ofNat? {n : Nat} {c : Char} (h : ofNat? n = some (char c)) :
    c.toNat = n := by
  unfold ofNat? at h
  split_ifs at h with hn
  · obtain rfl := CodePoint.char.inj (Option.some.inj h)
    exact Char.toNat_ofNat hn
  · cases Option.some.inj h

theorem CodePoint.ofNat?_toNat {c : Char} {n : Nat} (h : c.toNat = n) :
    ofNat? n = some (char c) := by
  have hvalid : n.isValidChar := h ▸ c.valid
  unfold ofNat?
  rw [if_pos hvalid, ← h, Char.ofNat_toNat]

namespace Utf8

theorem tail?_eq_some_iff {b : UInt8} {n : Nat} :
    tail? b = some n ↔ 0x80 ≤ b.toNat ∧ b.toNat < 0xC0 ∧ n = b.toNat - 0x80 := by
  unfold tail?
  split_ifs with h
  · simp [h, eq_comm]
  · simp only [false_iff]
    omega

theorem ofNat_eq {n : Nat} {b : UInt8} (h : n = b.toNat) : UInt8.ofNat n = b := by
  rw [h, UInt8.ofNat_toNat]

section

variable {a b c d : UInt8} {e : Char}

theorem encodeChar_one (ha : a.toNat < 0x80) (he : e.toNat = a.toNat) : encodeChar e = [a] := by
  unfold encodeChar
  simp only [he]
  rw [if_pos ha, ofNat_eq rfl]

theorem encodeChar_two (ha : 0xC2 ≤ a.toNat) (ha' : a.toNat < 0xE0) (hb : 0x80 ≤ b.toNat)
    (hb' : b.toNat < 0xC0) (he : e.toNat = (a.toNat - 0xC0) * 64 + (b.toNat - 0x80)) :
    encodeChar e = [a, b] := by
  unfold encodeChar
  simp only
  rw [if_neg (by omega), if_pos (by omega), ofNat_eq (b := a) (by omega),
    ofNat_eq (b := b) (by omega)]

theorem encodeChar_three (ha : 0xE0 ≤ a.toNat) (ha' : a.toNat < 0xF0) (hb : 0x80 ≤ b.toNat)
    (hb' : b.toNat < 0xC0) (hc : 0x80 ≤ c.toNat) (hc' : c.toNat < 0xC0) (hle : 0x800 ≤ e.toNat)
    (he : e.toNat = (a.toNat - 0xE0) * 0x1000 + (b.toNat - 0x80) * 64 + (c.toNat - 0x80)) :
    encodeChar e = [a, b, c] := by
  unfold encodeChar
  simp only
  rw [if_neg (by omega), if_neg (by omega), if_pos (by omega), ofNat_eq (b := a) (by omega),
    ofNat_eq (b := b) (by omega), ofNat_eq (b := c) (by omega)]

theorem encodeChar_four (ha : 0xF0 ≤ a.toNat) (hb : 0x80 ≤ b.toNat) (hb' : b.toNat < 0xC0)
    (hc : 0x80 ≤ c.toNat) (hc' : c.toNat < 0xC0) (hd : 0x80 ≤ d.toNat) (hd' : d.toNat < 0xC0)
    (hle : 0x10000 ≤ e.toNat)
    (he : e.toNat = (a.toNat - 0xF0) * 0x40000 + (b.toNat - 0x80) * 0x1000 +
      (c.toNat - 0x80) * 64 + (d.toNat - 0x80)) :
    encodeChar e = [a, b, c, d] := by
  unfold encodeChar
  simp only
  rw [if_neg (by omega), if_neg (by omega), if_neg (by omega), ofNat_eq (b := a) (by omega),
    ofNat_eq (b := b) (by omega), ofNat_eq (b := c) (by omega), ofNat_eq (b := d) (by omega)]

end

theorem ofText_eq_cons {t : Text} {p : CodePoint} {s : CodeText}
    (h : p :: s = CodeText.ofText t) : ∃ c u, t = c :: u ∧ p = .char c ∧ s = .ofText u := by
  cases t with
  | nil => cases h
  | cons c u =>
    obtain ⟨hp, hs⟩ := List.cons.inj h
    exact ⟨c, u, rfl, hp, hs⟩

theorem encode_cons (c : Char) (t : Text) : encode (c :: t) = encodeChar c ++ encode t := rfl

/-- Only the encoding of a text is read as that text. -/
theorem eq_encode_of_decodeLoose {bytes : List UInt8} {t : Text}
    (h : decodeLoose bytes = some (.ofText t)) : bytes = encode t := by
  induction bytes using decodeLoose.induct generalizing t with
  | case1 =>
    cases t with
    | nil => rfl
    | cons c t => cases h
  | case2 a bytes ha ih =>
    unfold decodeLoose at h
    rw [if_pos ha] at h
    obtain ⟨s, hs, hst⟩ := Option.map_eq_some_iff.1 h
    obtain ⟨c, u, rfl, hc, rfl⟩ := ofText_eq_cons hst
    have hn : c.toNat = a.toNat := by
      obtain rfl := CodePoint.char.inj hc
      exact Char.toNat_ofNat (.inl (by omega))
    rw [encode_cons, encodeChar_one ha hn, ← ih hs]
    rfl
  | case4 a h₁ h₂ h₃ b bytes ih =>
    unfold decodeLoose at h
    rw [if_neg h₁, if_neg h₂, if_pos h₃] at h
    simp only [Option.bind_eq_bind, Option.bind_eq_some_iff, Option.map_eq_some_iff,
      tail?_eq_some_iff] at h
    obtain ⟨m, ⟨hb, hb', hm⟩, p, hp, s, hs, hst⟩ := h
    obtain ⟨e, u, rfl, rfl, rfl⟩ := ofText_eq_cons hst
    have he := CodePoint.toNat_of_ofNat? hp
    rw [encode_cons, encodeChar_two (by omega) h₃ hb hb' (by omega), ← ih hs]
    rfl
  | case6 a h₁ h₂ h₃ h₄ b c bytes ih =>
    unfold decodeLoose at h
    rw [if_neg h₁, if_neg h₂, if_neg h₃, if_pos h₄] at h
    simp only [Option.bind_eq_bind, Option.bind_eq_some_iff, tail?_eq_some_iff] at h
    obtain ⟨m, ⟨hb, hb', hm⟩, n, ⟨hc, hc', hn⟩, h⟩ := h
    split_ifs at h with hle
    simp only [Option.bind_eq_some_iff, Option.map_eq_some_iff] at h
    obtain ⟨s, hs, p, hp, hst⟩ := h
    obtain ⟨e, u, rfl, rfl, rfl⟩ := ofText_eq_cons hst
    have he := CodePoint.toNat_of_ofNat? hp
    have hchar : encodeChar e = [a, b, c] :=
      encodeChar_three (by omega) h₄ hb hb' hc hc' (by omega) (by omega)
    rw [encode_cons, hchar, ← ih hs]
    rfl
  | case8 a h₁ h₂ h₃ h₄ h₅ b c d bytes ih =>
    unfold decodeLoose at h
    rw [if_neg h₁, if_neg h₂, if_neg h₃, if_neg h₄, if_pos h₅] at h
    simp only [Option.bind_eq_bind, Option.bind_eq_some_iff, tail?_eq_some_iff] at h
    obtain ⟨m, ⟨hb, hb', hm⟩, n, ⟨hc, hc', hn⟩, k, ⟨hd, hd', hk⟩, h⟩ := h
    split_ifs at h with hle
    simp only [Option.bind_eq_some_iff, Option.map_eq_some_iff] at h
    obtain ⟨s, hs, p, hp, hst⟩ := h
    obtain ⟨e, u, rfl, rfl, rfl⟩ := ofText_eq_cons hst
    have he := CodePoint.toNat_of_ofNat? hp
    have hchar : encodeChar e = [a, b, c, d] :=
      encodeChar_four (by omega) hb hb' hc hc' hd hd' (by omega) (by rw [he, hm, hn, hk])
    rw [encode_cons, hchar, ← ih hs]
    rfl
  | case3 a bytes h₁ h₂ =>
    unfold decodeLoose at h
    rw [if_neg h₁, if_pos h₂] at h
    cases h
  | case5 a bytes h₁ h₂ h₃ hno =>
    unfold decodeLoose at h
    rw [if_neg h₁, if_neg h₂, if_pos h₃] at h
    split at h
    · exact absurd rfl (hno _ _)
    · cases h
  | case7 a bytes h₁ h₂ h₃ h₄ hno =>
    unfold decodeLoose at h
    rw [if_neg h₁, if_neg h₂, if_neg h₃, if_pos h₄] at h
    split at h
    · exact absurd rfl (hno _ _ _)
    · cases h
  | case9 a bytes h₁ h₂ h₃ h₄ h₅ hno =>
    unfold decodeLoose at h
    rw [if_neg h₁, if_neg h₂, if_neg h₃, if_neg h₄, if_pos h₅] at h
    split at h
    · exact absurd rfl (hno _ _ _ _)
    · cases h
  | case10 a bytes h₁ h₂ h₃ h₄ h₅ =>
    unfold decodeLoose at h
    rw [if_neg h₁, if_neg h₂, if_neg h₃, if_neg h₄, if_neg h₅] at h
    cases h

theorem eq_encode_of_decode {bytes : List UInt8} {t : Text} (h : decode bytes = some t) :
    bytes = encode t := by
  obtain ⟨s, hs, hst⟩ := Option.bind_eq_some_iff.1 h
  obtain rfl := CodeText.toText?_eq_some_iff.1 hst
  exact eq_encode_of_decodeLoose hs

section

variable {a b c d : UInt8} {e : Char}

theorem decodeLoose_one (ha : a.toNat < 0x80) (he : e.toNat = a.toNat) (bytes : List UInt8) :
    decodeLoose (a :: bytes) = (decodeLoose bytes).map (.char e :: ·) := by
  rw [decodeLoose.eq_def]
  simp only [if_pos ha]
  rw [← he, Char.ofNat_toNat]

theorem decodeLoose_two (ha : 0xC2 ≤ a.toNat) (ha' : a.toNat < 0xE0) (hb : 0x80 ≤ b.toNat)
    (hb' : b.toNat < 0xC0) (he : e.toNat = (a.toNat - 0xC0) * 64 + (b.toNat - 0x80))
    (bytes : List UInt8) :
    decodeLoose (a :: b :: bytes) = (decodeLoose bytes).map (.char e :: ·) := by
  have hm := tail?_eq_some_iff.2 ⟨hb, hb', rfl⟩
  rw [decodeLoose.eq_def]
  simp only [if_neg (show ¬ a.toNat < 0x80 by omega), if_neg (show ¬ a.toNat < 0xC2 by omega),
    if_pos ha']
  rw [hm, Option.bind_eq_bind, Option.bind_some, CodePoint.ofNat?_toNat he]
  rfl

theorem decodeLoose_three (ha : 0xE0 ≤ a.toNat) (ha' : a.toNat < 0xF0) (hb : 0x80 ≤ b.toNat)
    (hb' : b.toNat < 0xC0) (hc : 0x80 ≤ c.toNat) (hc' : c.toNat < 0xC0) (hle : 0x800 ≤ e.toNat)
    (he : e.toNat = (a.toNat - 0xE0) * 0x1000 + (b.toNat - 0x80) * 64 + (c.toNat - 0x80))
    (bytes : List UInt8) :
    decodeLoose (a :: b :: c :: bytes) = (decodeLoose bytes).map (.char e :: ·) := by
  have hm := tail?_eq_some_iff.2 ⟨hb, hb', rfl⟩
  have hn := tail?_eq_some_iff.2 ⟨hc, hc', rfl⟩
  rw [decodeLoose.eq_def]
  simp only [if_neg (show ¬ a.toNat < 0x80 by omega), if_neg (show ¬ a.toNat < 0xC2 by omega),
    if_neg (show ¬ a.toNat < 0xE0 by omega), if_pos ha']
  -- Rewriting keeps the products by large factors shut, which `simp` would have the kernel open.
  rw [hm, Option.bind_eq_bind, Option.bind_some, hn, Option.bind_some, ← he,
    if_neg (Nat.not_lt.2 hle), CodePoint.ofNat?_toNat rfl]
  cases decodeLoose bytes <;> rfl

theorem decodeLoose_four (ha : 0xF0 ≤ a.toNat) (ha' : a.toNat < 0xF5) (hb : 0x80 ≤ b.toNat)
    (hb' : b.toNat < 0xC0) (hc : 0x80 ≤ c.toNat) (hc' : c.toNat < 0xC0) (hd : 0x80 ≤ d.toNat)
    (hd' : d.toNat < 0xC0) (hle : 0x10000 ≤ e.toNat)
    (he : e.toNat = (a.toNat - 0xF0) * 0x40000 + (b.toNat - 0x80) * 0x1000 +
      (c.toNat - 0x80) * 64 + (d.toNat - 0x80)) (bytes : List UInt8) :
    decodeLoose (a :: b :: c :: d :: bytes) = (decodeLoose bytes).map (.char e :: ·) := by
  have hm := tail?_eq_some_iff.2 ⟨hb, hb', rfl⟩
  have hn := tail?_eq_some_iff.2 ⟨hc, hc', rfl⟩
  have hk := tail?_eq_some_iff.2 ⟨hd, hd', rfl⟩
  rw [decodeLoose.eq_def]
  simp only [if_neg (show ¬ a.toNat < 0x80 by omega), if_neg (show ¬ a.toNat < 0xC2 by omega),
    if_neg (show ¬ a.toNat < 0xE0 by omega), if_neg (show ¬ a.toNat < 0xF0 by omega), if_pos ha']
  rw [hm, Option.bind_eq_bind, Option.bind_some, hn, Option.bind_some, hk, Option.bind_some, ← he,
    if_neg (Nat.not_lt.2 hle), CodePoint.ofNat?_toNat rfl]
  cases decodeLoose bytes <;> rfl

end

theorem decodeLoose_encodeChar (e : Char) (bytes : List UInt8) :
    decodeLoose (encodeChar e ++ bytes) = (decodeLoose bytes).map (.char e :: ·) := by
  have hbyte {n : Nat} (hn : n < 256) : (UInt8.ofNat n).toNat = n := UInt8.toNat_ofNat_of_lt hn
  have htail (n : Nat) : (UInt8.ofNat (0x80 + n % 64)).toNat = 0x80 + n % 64 := hbyte (by omega)
  have he : e.toNat < 0x110000 := by
    rcases e.valid with h | h
    · exact Nat.lt_trans h (by decide)
    · exact h.2
  unfold encodeChar
  simp only
  split_ifs with h₁ h₂ h₃
  · have ha := hbyte (show e.toNat < 256 by omega)
    exact decodeLoose_one (by omega) ha.symm bytes
  · have ha := hbyte (show 0xC0 + e.toNat / 64 < 256 by omega)
    have hb := htail e.toNat
    exact decodeLoose_two (by omega) (by omega) (by omega) (by omega) (by omega) bytes
  · have ha := hbyte (show 0xE0 + e.toNat / 0x1000 < 256 by omega)
    have hb := htail (e.toNat / 64)
    have hc := htail e.toNat
    exact decodeLoose_three (by omega) (by omega) (by omega) (by omega) (by omega) (by omega)
      (by omega) (by omega) bytes
  · have ha := hbyte (show 0xF0 + e.toNat / 0x40000 < 256 by omega)
    have hb := htail (e.toNat / 0x1000)
    have hc := htail (e.toNat / 64)
    have hd := htail e.toNat
    exact decodeLoose_four (by omega) (by omega) (by omega) (by omega) (by omega) (by omega)
      (by omega) (by omega) (by omega) (by omega) bytes

theorem decodeLoose_encode (t : Text) : decodeLoose (encode t) = some (.ofText t) := by
  induction t with
  | nil => rfl
  | cons e t ih =>
    rw [encode_cons, decodeLoose_encodeChar, ih]
    rfl

/-- Every text is read back from its encoding. -/
theorem decode_encode (t : Text) : decode (encode t) = some t := by
  rw [decode, decodeLoose_encode, Option.bind_some, CodeText.toText?_ofText]

end Utf8

end OnlineAssembler
