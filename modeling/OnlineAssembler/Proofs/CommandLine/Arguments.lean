import OnlineAssembler.CommandLine.Arguments

namespace OnlineAssembler.CommandLine

theorem exists_of_bind_eq_ok {ε α β : Type} {x : Except ε α} {f : α → Except ε β} {b : β}
    (h : x >>= f = .ok b) : ∃ a, x = .ok a ∧ f a = .ok b := by
  cases x with
  | error e => cases h
  | ok a => exact ⟨a, rfl, h⟩

def Token.modeValues : List Token → List Text
  | .setting .mode (some value) :: tokens => value :: modeValues tokens
  | .setting .mode none :: .plain value :: tokens => value :: modeValues tokens
  | _ :: tokens => modeValues tokens
  | [] => []

namespace Progress

variable {p q : Progress} {s : Setting} {value d : Text}

def Names (p : Progress) (d : Text) : Prop := ∀ mode ∈ p.arguments.mode, d = mode.name

def nameAfter (s : Setting) (value d : Text) : Text :=
  match s with
  | .mode => value
  | .format => d

theorem name_of_choose {mode : Mode} (h : choose Mode.ofText? value = .ok (some mode)) :
    value = mode.name := by
  unfold choose at h
  split at h
  · cases h
  · split at h
    · rename_i m hm
      obtain rfl := Option.some.inj (Except.ok.inj h)
      exact Mode.ofText?_eq_some_iff.1 hm
    · cases h

theorem names_of_set (h : p.set s value = .ok q) (hp : p.Names d) :
    q.Names (nameAfter s value d) := by
  cases s with
  | mode =>
    obtain ⟨m, hm, hq⟩ := exists_of_bind_eq_ok h
    obtain rfl := Except.ok.inj hq
    intro mode hmode
    obtain rfl : m = some mode := hmode
    exact name_of_choose hm
  | format =>
    obtain ⟨f, hf, hq⟩ := exists_of_bind_eq_ok h
    obtain rfl := Except.ok.inj hq
    exact hp

theorem names_of_setFlags {flags : List Flag} (h : p.setFlags flags = .ok q) (hp : p.Names d) :
    q.Names d := by
  unfold setFlags at h
  split at h
  · cases h
  · obtain rfl := Except.ok.inj h
    exact hp

theorem getLastD_modeValues_some (s : Setting) (value d : Text) (tokens : List Token) :
    (Token.modeValues (.setting s (some value) :: tokens)).getLastD d =
      (Token.modeValues tokens).getLastD (nameAfter s value d) := by
  cases s with
  | mode => exact List.getLastD_cons
  | format => rfl

theorem getLastD_modeValues_none (s : Setting) (value d : Text) (tokens : List Token) :
    (Token.modeValues (.setting s none :: .plain value :: tokens)).getLastD d =
      (Token.modeValues tokens).getLastD (nameAfter s value d) := by
  cases s with
  | mode => exact List.getLastD_cons
  | format => rfl

theorem names_of_read {tokens : List Token} {a : Arguments} (h : p.read tokens = .ok a)
    (hp : p.Names d) {mode : Mode} (hmode : a.mode = some mode) :
    (Token.modeValues tokens).getLastD d = mode.name := by
  induction p, tokens using read.induct generalizing d with
  | case1 p hsurplus =>
    rw [read, if_pos hsurplus] at h
    cases h
  | case2 p hsurplus =>
    rw [read, if_neg hsurplus] at h
    obtain rfl := Except.ok.inj h
    exact hp mode hmode
  | case3 p t rest hsource ih | case5 p t rest hsource ih =>
    rw [read, if_pos hsource] at h
    exact ih h hp
  | case4 p t rest hsource ih | case6 p t rest hsource ih =>
    rw [read, if_neg hsource] at h
    exact ih h hp
  | case7 p t rest hno hsource ih =>
    rw [read, if_pos hsource] at h
    · exact ih h hp
    · exact hno
  | case8 p t rest hno hsource ih =>
    rw [read, if_neg hsource] at h
    · exact ih h hp
    · exact hno
  | case9 p rest hno ih =>
    rw [read] at h
    · exact ih h hp
    · exact hno
  | case10 p rest ih => exact ih h hp
  | case11 p flags rest ih =>
    obtain ⟨q, hq, hrest⟩ := exists_of_bind_eq_ok h
    exact ih q hrest (names_of_setFlags hq hp)
  | case12 p s value rest ih =>
    obtain ⟨q, hq, hrest⟩ := exists_of_bind_eq_ok h
    rw [getLastD_modeValues_some]
    exact ih q hrest (names_of_set hq hp)
  | case13 p s value rest ih =>
    obtain ⟨q, hq, hrest⟩ := exists_of_bind_eq_ok h
    rw [getLastD_modeValues_none]
    exact ih q hrest (names_of_set hq hp)
  | case14 p s rest hno =>
    rw [read] at h
    · cases h
    · exact hno
  | case15 | case16 => cases h

end Progress

/-- The mode of a run is the last one that is named, and the standard mode if none is. -/
theorem Arguments.name_of_parse {arguments : List Text} {a : Arguments} {mode : Mode}
    (h : parse arguments = .ok a) (hmode : a.mode = some mode) :
    (Token.modeValues (Token.ofArguments arguments)).getLastD Mode.standard.name = mode.name := by
  unfold parse at h
  simp only at h
  split at h
  · cases h
  · refine Progress.names_of_read h (fun m hm ↦ ?_) hmode
    obtain rfl := Option.some.inj hm
    rfl

end OnlineAssembler.CommandLine
