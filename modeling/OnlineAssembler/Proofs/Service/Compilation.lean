import OnlineAssembler.Proofs.Tools.Outcome
import OnlineAssembler.Service

namespace OnlineAssembler

structure IsAdmissible (source : Text) : Prop where
  length_lt : (Utf8.encode source).length < 10240
  isSafe : Filter.IsSafe source

/-- The source is in its file before the compiler is started on that file, and nothing but the
disassembler follows the compiler. -/
structure Compiles (host : Host) (mode : Mode) (source : Text) (events : List Event) : Prop where
  isAdmissible : IsAdmissible source
  events : ∃ rest, (rest = [] ∨ rest = [.started host.disassembly]) ∧
    events = .wrote host.workspace.source
        (".intel_syntax noprefix\n_main:\n".toList ++ (source ++ ['\n'])) ::
      .started (host.compilation mode.flag) :: rest

theorem Compiles.calls_ne_nil {host : Host} {mode : Mode} {source : Text} {events : List Event}
    (h : Compiles host mode source events) : Event.calls events ≠ [] := by
  obtain ⟨rest, -, rfl⟩ := h.events
  exact List.cons_ne_nil _ _

theorem Listing.events_decode (listing : Text) : (decode listing).events = [] := by
  unfold decode
  split <;> rfl

namespace Service

theorem events_check (code : CodeText) : (check code).events = [] := by
  unfold check
  split
  · rfl
  · split
    · rfl
    · split <;> rfl

theorem check_of_isAdmissible {source : Text} (h : IsAdmissible source) :
    check (.ofText source) = pure source := by
  have hverdict : Filter.verdict source = .accepted := h.isSafe
  have hsize : ¬ sizeLimit ≤ (Utf8.encode source).length := Nat.not_le.2 h.length_lt
  unfold check
  rw [CodeText.toText?_ofText]
  simp only [if_neg hsize, hverdict]

theorem isAdmissible_of_check {code : CodeText} {source : Text}
    (h : (check code).answer = .ok source) : code = .ofText source ∧ IsAdmissible source := by
  unfold check at h
  split at h
  · cases h
  · rename_i text htext
    split at h
    · cases h
    · rename_i hsize
      split at h
      · rename_i hverdict
        obtain rfl : text = source := Except.ok.inj h
        exact ⟨CodeText.toText?_eq_some_iff.1 htext, Nat.not_le.1 hsize, hverdict⟩
      · cases h
      · cases h

end Service

namespace Host

variable {host : Host} {mode : Mode}

theorem events_assemble_of_check {code : CodeText} {source : Text}
    (h : (Service.check code).answer = .ok source) :
    (host.assemble mode code).events = (host.listing mode.flag source).events := by
  rw [assemble, Run.events_bind_of_ok h, Service.events_check, List.nil_append,
    Run.events_mapError, Run.events_bind_of_forall Listing.events_decode]

theorem compiles_of_isAdmissible {source : Text} (h : IsAdmissible source) :
    Compiles host mode source (host.assemble mode (.ofText source)).events := by
  have hcheck : (Service.check (.ofText source)).answer = .ok source := by
    rw [Service.check_of_isAdmissible h]
    rfl
  rw [events_assemble_of_check hcheck]
  rcases (goes_listing host mode.flag source).events_eq with hlisting | hlisting
  · exact ⟨h, [], .inl rfl, hlisting⟩
  · exact ⟨h, [.started host.disassembly], .inr rfl, hlisting⟩

theorem compiles_of_calls_ne_nil {code : CodeText} (h : (host.assemble mode code).calls ≠ []) :
    ∃ source, code = .ofText source ∧
      Compiles host mode source (host.assemble mode code).events := by
  cases hcheck : (Service.check code).answer with
  | error e =>
    have hevents : (host.assemble mode code).events = [] := by
      rw [assemble, Run.events_bind_of_error hcheck, Service.events_check]
    exact absurd (congrArg Event.calls hevents) h
  | ok source =>
    obtain ⟨rfl, hsource⟩ := Service.isAdmissible_of_check hcheck
    exact ⟨source, rfl, compiles_of_isAdmissible hsource⟩

end Host

end OnlineAssembler
