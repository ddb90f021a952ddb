import OnlineAssembler.Proofs.Listing.Normal
import OnlineAssembler.Proofs.Listing.Pattern
import OnlineAssembler.Proofs.Service.Compilation
import OnlineAssembler.Proofs.Text.Trim

namespace OnlineAssembler

theorem Fault.isTrimmed_report (f : Fault) : Text.IsTrimmed f.report := by
  have hgeneral : Text.trim general = general := rfl
  unfold report
  split
  · rw [← hgeneral]
    exact Text.isTrimmed_trim general
  · exact Text.isTrimmed_trim f.message

/-- A code that may not be assembled has no encoding, is too long, or does not pass the filter. -/
theorem forall_not_isAdmissible_iff {code : CodeText} :
    (∀ source, code = .ofText source → ¬ IsAdmissible source) ↔
      (∃ offset, CodePoint.surrogate offset ∈ code) ∨ ∃ source, code = .ofText source ∧
        (10240 ≤ (Utf8.encode source).length ∨ ¬ Filter.IsSafe source) := by
  constructor
  · intro h
    rcases code.exists_surrogate_or_eq with hcode | ⟨source, hcode⟩
    · exact .inl hcode
    · refine .inr ⟨source, hcode, ?_⟩
      by_contra hno
      rw [not_or, Nat.not_le, not_not] at hno
      exact h source hcode ⟨hno.1, hno.2⟩
  · rintro (⟨offset, hoffset⟩ | ⟨source, rfl, hrefused⟩) t ht hadmissible
    · rw [ht] at hoffset
      exact CodeText.surrogate_not_mem_ofText t offset hoffset
    · obtain rfl := CodeText.ofText_inj ht
      rcases hrefused with hlength | hunsafe
      · exact absurd hadmissible.length_lt (Nat.not_lt.2 hlength)
      · exact hunsafe hadmissible.isSafe

theorem Service.eq_of_check_eq_error {code : CodeText} {e : ServiceError}
    (h : (check code).answer = .error e) : e = .unsafeCode := by
  unfold check at h
  split at h
  · exact (Except.error.inj h).symm
  · split at h
    · exact (Except.error.inj h).symm
    · split at h
      · cases h
      · exact (Except.error.inj h).symm
      · exact (Except.error.inj h).symm

namespace Listing

/-- The bytes of a code as the patterns find them. There are none if the digits on some line are
no bytes. -/
def bytesByPatterns (code : Text) : Option MachineCode :=
  ((Text.lines code).mapM Line.classifyByPatterns).map fun ls ↦ ls.flatMap Line.bytes

theorem bytesByPatterns_eq (code : Text) : bytesByPatterns code = some (bytes code) := by
  have hlines : (Text.lines code).mapM Line.classifyByPatterns =
      some ((Text.lines code).map Line.classify) := by
    rw [funext Line.classifyByPatterns_eq]
    exact List.mapM_pure
  rw [bytesByPatterns, hlines, Option.map_some, List.flatMap_map]
  rfl

theorem bytes_of_decode {listing : Text} {a : Assembly} (h : (decode listing).answer = .ok a) :
    a.bytes = bytes a.code := by
  cases hcode : code? listing with
  | none =>
    rw [decode, hcode] at h
    cases h
  | some code =>
    rw [decode_of_code? hcode] at h
    obtain rfl := Except.ok.inj h
    rfl

end Listing

/-- What may come out of an assembly any part of which may fail. -/
inductive Raised
  | service (e : ServiceError)
  | unencodable
  | notBytes

def Raised.ofListingError : Host.ListingError → Raised
  | .unencodable => unencodable
  | .failed fault => service (.failed fault)

namespace Host

/-- An assembly that writes the code as it was submitted and reads the bytes by the patterns. -/
def assembleInParts (host : Host) (mode : Mode) (code : CodeText) : Run Raised Assembly := do
  let _ ← (Service.check code).mapError .service
  let listing ← (host.listingOf mode.flag code).mapError .ofListingError
  let a ← (Listing.decode listing).mapError fun fault ↦ .service (.failed fault)
  match Listing.bytesByPatterns a.code with
  | some bytes => return ⟨a.code, bytes⟩
  | none => Run.fail .notBytes

variable {host : Host} {mode : Mode}

theorem assemble_of_isAdmissible {source : Text} (h : IsAdmissible source) :
    host.assemble mode (.ofText source) =
      (host.listing mode.flag source >>= Listing.decode).mapError .failed := by
  rw [assemble, Service.check_of_isAdmissible h, Run.pure_bind]

def printing (listing : Text) : Host :=
  ⟨{}, ⟨"main.s".toList, "main.o".toList⟩, ⟨.exited 0 [] [], .exited 0 listing []⟩⟩

theorem answer_assemble_printing {listing code source : Text} (mode : Mode)
    (hcode : Listing.code? listing = some code) (hsource : IsAdmissible source) :
    ((printing listing).assemble mode (.ofText source)).answer =
      .ok ⟨code, Listing.bytes code⟩ := by
  have hlisting : ((printing listing).listing mode.flag source).answer = .ok listing := rfl
  have hdecode : ((printing listing).listing mode.flag source >>= Listing.decode).answer =
      .ok ⟨code, Listing.bytes code⟩ := by
    rw [Run.answer_bind_of_ok hlisting]
    exact Listing.decode_of_code? hcode
  rw [assemble_of_isAdmissible hsource, Run.mapError, hdecode]
  rfl

theorem answer_assemble_of_isAdmissible {source : Text} (h : IsAdmissible source) :
    (∃ a, (host.assemble mode (.ofText source)).answer = .ok a) ∨
      ∃ fault, (host.assemble mode (.ofText source)).answer = .error (.failed fault) := by
  rw [assemble_of_isAdmissible h, Run.mapError]
  cases (host.listing mode.flag source >>= Listing.decode).answer with
  | ok a => exact .inl ⟨a, rfl⟩
  | error fault => exact .inr ⟨fault, rfl⟩

theorem assemble_of_not_isAdmissible {code : CodeText}
    (h : ∀ source, code = .ofText source → ¬ IsAdmissible source) :
    (host.assemble mode code).answer = .error .unsafeCode ∧
      (host.assemble mode code).events = [] := by
  cases hcheck : (Service.check code).answer with
  | ok source =>
    obtain ⟨hcode, hsource⟩ := Service.isAdmissible_of_check hcheck
    exact absurd hsource (h source hcode)
  | error e =>
    obtain rfl := Service.eq_of_check_eq_error hcheck
    constructor
    · rw [assemble, Run.answer_bind_of_error hcheck]
    · rw [assemble, Run.events_bind_of_error hcheck, Service.events_check]

theorem answer_assemble_eq_unsafeCode_iff {code : CodeText} :
    (host.assemble mode code).answer = .error .unsafeCode ↔
      ∀ source, code = .ofText source → ¬ IsAdmissible source := by
  constructor
  · rintro h source rfl hsource
    rcases answer_assemble_of_isAdmissible hsource with ⟨a, ha⟩ | ⟨fault, hfault⟩
    · rw [ha] at h
      cases h
    · rw [hfault] at h
      cases h
  · intro h
    exact (assemble_of_not_isAdmissible h).1

theorem calls_assemble_eq_nil_iff {code : CodeText} :
    (host.assemble mode code).calls = [] ↔
      ∀ source, code = .ofText source → ¬ IsAdmissible source := by
  constructor
  · rintro h source rfl hsource
    exact (compiles_of_isAdmissible hsource).calls_ne_nil h
  · intro h
    exact congrArg Event.calls (assemble_of_not_isAdmissible h).2

theorem answer_assemble_cases (host : Host) (mode : Mode) (code : CodeText) :
    (∃ a, (host.assemble mode code).answer = .ok a) ∨
      (host.assemble mode code).answer = .error .unsafeCode ∨
      ∃ fault, (host.assemble mode code).answer = .error (.failed fault) := by
  by_cases h : ∀ source, code = .ofText source → ¬ IsAdmissible source
  · exact .inr (.inl (assemble_of_not_isAdmissible h).1)
  · push Not at h
    obtain ⟨source, rfl, hsource⟩ := h
    rcases answer_assemble_of_isAdmissible hsource with ha | hfault
    · exact .inl ha
    · exact .inr (.inr hfault)

theorem message_of_assemble {code : CodeText} {e : ServiceError}
    (h : (host.assemble mode code).answer = .error e) : ∃ message, e.message = .ofText message := by
  rcases answer_assemble_cases host mode code with ⟨a, ha⟩ | hrefused | ⟨fault, hfault⟩
  · rw [ha] at h
    cases h
  · rw [hrefused] at h
    obtain rfl := Except.error.inj h
    exact ⟨_, rfl⟩
  · rw [hfault] at h
    obtain rfl := Except.error.inj h
    exact ⟨fault.report, rfl⟩

theorem assembleInParts_eq (host : Host) (mode : Mode) (code : CodeText) :
    host.assembleInParts mode code = (host.assemble mode code).mapError .service := by
  rw [assembleInParts, assemble, Run.mapError_bind]
  apply Run.bind_congr
  intro source hsource
  -- What has passed the check is a text, so it can be written.
  obtain ⟨rfl, -⟩ := Service.isAdmissible_of_check (Run.answer_mapError_eq_ok_iff.1 hsource)
  rw [listingOf_ofText, Run.mapError_mapError, Run.mapError_mapError, Run.mapError_bind]
  apply Run.bind_congr
  intro listing _
  conv_rhs => rw [← Run.bind_pure ((Listing.decode listing).mapError _)]
  apply Run.bind_congr
  intro a ha
  rw [Listing.bytesByPatterns_eq, ← Listing.bytes_of_decode (Run.answer_mapError_eq_ok_iff.1 ha)]

/-- An assembly ends with a result, a refusal, or a fault that has something to say. It is refused
exactly if it has started no program, and exactly if its code may not be assembled. Nothing else
comes out of it where the code is written as it was submitted and the bytes are read by the
patterns, each of which may fail. -/
theorem assemble_ends (host : Host) (mode : Mode) (code : CodeText) :
    ((∃ a, (host.assemble mode code).answer = .ok a) ∨
      (host.assemble mode code).answer = .error .unsafeCode ∨
      ∃ fault message, (host.assemble mode code).answer = .error (.failed fault) ∧
        (ServiceError.failed fault).message = .ofText message ∧ message ≠ [] ∧
        Text.IsTrimmed message) ∧
    ((host.assemble mode code).answer = .error .unsafeCode ↔
      (host.assemble mode code).calls = []) ∧
    ((host.assemble mode code).answer = .error .unsafeCode ↔
      (∃ offset, CodePoint.surrogate offset ∈ code) ∨ ∃ source, code = .ofText source ∧
        (10240 ≤ (Utf8.encode source).length ∨ ¬ Filter.IsSafe source)) ∧
    host.assembleInParts mode code = (host.assemble mode code).mapError .service := by
  refine ⟨?_, ?_, ?_, assembleInParts_eq host mode code⟩
  · rcases answer_assemble_cases host mode code with ha | hrefused | ⟨fault, hfault⟩
    · exact .inl ha
    · exact .inr (.inl hrefused)
    · exact .inr (.inr ⟨fault, fault.report, hfault, rfl, fault.report_ne_nil,
        fault.isTrimmed_report⟩)
  · rw [answer_assemble_eq_unsafeCode_iff, calls_assemble_eq_nil_iff]
  · rw [answer_assemble_eq_unsafeCode_iff, forall_not_isAdmissible_iff]

end Host

end OnlineAssembler
