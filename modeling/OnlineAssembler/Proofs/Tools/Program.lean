import OnlineAssembler.Tools.Disassembly

namespace OnlineAssembler

def Outcome.Succeeds (o : Outcome) : Prop := ∃ output errors, o = .exited 0 output errors

structure IsBaseName (name path : Text) : Prop where
  slash : '/' ∉ name
  folder : ∃ folder, path = folder ++ name ∧ ∀ c ∈ folder.getLast?, c = '/'

/-- What is said of a program that does not come to its own end. -/
inductive Breaks (program : Text) : Outcome → Text → Prop
  | timedOut {name : Text} (h : IsBaseName name program) :
      Breaks program .timedOut (name ++ " timed out.".toList)
  | notExecuted (reason : Text) :
      Breaks program (.notExecuted reason) "Something went wrong!".toList

theorem Outcome.succeeds_exited_iff {status : Int} {output errors : Text} :
    (Outcome.exited status output errors).Succeeds ↔ status = 0 := by
  constructor
  · intro h
    obtain ⟨_, _, h⟩ := h
    exact (Outcome.exited.inj h).1
  · intro h
    rw [h]
    exact ⟨output, errors, rfl⟩

theorem Outcome.not_succeeds_of_ne_zero {outcome : Outcome} {status : Int} {output errors : Text}
    (h : outcome = .exited status output errors) (hstatus : status ≠ 0) : ¬ outcome.Succeeds := by
  rw [h, Outcome.succeeds_exited_iff]
  exact hstatus

theorem Breaks.not_succeeds {program message : Text} {outcome : Outcome}
    (h : Breaks program outcome message) : ¬ outcome.Succeeds := by
  intro hsucceeds
  obtain ⟨output, errors, rfl⟩ := hsucceeds
  cases h

theorem Fault.isBaseName_baseName (path : Text) : IsBaseName (baseName path) path where
  slash := by
    intro h
    have hall := List.all_eq_true.1 List.all_takeWhile '/' (List.mem_reverse.1 h)
    simp at hall
  folder := by
    refine ⟨(path.reverse.dropWhile (· ≠ '/')).reverse, ?_, ?_⟩
    · rw [baseName, ← List.reverse_append, List.takeWhile_append_dropWhile, List.reverse_reverse]
    · intro c hc
      rw [List.getLast?_reverse] at hc
      have h := List.head?_dropWhile_not (· ≠ '/') path.reverse
      rw [Option.mem_def.1 hc] at h
      simpa using h

namespace Host

def stalled : Host := ⟨{}, ⟨"main.s".toList, "main.o".toList⟩, ⟨.timedOut, .timedOut⟩⟩

variable {host : Host} {flag : Text}

def compilation (host : Host) (flag : Text) : Call where
  arguments := [host.settings.compiler, flag, "-c".toList, host.workspace.source, "-o".toList,
    host.workspace.object]
  mergesErrors := true
  timeout := host.settings.timeout

def disassembly (host : Host) : Call where
  arguments := [host.settings.disassembler, "-M".toList, "intel".toList, "-d".toList, "-z".toList,
    host.workspace.object]
  mergesErrors := false
  timeout := host.settings.timeout

/-- The source is in its file before the compiler is started. -/
def compiling (host : Host) (flag source : Text) : List Event :=
  [.wrote host.workspace.source (sourceFile source), .started (host.compilation flag)]

theorem events_start (host : Host) (program : Text) (arguments : List Text) (mergesErrors : Bool)
    (outcome : Outcome) :
    (host.start program arguments mergesErrors outcome).events =
      [.started ⟨program :: arguments, mergesErrors, host.settings.timeout⟩] := by
  cases outcome <;> rfl

theorem events_compile : (host.compile flag).events = [.started (host.compilation flag)] :=
  events_start ..

theorem events_disassemble : host.disassemble.events = [.started host.disassembly] :=
  events_start ..

section

variable {program : Text} {arguments : List Text} {mergesErrors : Bool} {outcome : Outcome}

theorem answer_start_eq_ok_iff {exit : Exit} :
    (host.start program arguments mergesErrors outcome).answer = .ok exit ↔
      outcome = .exited exit.status exit.output exit.errors := by
  cases outcome with
  | timedOut => exact ⟨nofun, nofun⟩
  | notExecuted reason => exact ⟨nofun, nofun⟩
  | exited status output errors =>
    constructor
    · intro h
      obtain rfl := Except.ok.inj h
      rfl
    · intro h
      cases h
      rfl

theorem breaks_of_start {fault : Fault}
    (h : (host.start program arguments mergesErrors outcome).answer = .error fault) :
    Breaks program outcome fault.message := by
  cases outcome with
  | timedOut =>
    obtain rfl := Except.error.inj h
    exact .timedOut (Fault.isBaseName_baseName program)
  | notExecuted reason =>
    obtain rfl := Except.error.inj h
    exact .notExecuted reason
  | exited status output errors => cases h

end

theorem succeeds_of_compile {exit : Exit} (h : (host.compile flag).answer = .ok exit) :
    host.tools.compiler.Succeeds ↔ exit.status = 0 := by
  rw [answer_start_eq_ok_iff.1 h, Outcome.succeeds_exited_iff]

end Host

end OnlineAssembler
