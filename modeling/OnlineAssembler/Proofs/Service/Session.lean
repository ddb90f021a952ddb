import Mathlib.Data.List.Induction
import OnlineAssembler.Proofs.Service.Compilation

namespace OnlineAssembler.Session

def Step.requested? : Step → Option Json
  | setMode requested => some requested
  | check _ | assemble _ _ => none

def Answer.events : Answer → List Event
  | modeSet _ => []
  | checked result => result.events
  | assembled result => result.events

/-- The mode in effect after some steps: the last mode among those that were asked for, at the
opening of the session or by a step since. -/
def modeAfter (opening : Option Json) (steps : List Step) : Mode :=
  ((opening.toList ++ steps.filterMap Step.requested?).filterMap Mode.ofJson?).getLastD .standard

def after (s : Session) (steps : List Step) : Session := steps.foldl (fun s a ↦ (s.step a).2) s

theorem run_getElem? (s : Session) (steps : List Step) (i : Nat) :
    (s.run steps)[i]? = steps[i]?.map (s.after (steps.take i)).step := by
  induction steps generalizing s i with
  | nil => rfl
  | cons a steps ih =>
    cases i with
    | zero => rfl
    | succ i =>
      rw [run, List.getElem?_cons_succ, List.getElem?_cons_succ, List.take_succ_cons]
      exact ih (s.step a).2 i

theorem modeAfter_append_singleton (opening : Option Json) (steps : List Step) (a : Step) :
    modeAfter opening (steps ++ [a]) =
      (a.requested?.bind Mode.ofJson?).getD (modeAfter opening steps) := by
  have hsteps : (steps ++ [a]).filterMap Step.requested? =
      steps.filterMap Step.requested? ++ a.requested?.toList := by
    rw [List.filterMap_append]
    cases a <;> rfl
  unfold modeAfter
  rw [hsteps, ← List.append_assoc]
  cases a.requested? with
  | none => simp
  | some requested => cases h : Mode.ofJson? requested <;> simp [h]

theorem setMode_of_some {requested : Json} {mode : Mode}
    (h : Mode.ofJson? requested = some mode) (s : Session) :
    s.setMode requested = (.ok (), { s with mode }) := by
  rw [setMode, h]

/-- What is not a mode leaves the session as it was. -/
theorem setMode_of_none {requested : Json} (h : Mode.ofJson? requested = none) (s : Session) :
    s.setMode requested = (.error (.invalidMode requested), s) := by
  rw [setMode, h]

theorem mode_setMode (s : Session) (requested : Json) :
    (s.setMode requested).2.mode = (Mode.ofJson? requested).getD s.mode := by
  cases h : Mode.ofJson? requested with
  | none => rw [setMode_of_none h, Option.getD_none]
  | some mode => rw [setMode_of_some h, Option.getD_some]

theorem mode_step (s : Session) (a : Step) :
    (s.step a).2.mode = (a.requested?.bind Mode.ofJson?).getD s.mode := by
  cases a with
  | setMode requested => exact mode_setMode s requested
  | check code => rfl
  | assemble host code => rfl

theorem eq_of_start_some {requested : Json} {s : Session} (h : start (some requested) = .ok s) :
    Mode.ofJson? requested = some s.mode := by
  rw [start, Option.map_some] at h
  cases hmode : Mode.ofJson? requested with
  | none =>
    rw [setMode_of_none hmode] at h
    cases h
  | some mode =>
    rw [setMode_of_some hmode] at h
    obtain rfl := Except.ok.inj h
    rfl

theorem mode_start {opening : Option Json} {s : Session} (h : start opening = .ok s) :
    s.mode = modeAfter opening [] := by
  cases opening with
  | none =>
    obtain rfl := Except.ok.inj h
    rfl
  | some requested =>
    have hmode := eq_of_start_some h
    simp [modeAfter, hmode]

theorem mode_after {opening : Option Json} {s : Session} (h : start opening = .ok s)
    (steps : List Step) : (s.after steps).mode = modeAfter opening steps := by
  induction steps using List.reverseRecOn with
  | nil => exact mode_start h
  | append_singleton steps a ih =>
    rw [after, List.foldl_append, List.foldl_cons, List.foldl_nil, mode_step,
      modeAfter_append_singleton, ← ih]
    rfl

theorem compiles_step {s : Session} {a : Step} (h : Event.calls (s.step a).1.events ≠ []) :
    ∃ host source, a = .assemble host (.ofText source) ∧
      Compiles host s.mode source (s.step a).1.events := by
  cases a with
  | setMode requested => exact absurd rfl h
  | check code => exact absurd (congrArg Event.calls (Service.events_check code)) h
  | assemble host code =>
    obtain ⟨source, rfl, hsource⟩ := Host.compiles_of_calls_ne_nil h
    exact ⟨host, source, rfl, hsource⟩

section

variable {opening : Option Json} {s : Session} {steps : List Step} {i : Nat}

/-- A step that starts the compiler assembles an admissible source, for the mode that is in effect
by then. -/
theorem compiles_of_run (hs : start opening = .ok s) {answer : Answer} {t : Session}
    (hi : (s.run steps)[i]? = some (answer, t)) (hcalls : Event.calls answer.events ≠ []) :
    ∃ host source, steps[i]? = some (.assemble host (.ofText source)) ∧
      Compiles host (modeAfter opening (steps.take i)) source answer.events := by
  rw [run_getElem?] at hi
  obtain ⟨a, ha, hstep⟩ := Option.map_eq_some_iff.1 hi
  have hanswer : ((s.after (steps.take i)).step a).1 = answer := congrArg Prod.fst hstep
  rw [← hanswer] at hcalls ⊢
  obtain ⟨host, source, rfl, hsource⟩ := compiles_step hcalls
  rw [mode_after hs] at hsource
  exact ⟨host, source, ha, hsource⟩

theorem run_compiles (hs : start opening = .ok s) {host : Host} {source : Text}
    (hi : steps[i]? = some (.assemble host (.ofText source))) (hsource : IsAdmissible source) :
    ∃ answer t, (s.run steps)[i]? = some (answer, t) ∧
      Compiles host (modeAfter opening (steps.take i)) source answer.events := by
  rw [run_getElem?, hi, ← mode_after hs]
  exact ⟨_, _, rfl, Host.compiles_of_isAdmissible hsource⟩

end

/-- What a session answers to a step in a mode, and the mode that it is in afterwards. An assembly
is answered as by a session that has just been opened in the mode. -/
inductive Answers (mode : Mode) : Step → Answer → Mode → Prop
  | modeSet (m : Mode) :
      Answers mode (.setMode (.string (.ofText m.name))) (.modeSet (.ok ())) m
  | refused {requested : Json} (h : ∀ m : Mode, requested ≠ .string (.ofText m.name)) :
      Answers mode (.setMode requested) (.modeSet (.error (.invalidMode requested))) mode
  | checked (code : CodeText) :
      Answers mode (.check code) (.checked (Service.check code)) mode
  | assembled {host : Host} {code : CodeText} {answer : Answer} {fresh : Session}
      (hfresh : start (some (.string (.ofText mode.name))) = .ok fresh)
      (h : fresh.run [.assemble host code] = [(answer, fresh)]) :
      Answers mode (.assemble host code) answer mode

theorem setMode_name (s : Session) (m : Mode) :
    s.setMode (.string (.ofText m.name)) = (.ok (), ⟨m⟩) :=
  setMode_of_some (Mode.ofJson?_eq_some_iff.2 rfl) s

theorem start_name (m : Mode) : start (some (.string (.ofText m.name))) = .ok ⟨m⟩ := by
  rw [start, Option.map_some, setMode_name]

theorem setMode_of_ne {s : Session} {requested : Json}
    (h : ∀ m : Mode, requested ≠ .string (.ofText m.name)) :
    s.setMode requested = (.error (.invalidMode requested), s) := by
  have hnone : Mode.ofJson? requested = none := by
    rw [Option.eq_none_iff_forall_ne_some]
    intro m hm
    exact h m (Mode.ofJson?_eq_some_iff.1 hm)
  exact setMode_of_none hnone s

theorem step_answers (s : Session) (a : Step) :
    Answers s.mode a (s.step a).1 (s.step a).2.mode := by
  cases a with
  | setMode requested =>
    by_cases h : ∃ m : Mode, requested = .string (.ofText m.name)
    · obtain ⟨m, rfl⟩ := h
      rw [step, setMode_name]
      exact .modeSet m
    · have hne : ∀ m : Mode, requested ≠ .string (.ofText m.name) := not_exists.1 h
      rw [step, setMode_of_ne hne]
      exact .refused hne
  | check code => exact .checked code
  | assemble host code => exact .assembled (start_name s.mode) rfl

theorem length_run (s : Session) (steps : List Step) : (s.run steps).length = steps.length := by
  induction steps generalizing s with
  | nil => rfl
  | cons a steps ih => rw [run, List.length_cons, List.length_cons, ih]

theorem after_append_singleton (s : Session) (steps : List Step) (a : Step) :
    s.after (steps ++ [a]) = ((s.after steps).step a).2 := List.foldl_append

theorem name_flag_mem (m : Mode) :
    (m.name, m.flag) ∈ [("x86".toList, "-m32".toList), ("x64".toList, "-m64".toList)] := by
  cases m <;> decide

/-- A session through any steps: it is in the mode that was last asked for by its name, and each
step is answered by what that mode and the step tell, whatever came before. -/
theorem run_answers {opening : Option Json} {s : Session} (h : start opening = .ok s)
    (steps : List Step) :
    s.mode = modeAfter opening [] ∧ (s.run steps).length = steps.length ∧
      ∀ i a, steps[i]? = some a → ∃ answer t, (s.run steps)[i]? = some (answer, t) ∧
        t.mode = modeAfter opening (steps.take (i + 1)) ∧
        (t.mode.name, t.mode.flag) ∈
          [("x86".toList, "-m32".toList), ("x64".toList, "-m64".toList)] ∧
        Answers (modeAfter opening (steps.take i)) a answer t.mode := by
  refine ⟨mode_start h, length_run s steps, ?_⟩
  intro i a hi
  have hrun : (s.run steps)[i]? = some ((s.after (steps.take i)).step a) := by
    rw [run_getElem?, hi, Option.map_some]
  have htake : steps.take (i + 1) = steps.take i ++ [a] := by
    rw [List.take_add_one, hi, Option.toList_some]
  have hmode : ((s.after (steps.take i)).step a).2.mode =
      modeAfter opening (steps.take (i + 1)) := by
    rw [← mode_after h, htake, after_append_singleton]
  have hanswers := step_answers (s.after (steps.take i)) a
  rw [mode_after h] at hanswers
  exact ⟨_, _, hrun, hmode, name_flag_mem _, hanswers⟩

theorem run_answers_arm :
    start none = .ok ⟨.x86⟩ ∧ ∃ answer t,
      ((⟨.x86⟩ : Session).run [.setMode (.string (.ofText "x64".toList)),
        .setMode (.string (.ofText "arm".toList)), .check (.ofText ".fill".toList),
        .assemble Host.stalled (.ofText "nop".toList)])[3]? = some (answer, t) ∧
      t.mode = .x64 ∧
      Answers .x64 (.assemble Host.stalled (.ofText "nop".toList)) answer t.mode := by
  have hstart : start none = .ok ⟨.x86⟩ := rfl
  obtain ⟨-, -, hsteps⟩ := run_answers hstart [.setMode (.string (.ofText "x64".toList)),
    .setMode (.string (.ofText "arm".toList)), .check (.ofText ".fill".toList),
    .assemble Host.stalled (.ofText "nop".toList)]
  obtain ⟨answer, t, hi, hmode, -, hanswers⟩ := hsteps 3 _ rfl
  exact ⟨hstart, answer, t, hi, hmode, hanswers⟩

end OnlineAssembler.Session
