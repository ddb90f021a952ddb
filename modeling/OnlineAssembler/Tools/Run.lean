import OnlineAssembler.Tools.Host

namespace OnlineAssembler

namespace Log

inductive Level
  | debug
  | info
  | warning
  | error
deriving DecidableEq, Repr

inductive Origin
  | filter
  | decoder
  | tools
  | service
deriving DecidableEq, Repr

/-- The details are what the system told of a fault, and there are none to most entries. -/
structure Entry where
  level : Level
  origin : Origin
  message : Text
  details : Text := []
deriving DecidableEq, Repr

def Level.name : Level → Text
  | .debug => "DEBUG".toList
  | .info => "INFO".toList
  | .warning => "WARNING".toList
  | .error => "ERROR".toList

def Origin.name : Origin → Text
  | .filter => "safety".toList
  | .decoder => "decoder".toList
  | .tools => "toolchain".toList
  | .service => "assembler".toList

def Level.isShown (verbose : Bool) : Level → Bool
  | .debug | .info => verbose
  | .warning | .error => true

/-- Details start on a line of their own. -/
def Entry.text (e : Entry) : Text :=
  let record := e.level.name ++ ' ' :: (e.origin.name ++ ':' :: ' ' :: e.message)
  if e.details = [] then record ++ ['\n']
  else (if record.getLast? = some '\n' then record else record ++ ['\n']) ++ e.details ++ ['\n']

def shown (verbose : Bool) (entries : List Entry) : List Entry :=
  entries.filter (·.level.isShown verbose)

def render (entries : List Entry) : Text := entries.flatMap Entry.text

@[simp] theorem shown_true (entries : List Entry) : shown true entries = entries := by
  refine List.filter_eq_self.2 fun e _ ↦ ?_
  cases e.level <;> rfl

end Log

structure Call where
  arguments : List Text
  mergesErrors : Bool
  timeout : Binary64
deriving DecidableEq, Repr

/-- What is done to the world: a text is in a file as a whole, or a program is started. -/
inductive Event
  | wrote (path text : Text)
  | started (call : Call)
deriving DecidableEq, Repr

def Event.call? : Event → Option Call
  | wrote _ _ => none
  | started call => some call

def Event.calls (events : List Event) : List Call := events.filterMap call?

/-- An answer with all that was done on the way to it, in the order in which it was done. -/
structure Run (ε α : Type) where
  answer : Except ε α
  events : List Event := []
  log : List Log.Entry := []

namespace Run

variable {ε δ α β : Type}

def calls (r : Run ε α) : List Call := Event.calls r.events

def bind (r : Run ε α) (f : α → Run ε β) : Run ε β :=
  match r.answer with
  | .error e => { r with answer := .error e }
  | .ok a => { f a with events := r.events ++ (f a).events, log := r.log ++ (f a).log }

instance : Monad (Run ε) where
  pure a := { answer := .ok a }
  bind := bind

def fail (e : ε) : Run ε α := { answer := .error e }

def note (level : Log.Level) (origin : Log.Origin) (message : Text) (details : Text := []) :
    Run ε Unit :=
  { answer := .ok (), log := [⟨level, origin, message, details⟩] }

def write (path text : Text) : Run ε Unit := { answer := .ok (), events := [.wrote path text] }

def call (c : Call) : Run ε Unit := { answer := .ok (), events := [.started c] }

def mapError (f : ε → δ) (r : Run ε α) : Run δ α := { r with answer := r.answer.mapError f }

theorem pure_eq (a : α) : (pure a : Run ε α) = { answer := .ok a } := rfl

theorem bind_eq (r : Run ε α) (f : α → Run ε β) : r >>= f = r.bind f := rfl

@[simp] theorem pure_bind (a : α) (f : α → Run ε β) : (pure a : Run ε α) >>= f = f a := by
  simp [bind_eq, pure_eq, bind]

variable {γ : Type} {r : Run ε α} {f : α → Run ε β}

theorem bind_pure (r : Run ε α) : r >>= pure = r := by
  obtain ⟨answer, events, log⟩ := r
  cases answer with
  | error e => rfl
  | ok a => simp [bind_eq, bind, pure_eq]

theorem mapError_mapError (g : ε → δ) (k : δ → γ) (r : Run ε α) :
    (r.mapError g).mapError k = r.mapError fun e ↦ k (g e) := by
  obtain ⟨answer, events, log⟩ := r
  cases answer <;> rfl

theorem mapError_bind (g : ε → δ) (r : Run ε α) (f : α → Run ε β) :
    (r >>= f).mapError g = r.mapError g >>= fun a ↦ (f a).mapError g := by
  obtain ⟨answer, events, log⟩ := r
  cases answer <;> rfl

theorem answer_mapError_eq_ok_iff {g : ε → δ} {a : α} :
    (r.mapError g).answer = .ok a ↔ r.answer = .ok a := by
  obtain ⟨answer, events, log⟩ := r
  constructor
  · intro h
    cases answer with
    | error e => cases h
    | ok b => exact congrArg Except.ok (Except.ok.inj h)
  · intro h
    obtain rfl : answer = .ok a := h
    rfl

theorem events_mapError (g : ε → δ) (r : Run ε α) : (r.mapError g).events = r.events := rfl

theorem events_bind_of_error {e : ε} (h : r.answer = .error e) : (r >>= f).events = r.events := by
  rw [bind_eq, bind, h]

theorem events_bind_of_ok {a : α} (h : r.answer = .ok a) :
    (r >>= f).events = r.events ++ (f a).events := by
  rw [bind_eq, bind, h]

theorem answer_bind_of_error {e : ε} (h : r.answer = .error e) : (r >>= f).answer = .error e := by
  rw [bind_eq, bind, h]

theorem answer_bind_of_ok {a : α} (h : r.answer = .ok a) : (r >>= f).answer = (f a).answer := by
  rw [bind_eq, bind, h]

theorem bind_congr {g : α → Run ε β} (h : ∀ a, r.answer = .ok a → f a = g a) :
    r >>= f = r >>= g := by
  rw [bind_eq, bind_eq, bind, bind]
  cases hr : r.answer with
  | error e => rfl
  | ok a => simp only [h a hr]

theorem events_bind_of_forall (h : ∀ a, (f a).events = []) : (r >>= f).events = r.events := by
  cases hr : r.answer with
  | error e => exact events_bind_of_error hr
  | ok a => rw [events_bind_of_ok hr, h, List.append_nil]

end Run

end OnlineAssembler
