import Mathlib

/-!
# `telemetry`: tracing set up once per process, and the panic hook chain

`init_tracing` changes three things that belong to the whole process: the `log` logger
(`LogTracer::init`), the global default `tracing` subscriber (`set_global_default`), and the
panic hook (`set_tracing_panic_hook`, which chains `panic_hook` in front of the hook it
replaces).  `Process` holds the three; each function of `telemetry/src/lib.rs` is a step on it
that keeps what it changed even when it then fails, as Rust's calls do.  What other crates
answer (the environment, `RUST_LOG`, the log file appender, the backtrace) comes in as data.

Every call installs the logger, a failed one too (and nothing else: `initTracing_error_state`),
and the first step fails once it is installed.  So a run of calls is decided by its first call
(`initTracingRun_first_call`), and at most one call succeeds:

    (initTracingRun appName envs p).1.countP Except.isOk ≤ (if p.loggerSet then 0 else 1) ∧
      (initTracingRun appName envs p).2.hook =
        if (initTracingRun appName envs p).1.any Except.isOk then tracingHook p.hook
        else p.hook                                                   (initTracingRun_hook)

On a panic the installed hook calls `tracing::error!` once and then the hook it replaced;
which events are recorded is the subscriber's filter's business.
-/

namespace PgReplicate.Telemetry

/-- `std::backtrace::BacktraceStatus`, which is `#[non_exhaustive]`: `other` is a status added
later, which `panic_hook`'s `_` arm catches. -/
inductive BacktraceStatus
  | unsupported
  | disabled
  | captured
  | other
  deriving DecidableEq, Repr

/-- A panic's payload as `panic_hook` tries to read it: a `&str`, a `String`, or neither. -/
inductive Payload
  | str (s : String)
  | string (s : String)
  | other
  deriving DecidableEq, Repr

structure Location where
  file : String
  line : Nat
  col : Nat
  deriving DecidableEq, Repr

/-- What `panic_hook` reads: the panic's payload and location, and the backtrace
`Backtrace::capture()` returns during the call, with its status. -/
structure PanicInfo (B : Type) where
  payload : Payload
  location : Option Location
  backtrace : B
  status : BacktraceStatus

structure PanicEvent (B : Type) where
  payload : String
  location : Option String
  backtrace : Option B
  note : Option String
  message : String
  deriving DecidableEq, Repr

/-- What a panic hook does with a panic, in order: the `tracing::error!` calls it makes, and
what the hooks it was chained onto write (the standard hook writes the message to stderr). -/
inductive HookOutput (B W : Type)
  | event (e : PanicEvent B)
  | written (w : W)

inductive Writer
  | rollingFiles (directory fileName fileSuffix : String) (maxLogFiles : Nat)
  | terminal
  deriving DecidableEq, Repr

structure Subscriber where
  filter : String
  writer : Writer
  deriving DecidableEq, Repr

structure Process (B W : Type) where
  loggerSet : Bool
  subscriber : Option Subscriber
  hook : PanicInfo B → List (HookOutput B W)

inductive TracingError
  | initAppender
  | initLogTracer
  | setGlobalDefault
  | io
  deriving DecidableEq, Repr

inductive LogFlusher
  | flusher
  | nullFlusher
  deriving DecidableEq, Repr

/-- What the crates `init_tracing` calls answer, for one call: `Environment::load()` (is it
production, or an I/O error), `RUST_LOG` when it is set and parses, and whether the rolling
file appender can be built. -/
structure InitEnv where
  isProd : Except Unit Bool
  rustLog : Option String
  appenderBuilds : Bool

/-! ## Algorithm -/

def Location.display (l : Location) : String :=
  l.file ++ ":" ++ toString l.line ++ ":" ++ toString l.col

/-- `panic_hook`'s `match backtrace.status()`: the backtrace, or a note saying why not. -/
def backtraceNote {B : Type} (backtrace : B) : BacktraceStatus → Option B × Option String
  | .captured => (some backtrace, none)
  | .disabled => (none, some "run with RUST_BACKTRACE=1 to display backtraces")
  | .unsupported => (none, some "backtraces are not supported on this platform")
  | .other => (none, some "backtrace status is unknown")

/-- `panic_hook`'s `downcast_ref` chain. -/
def payloadText : Payload → String
  | .str s => s
  | .string s => s
  | .other => "unknown panic payload"

/-- `panic_hook`: the fields of its `tracing::error!` call. -/
def panicHook {B : Type} (info : PanicInfo B) : PanicEvent B :=
  { payload := payloadText info.payload
    location := info.location.map Location.display
    backtrace := (backtraceNote info.backtrace info.status).1
    note := (backtraceNote info.backtrace info.status).2
    message := "a panic occurred" }

section
variable {B W : Type}

/-- The hook `set_tracing_panic_hook` installs over `prev`: `panic_hook`, then `prev`. -/
def tracingHook (prev : PanicInfo B → List (HookOutput B W)) :
    PanicInfo B → List (HookOutput B W) :=
  fun info => .event (panicHook info) :: prev info

/-- `set_tracing_panic_hook`: `take_hook`, then `set_hook` of the chained hook. -/
def setTracingPanicHook (p : Process B W) : Process B W := { p with hook := tracingHook p.hook }

/-- `LogTracer::init()`: installs the `log` logger, unless one is installed already. -/
def logTracerInit (p : Process B W) : Except TracingError Unit × Process B W :=
  if p.loggerSet then (.error .initLogTracer, p) else (.ok (), { p with loggerSet := true })

/-- `set_global_default(subscriber)`: fails when a global default is set already. -/
def setGlobalDefault (sub : Subscriber) (p : Process B W) : Except TracingError Unit × Process B W :=
  match p.subscriber with
  | some _ => (.error .setGlobalDefault, p)
  | none => (.ok (), { p with subscriber := some sub })

/-- `configure_prod_tracing`: daily files `logs/<app_name>.*.log`, at most 5. -/
def configureProdTracing (filter appName : String) (appenderBuilds : Bool) (p : Process B W) :
    Except TracingError LogFlusher × Process B W :=
  if !appenderBuilds then (.error .initAppender, p)
  else
    match setGlobalDefault ⟨filter, .rollingFiles "logs" appName "log" 5⟩ p with
    | (.error e, p) => (.error e, p)
    | (.ok (), p) => (.ok .flusher, p)

def configureDevTracing (filter : String) (p : Process B W) :
    Except TracingError LogFlusher × Process B W :=
  match setGlobalDefault ⟨filter, .terminal⟩ p with
  | (.error e, p) => (.error e, p)
  | (.ok (), p) => (.ok .nullFlusher, p)

def initTracing (appName : String) (env : InitEnv) (p : Process B W) :
    Except TracingError LogFlusher × Process B W :=
  match logTracerInit p with
  | (.error e, p) => (.error e, p)
  | (.ok (), p) =>
    match env.isProd with
    | .error _ => (.error .io, p)
    | .ok isProd =>
      let filter := env.rustLog.getD "info"
      match (if isProd then configureProdTracing filter appName env.appenderBuilds p
          else configureDevTracing filter p) with
      | (.error e, p) => (.error e, p)
      | (.ok logFlusher, p) => (.ok logFlusher, setTracingPanicHook p)

/-- `init_tracing(app_name)` called once for each of `envs`, in order. -/
def initTracingRun (appName : String) :
    List InitEnv → Process B W → List (Except TracingError LogFlusher) × Process B W
  | [], p => ([], p)
  | env :: envs, p =>
    ((initTracing appName env p).1 :: (initTracingRun appName envs (initTracing appName env p).2).1,
      (initTracingRun appName envs (initTracing appName env p).2).2)

end

inductive OnceState
  | incomplete
  | poisoned
  | complete
  deriving DecidableEq, Repr

section
variable {σ : Type}

/-- `Once::call_once(f)`, `f` answering whether it returned (`false`: it panicked): `f` runs on
the first call only; a panic poisons the `Once`, and every later call panics without running
`f`.  The answer is whether the call returned. -/
def callOnce (f : σ → Bool × σ) : OnceState × σ → Bool × (OnceState × σ)
  | (.incomplete, s) => ((f s).1, (if (f s).1 then .complete else .poisoned, (f s).2))
  | (.poisoned, s) => (false, (.poisoned, s))
  | (.complete, s) => (true, (.complete, s))

end

section
variable {B W : Type}

/-- The closure of `init_test_tracing`: with `ENABLE_TRACING` set, `init_tracing("test")`,
whose error `expect` turns into a panic. -/
def initTestTracingClosure (enableTracing : Bool) (env : InitEnv) (p : Process B W) :
    Bool × Process B W :=
  if enableTracing then
    match initTracing "test" env p with
    | (.error _, p) => (false, p)
    | (.ok _, p) => (true, p)
  else (true, p)

/-- `init_test_tracing()`: the closure under `INIT_TEST_TRACING.call_once`. -/
def initTestTracing (enableTracing : Bool) (env : InitEnv) :
    OnceState × Process B W → Bool × (OnceState × Process B W) :=
  callOnce (initTestTracingClosure enableTracing env)

end

/-! ## Lemmas -/

section
variable {B W : Type}

@[simp] theorem setTracingPanicHook_loggerSet (p : Process B W) :
    (setTracingPanicHook p).loggerSet = p.loggerSet := rfl

@[simp] theorem setTracingPanicHook_hook (p : Process B W) :
    (setTracingPanicHook p).hook = tracingHook p.hook := rfl

theorem setGlobalDefault_cases (sub : Subscriber) (p : Process B W) :
    setGlobalDefault sub p = (.error .setGlobalDefault, p) ∨
      setGlobalDefault sub p = (.ok (), { p with subscriber := some sub }) := by
  unfold setGlobalDefault
  split <;> simp

/-- A configuration step fails and changes nothing, or sets a subscriber and nothing else. -/
theorem configureProdTracing_cases (filter appName : String) (appenderBuilds : Bool)
    (p : Process B W) :
    (∃ e, configureProdTracing filter appName appenderBuilds p = (.error e, p)) ∨
      ∃ f sub, configureProdTracing filter appName appenderBuilds p =
        (.ok f, { p with subscriber := some sub }) := by
  unfold configureProdTracing
  split
  · exact .inl ⟨_, rfl⟩
  · rcases setGlobalDefault_cases ⟨filter, .rollingFiles "logs" appName "log" 5⟩ p with h | h <;>
      rw [h]
    exacts [.inl ⟨_, rfl⟩, .inr ⟨_, _, rfl⟩]

theorem configureDevTracing_cases (filter : String) (p : Process B W) :
    (∃ e, configureDevTracing filter p = (.error e, p)) ∨
      ∃ f sub, configureDevTracing filter p = (.ok f, { p with subscriber := some sub }) := by
  unfold configureDevTracing
  rcases setGlobalDefault_cases ⟨filter, .terminal⟩ p with h | h <;> rw [h]
  exacts [.inl ⟨_, rfl⟩, .inr ⟨_, _, rfl⟩]

/-- Once a logger is installed, `init_tracing` fails at its first step and changes nothing. -/
theorem initTracing_loggerSet (appName : String) (env : InitEnv) {p : Process B W}
    (h : p.loggerSet = true) : initTracing appName env p = (.error .initLogTracer, p) := by
  simp only [initTracing, logTracerInit, h, if_true]

/-- **One call of `init_tracing`**, all it can do: fail at its first step and change nothing;
fail later, having installed only the logger; or succeed, having installed the logger and a
subscriber, and wrap the panic hook. -/
theorem initTracing_cases (appName : String) (env : InitEnv) (p : Process B W) :
    (p.loggerSet = true ∧ initTracing appName env p = (.error .initLogTracer, p)) ∨
      (p.loggerSet = false ∧
        ∃ e, initTracing appName env p = (.error e, { p with loggerSet := true })) ∨
      (p.loggerSet = false ∧ ∃ f sub, initTracing appName env p =
        (.ok f, setTracingPanicHook { p with loggerSet := true, subscriber := some sub })) := by
  cases hl : p.loggerSet
  · simp only [initTracing, logTracerInit, hl, Bool.false_eq_true, if_false]
    cases env.isProd with
    | error u => exact .inr (.inl ⟨trivial, _, rfl⟩)
    | ok isProd =>
      cases isProd
      · rcases configureDevTracing_cases (env.rustLog.getD "info") { p with loggerSet := true }
          with ⟨e, h⟩ | ⟨f, sub, h⟩ <;> simp only [h, Bool.false_eq_true, if_false]
        exacts [.inr (.inl ⟨trivial, _, rfl⟩), .inr (.inr ⟨trivial, _, _, rfl⟩)]
      · rcases configureProdTracing_cases (env.rustLog.getD "info") appName env.appenderBuilds
          { p with loggerSet := true } with ⟨e, h⟩ | ⟨f, sub, h⟩ <;> simp only [h, if_true]
        exacts [.inr (.inl ⟨trivial, _, rfl⟩), .inr (.inr ⟨trivial, _, _, rfl⟩)]
  · exact .inl ⟨rfl, initTracing_loggerSet appName env hl⟩

/-- Afterwards a logger is installed; a call succeeds only if none was installed before; and
it wraps the panic hook exactly when it succeeds. -/
theorem initTracing_spec (appName : String) (env : InitEnv) (p : Process B W) :
    (initTracing appName env p).2.loggerSet = true ∧
      ((initTracing appName env p).1.isOk → p.loggerSet = false) ∧
      (initTracing appName env p).2.hook =
        if (initTracing appName env p).1.isOk then tracingHook p.hook else p.hook := by
  rcases initTracing_cases appName env p with ⟨hl, h⟩ | ⟨hl, e, h⟩ | ⟨hl, f, sub, h⟩ <;>
    simp [h, hl, Except.isOk, Except.toBool]

/-- **Failure changes only the logger.** When `init_tracing` fails, the process is the one it
started from with the `log` logger installed: no subscriber is set and the panic hook is the
old one. -/
theorem initTracing_error_state (appName : String) (env : InitEnv) (p : Process B W)
    (e : TracingError) (h : (initTracing appName env p).1 = .error e) :
    (initTracing appName env p).2 = { p with loggerSet := true } := by
  rcases initTracing_cases appName env p with ⟨hl, h'⟩ | ⟨-, e', h'⟩ | ⟨-, f, sub, h'⟩ <;>
    rw [h'] at h ⊢
  · cases p
    simp_all
  · cases h

/-- **Run.** So every call of a run from such a process does. -/
theorem initTracingRun_loggerSet (appName : String) (envs : List InitEnv) {p : Process B W}
    (h : p.loggerSet = true) :
    initTracingRun appName envs p = (List.replicate envs.length (.error .initLogTracer), p) := by
  induction envs with
  | nil => rfl
  | cons env envs ih =>
    simp only [initTracingRun, initTracing_loggerSet appName env h, ih, List.length_cons,
      List.replicate_succ]

/-- **One shot.** Whatever the other crates answer, a run of `init_tracing` calls is decided by
its first call: every later call fails with `InitLogTracer` and leaves the process as the first
call left it, so a failed first call cannot be retried. -/
theorem initTracingRun_first_call (appName : String) (env : InitEnv) (envs : List InitEnv)
    (p : Process B W) :
    initTracingRun appName (env :: envs) p =
      ((initTracing appName env p).1 :: List.replicate envs.length (.error .initLogTracer),
        (initTracing appName env p).2) := by
  rw [initTracingRun, initTracingRun_loggerSet appName envs (initTracing_spec appName env p).1]

/-- **Once per process.** Whatever the other crates answer, at most one of the calls succeeds
(none if a logger was installed before), and the panic hook ends up wrapped once if one did,
left alone if none did. -/
theorem initTracingRun_hook (appName : String) (envs : List InitEnv) (p : Process B W) :
    (initTracingRun appName envs p).1.countP Except.isOk ≤ (if p.loggerSet then 0 else 1) ∧
      (initTracingRun appName envs p).2.hook =
        if (initTracingRun appName envs p).1.any Except.isOk then tracingHook p.hook
        else p.hook := by
  induction envs generalizing p with
  | nil => simp [initTracingRun]
  | cons env envs ih =>
    obtain ⟨hset, hok, hhook⟩ := initTracing_spec appName env p
    obtain ⟨hcount, hrest⟩ := ih (initTracing appName env p).2
    rw [hset, if_pos rfl, Nat.le_zero] at hcount
    have hnone : (initTracingRun appName envs (initTracing appName env p).2).1.any Except.isOk
        = false := by
      simpa [List.countP_eq_zero] using hcount
    rw [hnone, if_neg Bool.false_ne_true] at hrest
    simp only [initTracingRun, List.countP_cons, hcount, List.any_cons, hnone, Bool.or_false,
      Nat.zero_add]
    refine ⟨?_, hrest.trans hhook⟩
    cases hr : (initTracing appName env p).1.isOk
    · simp
    · simp [hok hr]

end

end PgReplicate.Telemetry
