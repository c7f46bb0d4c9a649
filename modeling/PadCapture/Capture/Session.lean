import PadCapture.Adapter.Registration
import PadCapture.Capture.Poller

/-!
# Capture sessions

A session brackets the time in which samples are read as new bindings.  A
capturing session has a registration, which holds capture mode open; an idle one
has none.  Beginning and ending both make the poller forget a half binding.
-/

namespace PadCapture

inductive Session.Phase where
  | idle
  | capturing
deriving DecidableEq, Repr

structure Session where
  phase : Session.Phase
  poller : Poller
  registration : Option Registration
  isSome_registration_iff : registration.isSome ↔ phase = .capturing
deriving DecidableEq, Repr

namespace Session

def kind (session : Session) : BindingKind := session.poller.kind

/-- The session of a phase, with a registration if it captures. -/
def inPhase (phase : Phase) (poller : Poller) : Session where
  phase := phase
  poller := poller
  registration := match phase with
    | .idle => none
    | .capturing => some ⟨⟩
  isSome_registration_iff := by cases phase <;> simp

def withPoller (session : Session) (poller : Poller) : Session := { session with poller }

@[simp] theorem phase_inPhase (phase : Phase) (poller : Poller) :
    (inPhase phase poller).phase = phase := rfl

@[simp] theorem phase_withPoller (session : Session) (poller : Poller) :
    (session.withPoller poller).phase = session.phase := rfl

@[simp] theorem poller_withPoller (session : Session) (poller : Poller) :
    (session.withPoller poller).poller = poller := rfl

def create (kind : BindingKind) : Logged Session := do
  Logged.note (.sessionCreated kind)
  return .inPhase .idle (.fresh kind)

/-- Begin with an idle session. -/
def start (session : Session) (adapter : Adapter) : Logged (Session × Adapter) := do
  Logged.note (.captureBegun session.kind)
  let poller ← session.poller.reset
  let (registration, adapter) ← Registration.acquire adapter
  return (⟨.capturing, poller, some registration, by simp⟩, adapter)

def next (session : Session) (adapter : Adapter) :
    Logged (Session × Option Params × Adapter) := do
  let outcome ← session.poller.next adapter
  match outcome.binding with
  | some binding =>
      Logged.note (.bindingCaptured session.kind binding)
      return (session.withPoller outcome.poller, some binding, outcome.rest)
  | none => return (session.withPoller outcome.poller, none, outcome.rest)

/-- End a capturing session. -/
def stop (session : Session) (adapter : Adapter) : Logged (Session × Adapter) := do
  Logged.note (.captureEnding session.kind)
  let adapter ← Registration.drop session.registration adapter
  let poller ← session.poller.reset
  return (.inPhase .idle poller, adapter)

def discard (session : Session) (adapter : Adapter) : Logged Adapter :=
  Registration.drop session.registration adapter

def launch (kind : BindingKind) (adapter : Adapter) : Logged (Session × Adapter) := do
  let session ← create kind
  session.start adapter

end Session

end PadCapture
