import GridexEdge.RockPi.NorthboundRegisterBank
import GridexEdge.Foundation.Runs

/-!
The command mailbox under any interleaving of northbound writes and takes.

A write that changes the sequence register commits the payload registers as it
leaves them. A take reads the payload live, and a changed heartbeat is enough to
trigger it, so payload words written ahead of their sequence can take effect.
-/

namespace GridexEdge.RockPi

open GridexEdge.Core Foundation NorthboundRegisterBank

/-- The bank together with the payload of the last sequence change. -/
structure CommandMailbox where
  bank : NorthboundRegisterBank := {}
  committedPower : UInt16 := 0
  committedEnable : UInt16 := 0

inductive MailboxEvent where
  | writeHolding (start : UInt16) (values : List UInt16)
  | takeCommand

namespace CommandMailbox

variable (mailbox : CommandMailbox)

def sequence : UInt16 := mailbox.bank.holdingRegister Holding.commandSequence

def livePower : UInt16 := mailbox.bank.holdingRegister Holding.requestedPowerKwX10

def liveEnable : UInt16 := mailbox.bank.holdingRegister Holding.commandEnable

/-- Record the payload if the sequence has moved. -/
def commit (before : UInt16) : CommandMailbox :=
  if mailbox.sequence = before then mailbox
  else
    { mailbox with
      committedPower := mailbox.livePower
      committedEnable := mailbox.liveEnable }

def step : MailboxEvent → CommandMailbox
  | .writeHolding start values =>
      { mailbox with bank := (mailbox.bank.writeHolding start values).2 }.commit mailbox.sequence
  | .takeCommand => { mailbox with bank := mailbox.bank.takeCommand.2 }

/-- A delivered command carries the committed power and enable. -/
def CarriesCommitted : MailboxEvent → Prop
  | .writeHolding _ _ => True
  | .takeCommand =>
      ∀ command, mailbox.bank.takeCommand.1 = some command →
        command.enabled = (mailbox.committedEnable == 1) ∧
          command.requestedPowerKw =
            effectivePowerKw mailbox.committedPower mailbox.committedEnable

/-- The payload registers mean what they meant at the last sequence change. -/
def PayloadUntouched : Prop :=
  (mailbox.liveEnable = 1 ↔ mailbox.committedEnable = 1) ∧
    (mailbox.committedEnable = 1 → mailbox.livePower = mailbox.committedPower)

/-- No take finds a moved trigger above an uncommitted payload. -/
def NothingPending : MailboxEvent → Prop
  | .writeHolding _ _ => True
  | .takeCommand => mailbox.bank.Idle ∨ mailbox.PayloadUntouched

theorem signed_injective {first second : UInt16} (same : signed first = signed second) :
    first = second := by
  rw [← unsigned_signed first, same, unsigned_signed]

/-- Two payloads carry the same command exactly when they agree on the enable
and, while it is set, on the power. -/
theorem sameEffect_iff (power enable otherPower otherEnable : UInt16) :
    ((enable == 1) = (otherEnable == 1) ∧
        effectivePowerKw power enable = effectivePowerKw otherPower otherEnable) ↔
      (enable = 1 ↔ otherEnable = 1) ∧ (otherEnable = 1 → power = otherPower) := by
  by_cases live : enable = 1 <;> by_cases committed : otherEnable = 1
  · subst live committed
    simp only [effectivePowerKw, if_true, true_and, forall_true_left]
    constructor
    · intro same
      have scaled : (signed power : ℚ) = signed otherPower := by linarith
      exact signed_injective (by exact_mod_cast scaled)
    · rintro rfl
      rfl
  · simp [live, committed]
  · simp [live, committed]
  · simp [live, committed, effectivePowerKw]

theorem carriesCommitted_event_iff (event : MailboxEvent) :
    mailbox.CarriesCommitted event ↔ mailbox.NothingPending event := by
  cases event with
  | writeHolding => exact Iff.rfl
  | takeCommand =>
      by_cases idle : mailbox.bank.Idle
      · simp [CarriesCommitted, NothingPending, mailbox.bank.takeCommand_of_idle idle, idle]
      · simp only [CarriesCommitted, NothingPending, mailbox.bank.takeCommand_of_not_idle idle,
          idle, false_or, Option.some.injEq, forall_eq']
        exact sameEffect_iff _ _ _ _

/-- A write in the documented manner: the payload moves only with the sequence. -/
def MovesTogether : MailboxEvent → Prop
  | .writeHolding start values =>
      let written := { mailbox with bank := (mailbox.bank.writeHolding start values).2 }
      written.sequence ≠ mailbox.sequence ∨
        written.livePower = mailbox.livePower ∧ written.liveEnable = mailbox.liveEnable
  | .takeCommand => True

theorem step_live_eq_committed {event : MailboxEvent} (together : mailbox.MovesTogether event)
    (live : mailbox.livePower = mailbox.committedPower ∧
      mailbox.liveEnable = mailbox.committedEnable) :
    (mailbox.step event).livePower = (mailbox.step event).committedPower ∧
      (mailbox.step event).liveEnable = (mailbox.step event).committedEnable := by
  cases event with
  | takeCommand => simpa [step, livePower, liveEnable] using live
  | writeHolding start values =>
      simp only [step, commit]
      split
      · next kept =>
          rcases together with moved | ⟨samePower, sameEnable⟩
          · exact absurd kept moved
          · exact ⟨samePower.trans live.1, sameEnable.trans live.2⟩
      · exact ⟨rfl, rfl⟩

/-- A client that always moves payload and sequence in one write has every
command delivered as committed, whatever heartbeats it sends in between. -/
theorem carriesCommitted_of_movesTogether (events : List MailboxEvent)
    (together : Along step MovesTogether ({} : CommandMailbox) events) :
    Along step CarriesCommitted ({} : CommandMailbox) events := by
  suffices general : ∀ mailbox : CommandMailbox,
      mailbox.livePower = mailbox.committedPower ∧
        mailbox.liveEnable = mailbox.committedEnable →
      Along step MovesTogether mailbox events → Along step CarriesCommitted mailbox events from
    general {} (by decide) together
  clear together
  induction events with
  | nil => exact fun _ _ _ => trivial
  | cons event rest inductionHypothesis =>
      intro mailbox live together
      refine ⟨?_, inductionHypothesis _ (mailbox.step_live_eq_committed together.1 live) together.2⟩
      rw [carriesCommitted_event_iff]
      cases event with
      | writeHolding => trivial
      | takeCommand => exact .inr ⟨by rw [live.2], fun _ => live.1⟩

/-- Over any interleaving of writes and takes, every delivered command is the
committed one exactly when no take meets a moved trigger above an uncommitted
payload. -/
theorem carriesCommitted_along_iff (events : List MailboxEvent) :
    Along step CarriesCommitted ({} : CommandMailbox) events ↔
      Along step NothingPending ({} : CommandMailbox) events :=
  along_congr step (fun _ => True)
    (fun mailbox event _ => mailbox.carriesCommitted_event_iff event)
    (fun _ _ _ _ => trivial) trivial events

/-- A hundred kilowatts and the enable are written without a sequence; the
heartbeat alone makes them effective. -/
theorem carriesCommitted_fails :
    ¬∀ events : List MailboxEvent, Along step CarriesCommitted ({} : CommandMailbox) events := by
  intro always
  have along := always [.writeHolding 1 [1000, 1], .writeHolding 3 [1], .takeCommand]
  have carried := (along.2.2.1 _ rfl).1
  exact absurd carried (by decide)

end CommandMailbox

end GridexEdge.RockPi
