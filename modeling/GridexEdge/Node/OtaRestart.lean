import GridexEdge.Foundation.Throttle
import GridexEdge.Node.OtaReplies

/-!
The restart after an update.

A success sets a deadline on a counter that wraps, and the loop compares the two as signed
numbers. By the times themselves: the answer always has its quarter of a second, and a loop
that does not stand still for half a round of the counter restarts at its first check after it.
-/

namespace GridexEdge.Node

open Foundation

/-- What the endpoint meets, at a time that does not wrap. -/
inductive OtaMoment where
  | post (time : Nat) (request : HttpRequest) (parts : List FilePart)
  | restartCheck (time : Nat)

namespace OtaMoment

def time : OtaMoment → Nat
  | .post time _ _ => time
  | .restartCheck time => time

def isCheck : OtaMoment → Bool
  | .post .. => false
  | .restartCheck _ => true

def event : OtaMoment → ServerEvent
  | .post time request parts =>
      .post { request := request, parts := parts, nowMs := clock time }
  | .restartCheck time => .restartCheck (clock time)

def call (moment : OtaMoment) : TimedCall := ⟨moment.time, moment.time, le_rfl⟩

end OtaMoment

/-- The service, and when it last answered with success since its start. -/
structure OtaEndpoint where
  service : EspOtaService
  answeredAt : Option Nat := none

namespace OtaEndpoint

variable (endpoint : OtaEndpoint)

def start (config : EspOtaConfig) : OtaEndpoint := { service := .boot config }

def restarts : OtaMoment → Bool
  | .post .. => false
  | .restartCheck time => endpoint.service.restartDue (clock time)

def answered : OtaMoment → Option Nat
  | .post time request parts =>
      if (endpoint.service.answer
          { request := request, parts := parts, nowMs := clock time }).1.status = 200 then some time
      else endpoint.answeredAt
  | .restartCheck time =>
      if endpoint.service.restartDue (clock time) then none else endpoint.answeredAt

def step (moment : OtaMoment) : OtaEndpoint where
  service := endpoint.service.serve moment.event
  answeredAt := endpoint.answered moment

/-- The last success has had its time. -/
def Due (time : Nat) : Prop := ∃ answeredAt, endpoint.answeredAt = some answeredAt ∧
  answeredAt + 250 ≤ time

/-- The deadline of the service belongs to the last success. -/
structure Promises (since : Nat) : Prop where
  pending : endpoint.service.restartPending = endpoint.answeredAt.isSome
  deadline : ∀ answeredAt, endpoint.answeredAt = some answeredAt →
    endpoint.service.restartAtMs = clock (answeredAt + 250) ∧ answeredAt ≤ since

variable {endpoint} {since time : Nat}

theorem Promises.post (promises : endpoint.Promises since) (later : since ≤ time)
    (request : HttpRequest) (parts : List FilePart) :
    (endpoint.step (.post time request parts)).Promises time := by
  let post : OtaPost := { request := request, parts := parts, nowMs := clock time }
  have keeps := endpoint.service.afterParts_keeps request parts
  by_cases success : (endpoint.service.answer post).1.status = 200
  · have answered : endpoint.answered (.post time request parts) = some time := if_pos success
    obtain ⟨pending, deadline⟩ := EspOtaService.handleResult_success _ success
    refine ⟨?_, fun answeredAt same => ?_⟩
    · rw [step, answered]
      exact pending
    · cases answered.symm.trans same
      refine ⟨deadline.trans ?_, le_rfl⟩
      exact (UInt32.ofNat_add time 250).symm
  · have answered : endpoint.answered (.post time request parts) = endpoint.answeredAt :=
      if_neg success
    have unchanged : endpoint.service.serve (.post post) =
        endpoint.service.afterParts request parts :=
      EspOtaService.handleResult_failure _ success
    refine ⟨?_, fun answeredAt same => ?_⟩
    · rw [step, answered]
      exact (congrArg EspOtaService.restartPending unchanged).trans
        (keeps.2.1.trans promises.pending)
    · obtain ⟨deadline, before⟩ := promises.deadline answeredAt (answered.symm.trans same)
      refine ⟨?_, before.trans later⟩
      exact (congrArg EspOtaService.restartAtMs unchanged).trans (keeps.2.2.trans deadline)

theorem Promises.restartCheck (promises : endpoint.Promises since) (later : since ≤ time) :
    (endpoint.step (.restartCheck time)).Promises time := by
  cases due : endpoint.service.restartDue (clock time) with
  | true =>
      have restarted : endpoint.service.serve (.restartCheck (clock time)) =
          .boot endpoint.service.config := if_pos due
      have forgotten : endpoint.answered (.restartCheck time) = none := if_pos due
      refine ⟨?_, fun answeredAt same => ?_⟩
      · rw [step, forgotten]
        exact congrArg EspOtaService.restartPending restarted
      · cases forgotten.symm.trans same
  | false =>
      have waits : ¬endpoint.service.restartDue (clock time) = true :=
        Bool.eq_false_iff.mp due
      have kept : endpoint.step (.restartCheck time) = endpoint := by
        rw [step, answered, if_neg waits]
        exact congrArg (OtaEndpoint.mk · endpoint.answeredAt) (if_neg waits)
      rw [kept]
      exact ⟨promises.pending, fun answeredAt same =>
        ⟨(promises.deadline answeredAt same).1, (promises.deadline answeredAt same).2.trans later⟩⟩

theorem Promises.step (promises : endpoint.Promises since) {moment : OtaMoment}
    (later : since ≤ moment.time) : (endpoint.step moment).Promises moment.time := by
  cases moment with
  | post time request parts => exact promises.post later request parts
  | restartCheck time => exact promises.restartCheck later

theorem Promises.restartDue_iff (promises : endpoint.Promises since) (later : since ≤ time)
    (soon : ∀ answeredAt, endpoint.answeredAt = some answeredAt →
      time < answeredAt + 250 + 2 ^ 31) :
    endpoint.service.restartDue (clock time) = true ↔ endpoint.Due time := by
  rw [EspOtaService.restartDue, promises.pending, Bool.and_eq_true]
  cases answer : endpoint.answeredAt with
  | none =>
      refine ⟨fun due => absurd due.1 Bool.false_ne_true, ?_⟩
      rintro ⟨answeredAt, same, -⟩
      cases answer.symm.trans same
  | some answeredAt =>
      obtain ⟨deadline, before⟩ := promises.deadline answeredAt answer
      have sign := @reached_iff (answeredAt + 250) time (by omega)
        (soon answeredAt answer)
      rw [deadline]
      constructor
      · rintro ⟨-, passed⟩
        exact ⟨answeredAt, answer, sign.mp passed⟩
      · rintro ⟨other, same, passed⟩
        cases answer.symm.trans same
        exact ⟨rfl, sign.mpr passed⟩

/-- No restart is early, however late the check is. -/
theorem Promises.due_of_restarts (promises : endpoint.Promises since) {moment : OtaMoment}
    (later : since ≤ moment.time) (restarts : endpoint.restarts moment = true) :
    endpoint.Due moment.time := by
  cases moment with
  | post time request parts => exact absurd restarts Bool.false_ne_true
  | restartCheck time =>
      by_contra early
      apply early
      apply (promises.restartDue_iff later fun answeredAt same => ?_).mp restarts
      have before : ¬answeredAt + 250 ≤ time := fun passed => early ⟨answeredAt, same, passed⟩
      change time < answeredAt + 250 + 2 ^ 31
      omega

theorem early_along {moments : List OtaMoment} (promises : endpoint.Promises since)
    (chronological : Chronological since (moments.map OtaMoment.call)) :
    Along step (fun endpoint moment => endpoint.restarts moment = true → endpoint.Due moment.time)
      endpoint moments := by
  induction moments generalizing endpoint since with
  | nil => trivial
  | cons moment rest inductionHypothesis =>
      exact ⟨promises.due_of_restarts chronological.1,
        inductionHypothesis (promises.step chronological.1) chronological.2⟩

/-- Between checks that are close enough, no deadline can slip by half a round. -/
theorem prompt_along {looked : Nat} {moments : List OtaMoment} (promises : endpoint.Promises since)
    (before : looked ≤ since)
    (waiting : ∀ answeredAt, endpoint.answeredAt = some answeredAt → looked < answeredAt + 250)
    (chronological : Chronological since (moments.map OtaMoment.call))
    (frequent : Frequent (2 ^ 31) looked ((moments.filter OtaMoment.isCheck).map OtaMoment.call)) :
    Along step (fun endpoint moment => endpoint.restarts moment = true ↔
      moment.isCheck = true ∧ endpoint.Due moment.time) endpoint moments := by
  induction moments generalizing endpoint since looked with
  | nil => trivial
  | cons moment rest inductionHypothesis =>
      obtain ⟨later, chronological⟩ := chronological
      have kept := promises.step later
      cases moment with
      | post time request parts =>
          change since ≤ time at later
          refine ⟨?_, inductionHypothesis kept (before.trans later) (fun answeredAt same => ?_)
            chronological frequent⟩
          · exact ⟨fun never => absurd never Bool.false_ne_true,
              fun never => absurd never.1 Bool.false_ne_true⟩
          · change endpoint.answered (.post time request parts) = some answeredAt at same
            rw [answered] at same
            split at same
            · cases same
              omega
            · exact waiting answeredAt same
      | restartCheck time =>
          obtain ⟨soon, frequent⟩ := frequent
          change since ≤ time at later
          change time < looked + 2 ^ 31 at soon
          have near : ∀ answeredAt, endpoint.answeredAt = some answeredAt →
              time < answeredAt + 250 + 2 ^ 31 := by
            intro answeredAt same
            have waits := waiting answeredAt same
            omega
          have exactly := promises.restartDue_iff later near
          refine ⟨?_, inductionHypothesis kept le_rfl (fun answeredAt same => ?_)
            chronological frequent⟩
          · exact exactly.trans (and_iff_right rfl).symm
          · change endpoint.answered (.restartCheck time) = some answeredAt at same
            rw [answered] at same
            split at same
            · cases same
            · next waits =>
                by_contra passed
                exact waits (exactly.mpr ⟨answeredAt, same, Nat.le_of_not_lt passed⟩)

/-- Whatever is posted, and over every wrap of the counter: the service restarts only at a
check that comes 250 ms after its last success or later. When the checks come within half a
round of each other, it restarts at each such check. -/
theorem restarts_after_success (config : EspOtaConfig) {since : Nat} {moments : List OtaMoment}
    (chronological : Chronological since (moments.map OtaMoment.call)) :
    Along step (fun endpoint moment => endpoint.restarts moment = true → endpoint.Due moment.time)
        (start config) moments ∧
      (Frequent (2 ^ 31) since ((moments.filter OtaMoment.isCheck).map OtaMoment.call) →
        Along step (fun endpoint moment => endpoint.restarts moment = true ↔
          moment.isCheck = true ∧ endpoint.Due moment.time) (start config) moments) := by
  have promises : (start config).Promises since :=
    ⟨rfl, fun _ same => absurd same (Option.some_ne_none _).symm⟩
  refine ⟨early_along promises chronological, fun frequent => ?_⟩
  apply prompt_along promises le_rfl _ chronological frequent
  exact fun _ same => absurd same (Option.some_ne_none _).symm

/-- An update shortly before the counter wraps. -/
def wrappingMoments : List OtaMoment :=
  [.post (2 ^ 32 - 100) EspOtaService.pilotUpdate.request EspOtaService.pilotUpdate.parts,
    .restartCheck (2 ^ 32 - 99), .restartCheck (2 ^ 32 + 149), .restartCheck (2 ^ 32 + 150)]

theorem restarts_after_success_wrapping :
    outputs step (fun endpoint moment => if endpoint.restarts moment then [moment.time] else [])
        (start EspOtaService.pilotConfig) wrappingMoments = [2 ^ 32 + 150] ∧
      Along step (fun endpoint moment => endpoint.restarts moment = true ↔
        moment.isCheck = true ∧ endpoint.Due moment.time)
        (start EspOtaService.pilotConfig) wrappingMoments := by
  have chronological : Chronological (2 ^ 32 - 1000) (wrappingMoments.map OtaMoment.call) := by
    refine ⟨?_, ?_, ?_, ?_, trivial⟩
    all_goals decide
  refine ⟨by decide +kernel, (restarts_after_success EspOtaService.pilotConfig chronological).2 ?_⟩
  refine ⟨?_, ?_, ?_, trivial⟩
  all_goals decide

end OtaEndpoint

end GridexEdge.Node
