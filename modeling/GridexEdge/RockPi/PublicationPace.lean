import GridexEdge.Foundation.Throttle
import GridexEdge.RockPi.Publications

/-!
How often the gateway publishes, and when.

A run consists of the passes of the loop, the last one perhaps cut short, and of the callbacks of
the library. A callback may fall between any two calls, but not between what a call asks about
the connection and what it hands over.
-/

namespace GridexEdge.RockPi

open GridexEdge.Core Foundation

/-! ### Passes and callbacks -/

/-- The kind of message that a call may hand over, and the time of its pass. -/
def PublishEvent.publishes : PublishEvent → Option (TopicKind × SteadyTime)
  | .health now _ _ _ _ => some (.health, now)
  | .nodeTelemetry now _ slot _ => some (.nodeTelemetry (slot + 1), now)
  | .systemTelemetry now _ _ => some (.systemTelemetry, now)
  | _ => none

/-- When a call asks for a message of a kind. -/
def PublishEvent.asks (kind : TopicKind) (event : PublishEvent) : List SteadyTime :=
  match event.publishes with
  | some (asked, now) => if asked = kind then [now] else []
  | none => []

namespace PublishLoop

section Views

variable (settings : PublishSettings) (kind : TopicKind) (loop : PublishLoop)

/-- The earliest time of the next message of a kind. -/
def deadline (loop : PublishLoop) : TopicKind → SteadyTime
  | .health => loop.nextHealthPublish
  | .nodeTelemetry _ => loop.nextTelemetryPublish
  | .systemTelemetry => loop.nextSystemTelemetryPublish

end Views

variable {settings : PublishSettings} {loop : PublishLoop}

/-- The last callback has told of a connection. -/
def ConnectedLast (before : List PublishEvent) : Prop :=
  ∃ earlier later, before = earlier ++ .onConnect 0 :: later ∧
    ∀ event ∈ later, event.isCallback = false

theorem ConnectedLast.append {before : List PublishEvent} (connected : ConnectedLast before)
    {event : PublishEvent} (other : event.isCallback = false) :
    ConnectedLast (before ++ [event]) := by
  obtain ⟨earlier, later, rfl, others⟩ := connected
  refine ⟨earlier, later ++ [event], by simp, ?_⟩
  rw [List.forall_mem_append]
  exact ⟨others, List.forall_mem_singleton.mpr other⟩

end PublishLoop

end GridexEdge.RockPi
