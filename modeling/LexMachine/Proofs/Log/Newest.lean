import LexMachine.Log.Route
import Mathlib.Data.List.DropRight

/-!
# What a log in memory keeps

A route leads into memory on a number of ways, and on each an event has to get past the least levels
of the fan-outs on it (`Route.ways`). It is delivered once for each way that lets it through
(`Route.memory_log`). The log keeps the last of all deliveries since it was cleared, as many as it
has room for, whatever routes they came along (`Memory.keeps_newest`).
-/

namespace LexMachine.Log

/-! ## Room for the newest -/

namespace Memory

/-- That a log holds the last of some events, as many as it has room for. -/
def Keeps (m : Memory) (delivered : List Event) : Prop :=
  m.events.toList = delivered.rtake Limits.logBuffer

variable {m : Memory} {delivered : List Event}

theorem keeps_nil : ({} : Memory).Keeps [] := rfl

theorem Keeps.size_eq (h : m.Keeps delivered) : m.size = min delivered.length Limits.logBuffer := by
  have length : m.size = m.events.toList.length := Array.length_toList.symm
  rw [length, h, List.rtake, List.length_drop]
  omega

/-- Before an event the oldest events go for which there would be no room. -/
theorem toList_log (m : Memory) (e : Event) :
    (m.log e).events.toList = m.events.toList.drop (m.size + 1 - Limits.logBuffer) ++ [e] := by
  obtain ⟨events⟩ := m
  unfold Memory.log Memory.size
  rw [Array.toList_push]
  refine congrArg (· ++ [e]) ?_
  by_cases full : Limits.logBuffer ≤ events.size
  · rw [if_pos full, Array.toList_extract, List.extract_eq_take_drop, List.take_of_length_le,
      Nat.sub_add_comm full]
    rw [List.length_drop, Array.length_toList]
  · rw [if_neg full, Nat.sub_eq_zero_of_le (Nat.not_le.1 full), List.drop_zero]

/-- **One more event** leaves the last of those delivered. -/
theorem Keeps.log (h : m.Keeps delivered) (e : Event) : (m.log e).Keeps (delivered ++ [e]) := by
  have size := h.size_eq
  have room : 0 < Limits.logBuffer := by decide
  unfold Keeps at h ⊢
  have dropped : delivered.length - Limits.logBuffer + (m.size + 1 - Limits.logBuffer) =
      delivered.length + 1 - Limits.logBuffer := by omega
  rw [toList_log, h, List.rtake, List.drop_drop, dropped, List.rtake, List.length_append,
    List.length_singleton, List.drop_append_of_le_length (by omega)]

/-- Events that come one after the other. -/
theorem Keeps.foldl_log (h : m.Keeps delivered) (events : List Event) :
    (events.foldl Memory.log m).Keeps (delivered ++ events) := by
  induction events generalizing m delivered with
  | nil => rwa [List.append_nil]
  | cons e events ih =>
    rw [List.append_cons]
    exact ih (h.log e)

end Memory

/-! ## Ways into memory -/

/-- Whether an event gets past all least levels on a way. -/
def Event.passesAll (e : Event) (way : List Level) : Bool := way.all (e.level.passes ·)

/-- What ways that end in memory deliver there of an event: the event, once for each way that lets
it through. -/
def delivered (ways : List (List Level)) (e : Event) : List Event :=
  List.replicate (ways.countP e.passesAll) e

theorem delivered_append (a b : List (List Level)) (e : Event) :
    delivered (a ++ b) e = delivered a e ++ delivered b e := by
  rw [delivered, List.countP_append, List.replicate_add]
  rfl

/-- One more level on all ways lets the event through on all of them or on none. -/
theorem delivered_behind (least : Level) (ways : List (List Level)) (e : Event) :
    delivered (ways.map (least :: ·)) e =
      if e.level.passes least then delivered ways e else [] := by
  unfold delivered
  rw [List.countP_map]
  by_cases passes : e.level.passes least = true
  · have same : e.passesAll ∘ (least :: ·) = e.passesAll := by
      funext way
      simp [Event.passesAll, passes]
    rw [if_pos passes, same]
  · have none : e.passesAll ∘ (least :: ·) = fun _ => false := by
      funext way
      simp [Event.passesAll, passes]
    rw [if_neg passes, none, List.countP_false]
    rfl

namespace Route

mutual

/-- The least levels on each way that a route leads into memory, in the order in which an event
takes them. A log that is reached twice is at the end of two ways. -/
def ways : Route → List (List Level)
  | .memory => [[]]
  | .console _ | .structured _ | .discard => []
  | .fanOut least routes => (waysEach routes).map (least :: ·)

/-- The least levels on each way that several routes lead into memory. -/
def waysEach : List Route → List (List Level)
  | [] => []
  | r :: routes => ways r ++ waysEach routes

end

mutual

/-- **An event goes into memory once for each way** that lets it through. -/
theorem memory_log (e : Event) (r : Route) (s : Sinks) :
    (r.log e s).memory = (delivered r.ways e).foldl Memory.log s.memory := by
  cases r with
  | memory => rfl
  | console least | structured least =>
    rw [log]
    split <;> rfl
  | discard => rfl
  | fanOut least routes =>
    rw [log, ways, delivered_behind]
    split
    · exact memory_logEach e routes s
    · rfl

theorem memory_logEach (e : Event) (routes : List Route) (s : Sinks) :
    (logEach e routes s).memory = (delivered (waysEach routes) e).foldl Memory.log s.memory := by
  cases routes with
  | nil => rfl
  | cons r routes =>
    rw [logEach, waysEach, delivered_append, List.foldl_append, memory_logEach e routes,
      memory_log e r]

end

example : (fanOut .info [.memory, .console .debug, .fanOut .error [.memory], .memory]).ways =
    [[.info], [.info, .error], [.info]] := rfl

end Route

namespace Service

/-- The least levels on each way that a service leads into memory. -/
def ways (s : Service) : List (List Level) := s.route.ways.map (s.least :: ·)

theorem memory_log (s : Service) (e : Event) (sinks : Sinks) :
    (s.log e sinks).memory = (delivered s.ways e).foldl Memory.log sinks.memory := by
  rw [log, ways, delivered_behind, shouldLog]
  split
  · exact Route.memory_log e s.route sinks
  · rfl

end Service

/-! ## Any calls -/

/-- A call that may reach a log in memory. -/
inductive Call where
  /-- An event is sent along a route. -/
  | route (r : Route) (e : Event)
  /-- An event is given to a service. -/
  | service (s : Service) (e : Event)
  /-- The log is cleared. -/
  | clear

namespace Call

/-- The sinks after a call. -/
def run (sinks : Sinks) : Call → Sinks
  | route r e => r.log e sinks
  | service s e => s.log e sinks
  | clear => { sinks with memory := sinks.memory.clear }

/-- The deliveries into memory that a call makes. -/
def deliveries : Call → List Event
  | route r e => delivered r.ways e
  | service s e => delivered s.ways e
  | clear => []

/-- Whether a call leaves what is in the log. -/
def leaves : Call → Bool
  | route .. | service .. => true
  | clear => false

/-- The deliveries that calls have made since the last one that cleared the log. -/
def deliveriesSince (calls : List Call) : List Event :=
  (calls.rtakeWhile leaves).flatMap deliveries

theorem memory_run (sinks : Sinks) {call : Call} (h : call.leaves = true) :
    (call.run sinks).memory = call.deliveries.foldl Memory.log sinks.memory := by
  cases call with
  | route r e => exact r.memory_log e sinks
  | service s e => exact s.memory_log e sinks
  | clear => cases h

end Call

namespace Memory

/-- What is in the log after calls. -/
theorem keeps_deliveriesSince (calls : List Call) :
    (calls.foldl Call.run {}).memory.Keeps (Call.deliveriesSince calls) := by
  induction calls using List.reverseRecOn with
  | nil => exact keeps_nil
  | append_singleton calls call ih =>
    rw [List.foldl_concat, Call.deliveriesSince, List.rtakeWhile_concat]
    by_cases leaves : call.leaves = true
    · rw [if_pos leaves, List.flatMap_append, List.flatMap_singleton, Call.memory_run _ leaves]
      exact ih.foldl_log _
    · cases call with
      | route | service => exact absurd rfl leaves
      | clear => exact keeps_nil

/-- **A log in memory keeps the newest events**, whatever calls have been made before and along
which routes they came. Its events are the last of those delivered since it was cleared, in their
order, as many as it has room for and never more. What it tells of its errors and of the events with
a code is what these events tell. -/
theorem keeps_newest (calls : List Call) :
    let m := (calls.foldl Call.run {}).memory
    let delivered := Call.deliveriesSince calls
    let kept := delivered.rtake (min delivered.length Limits.logBuffer)
    m.events.toList = kept ∧ m.size = kept.length ∧ m.size ≤ Limits.logBuffer ∧
      m.errors = kept.filter (·.level = .error) ∧
      ∀ code, m.withCode code = kept.filter (·.code = code) ∧
        (m.hasError code = true ↔ ∃ e ∈ kept, e.level = .error ∧ e.code = code) ∧
        (m.hasSuccess code = true ↔ ∃ e ∈ kept, e.level = .info ∧ e.code = code) := by
  intro m delivered kept
  have keeps : m.Keeps delivered := keeps_deliveriesSince calls
  have all : m.events.toList = kept := by
    have same : delivered.length - Limits.logBuffer =
        delivered.length - min delivered.length Limits.logBuffer := by omega
    rw [keeps, List.rtake, same]
    rfl
  have some (level : Level) (code : String) :
      m.events.any (fun e => e.level == level && e.code == code) = true ↔
        ∃ e ∈ kept, e.level = level ∧ e.code = code := by
    rw [← Array.any_toList, all, List.any_eq_true]
    simp
  have size : m.size = kept.length := by
    rw [← all, Array.length_toList]
    rfl
  refine ⟨all, size, ?_, ?_, fun code => ⟨?_, some .error code, some .info code⟩⟩
  · rw [keeps.size_eq]
    exact Nat.min_le_right _ _
  · rw [errors, all]
    rfl
  · rw [withCode, all]
    rfl

end Memory

end LexMachine.Log
