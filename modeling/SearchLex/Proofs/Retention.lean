import Mathlib.Data.List.DropRight
import SearchLex.Proofs.Installation

/-! What a memory of events keeps: the latest of the events that its service admitted since it
was last cleared, as many as it has room for. A full memory makes room for one event before it
takes one, so it is never over its capacity. -/

namespace SearchLex.Log

namespace Buffer

@[simp] theorem capacity_dropOldest (buffer : Buffer) :
    buffer.dropOldest.capacity = buffer.capacity := by
  unfold dropOldest
  split <;> rfl

@[simp] theorem size_dropOldest (buffer : Buffer) : buffer.dropOldest.size = buffer.size - 1 := by
  unfold dropOldest
  split <;> rfl

theorem capacity_push (buffer : Buffer) (event : Event) :
    (buffer.push event).capacity = buffer.capacity := by
  by_cases full : buffer.size = buffer.capacity <;> simp [push, full]

theorem size_push (buffer : Buffer) (event : Event) :
    (buffer.push event).size =
      (if buffer.size = buffer.capacity then buffer.size - 1 else buffer.size) + 1 := by
  by_cases full : buffer.size = buffer.capacity <;> simp [push, full]

/-- A buffer of a capacity that keeps the latest of some events, and counts what it keeps. -/
structure Keeps (buffer : Buffer) (capacity : Nat) (events : List Event) : Prop where
  capacity_eq : buffer.capacity = capacity
  events_eq : buffer.events = events.rtake capacity
  size_eq : buffer.size = buffer.events.length

variable {buffer : Buffer} {capacity : Nat} {events : List Event}

theorem keeps_ofCapacity (capacity : Nat) : (ofCapacity capacity).Keeps (max capacity 1) [] :=
  ⟨rfl, (List.rtake_nil _).symm, rfl⟩

theorem Keeps.clear (keeps : buffer.Keeps capacity events) : buffer.clear.Keeps capacity [] :=
  ⟨keeps.capacity_eq, (List.rtake_nil _).symm, rfl⟩

/-- Room for one more event is made of the events of which one less would be kept. -/
theorem Keeps.room {count : Nat} (keeps : buffer.Keeps (count + 1) events) :
    (if buffer.size = buffer.capacity then buffer.events.tail else buffer.events) =
      events.rtake count := by
  obtain ⟨capacity, kept, size⟩ := keeps
  rw [size, capacity, kept, List.rtake, List.rtake, List.length_drop]
  by_cases full : events.length - (events.length - (count + 1)) = count + 1
  · have oldest : events.length - (count + 1) + 1 = events.length - count := by omega
    rw [if_pos full, List.tail_drop, oldest]
  · have all : events.length - (count + 1) = events.length - count := by omega
    rw [if_neg full, all]

/-- A further event is kept, and the oldest goes only if there is no room for both. -/
theorem Keeps.push (keeps : buffer.Keeps capacity events) (room : 0 < capacity) (event : Event) :
    (buffer.push event).Keeps capacity (events ++ [event]) := by
  obtain ⟨count, rfl⟩ := Nat.exists_eq_succ_of_ne_zero (Nat.ne_of_gt room)
  have latest := keeps.room
  have taken := buffer.events_push event
  refine ⟨?_, ?_, ?_⟩
  · rw [capacity_push, keeps.capacity_eq]
  · rw [taken, latest, List.rtake_concat_succ]
  · rw [taken, size_push, keeps.size_eq, List.length_append, List.length_singleton]
    split
    · rw [List.length_tail]
    · rfl

/-- A memory that takes events one after another keeps the latest of them. -/
theorem Keeps.after (keeps : buffer.Keeps capacity events) (room : 0 < capacity)
    (further : List Event) :
    ∃ later, (Sink.memory buffer).after further = .memory later ∧
      later.Keeps capacity (events ++ further) := by
  induction further generalizing buffer events with
  | nil =>
    rw [List.append_nil]
    exact ⟨buffer, rfl, keeps⟩
  | cons event rest ih =>
    rw [List.append_cons]
    exact ih (keeps.push room event)

theorem Keeps.size_le (keeps : buffer.Keeps capacity events) : buffer.size ≤ capacity := by
  rw [keeps.size_eq, keeps.events_eq, List.rtake, List.length_drop]
  omega

theorem containsCode_iff (buffer : Buffer) (code : Code) :
    buffer.containsCode code = true ↔ ∃ event ∈ buffer.events, event.code = code := by
  rw [containsCode, List.any_eq_true]
  simp only [beq_iff_eq]

end Buffer

namespace Service

/-- What is done with a service that keeps events in memory. -/
inductive Use where
  | log (event : Event)
  | clear

def Use.event? : Use → Option Event
  | .log event => some event
  | .clear => none

/-- The events that were logged since memory was last cleared. -/
def Use.sinceClear (uses : List Use) : List Event :=
  (uses.rtakeWhile fun use => use.event?.isSome).filterMap event?

theorem Use.sinceClear_log (uses : List Use) (event : Event) :
    sinceClear (uses ++ [.log event]) = sinceClear uses ++ [event] := by
  rw [sinceClear, List.rtakeWhile_concat_pos _ _ _ rfl, List.filterMap_append]
  rfl

theorem Use.sinceClear_clear (uses : List Use) : sinceClear (uses ++ [.clear]) = [] := by
  rw [sinceClear, List.rtakeWhile_concat_neg _ _ _ Bool.false_ne_true]
  rfl

def use (service : Service) : Use → Service
  | .log event => (service.log event).1
  | .clear => { service with sink := service.sink.clear }

def useAll (service : Service) (uses : List Use) : Service := uses.foldl use service

/-- A service of a level over a memory that keeps the latest of the admitted events. -/
def Keeps (service : Service) (level : Level) (capacity : Nat) (events : List Event) : Prop :=
  ∃ buffer, service = ⟨level, .memory buffer⟩ ∧ buffer.Keeps capacity (admitted level events)

variable {service : Service} {level : Level} {capacity : Nat} {events : List Event}

/-- An event that the level does not admit changes nothing, whatever the memory holds. -/
theorem Keeps.log (keeps : service.Keeps level capacity events) (room : 0 < capacity)
    (event : Event) : (service.log event).1.Keeps level capacity (events ++ [event]) := by
  obtain ⟨buffer, rfl, kept⟩ := keeps
  by_cases low : event.level ≤ level
  · have taken : admitted level (events ++ [event]) = admitted level events ++ [event] := by
      simp [admitted, low]
    refine ⟨buffer.push event, ?_, ?_⟩
    · simp [Service.log, enabled, low, Sink.accept]
    · rw [taken]
      exact kept.push room event
  · have dropped : admitted level (events ++ [event]) = admitted level events := by
      simp [admitted, low]
    refine ⟨buffer, ?_, ?_⟩
    · simp [Service.log, enabled, low]
    · rwa [dropped]

theorem Keeps.clear (keeps : service.Keeps level capacity events) :
    (service.use .clear).Keeps level capacity [] := by
  obtain ⟨buffer, rfl, kept⟩ := keeps
  exact ⟨buffer.clear, rfl, kept.clear⟩

/-- Any uses of a service over an empty memory leave what was logged since the last clearing.
The induction is on the last use: an earlier one may have been forgotten since. -/
theorem keeps_useAll (level : Level) (capacity : Nat) (uses : List Use) :
    ((Service.mk level (.memory (.ofCapacity capacity))).useAll uses).Keeps level
      (max capacity 1) (Use.sinceClear uses) := by
  have room : 0 < max capacity 1 := Nat.lt_of_lt_of_le Nat.zero_lt_one (Nat.le_max_right ..)
  induction uses using List.reverseRecOn with
  | nil => exact ⟨_, rfl, Buffer.keeps_ofCapacity capacity⟩
  | append_singleton uses last ih =>
    rw [useAll, List.foldl_append]
    cases last with
    | log event =>
      rw [Use.sinceClear_log]
      exact ih.log room event
    | clear =>
      rw [Use.sinceClear_clear]
      exact ih.clear

/-- Whatever is logged and cleared, a memory keeps exactly the latest of the events that the
level admitted since the last clearing, as many as it has room for, and it has room for one at
least. Its count is theirs, and it tells the codes of those events and no others. -/
theorem useAll_keeps_latest (level : Level) (capacity : Nat) (uses : List Use) :
    ∃ buffer, (Service.mk level (.memory (.ofCapacity capacity))).useAll uses =
        ⟨level, .memory buffer⟩ ∧
      buffer.events = (admitted level (Use.sinceClear uses)).rtake (max capacity 1) ∧
      buffer.size = buffer.events.length ∧ buffer.size ≤ max capacity 1 ∧
      ∀ code, buffer.containsCode code = true ↔ ∃ event ∈ buffer.events, event.code = code := by
  obtain ⟨buffer, reached, kept⟩ := keeps_useAll level capacity uses
  exact ⟨buffer, reached, kept.events_eq, kept.size_eq, kept.size_le, buffer.containsCode_iff⟩

end Service

/-- A session whose service has a memory keeps there the latest of the events that the service
took since it was installed, and shows none of them. -/
theorem Session.Received.keeps {session : Session} {level : Level} {capacity : Nat}
    {lines : List Line} {events : List Event}
    (received : session.Received ⟨level, .memory (.ofCapacity capacity)⟩ lines events) :
    session.lines.toList = lines ∧ ∃ buffer, session.service = some ⟨level, .memory buffer⟩ ∧
      buffer.Keeps (max capacity 1) events := by
  have room : 0 < max capacity 1 := Nat.lt_of_lt_of_le Nat.zero_lt_one (Nat.le_max_right ..)
  obtain ⟨buffer, reached, kept⟩ := (Buffer.keeps_ofCapacity capacity).after room events
  refine ⟨?_, buffer, ?_, kept⟩
  · rw [received.written]
    simp [Sink.linesOf, Sink.form]
  · rw [received.served, reached]

end SearchLex.Log
