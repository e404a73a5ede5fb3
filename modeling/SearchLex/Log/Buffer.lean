import SearchLex.Log.Event

/-! A bounded memory of events: when it is full, a new event drives out the oldest. -/

namespace SearchLex.Log

/-- Events kept in memory. The oldest stand first in `front`, the newest first in
`back`. -/
structure Buffer where
  capacity : Nat
  front : List Event := []
  back : List Event := []
  size : Nat := 0
  deriving Repr

namespace Buffer

/-- An empty buffer. It has room for one event at least. -/
def ofCapacity (capacity : Nat) : Buffer := { capacity := max capacity 1 }

def standard : Buffer := ofCapacity Limits.logBufferSize

def events (buffer : Buffer) : List Event := buffer.front ++ buffer.back.reverse

def dropOldest (buffer : Buffer) : Buffer :=
  match buffer.front with
  | _ :: rest => { buffer with front := rest, size := buffer.size - 1 }
  | [] => { buffer with front := buffer.back.reverse.tail, back := [], size := buffer.size - 1 }

def push (buffer : Buffer) (event : Event) : Buffer :=
  let room := if buffer.size = buffer.capacity then buffer.dropOldest else buffer
  { room with back := event :: room.back, size := room.size + 1 }

def clear (buffer : Buffer) : Buffer := { capacity := buffer.capacity }

def containsCode (buffer : Buffer) (code : Code) : Bool :=
  buffer.events.any (·.code == code)

theorem events_dropOldest (buffer : Buffer) :
    buffer.dropOldest.events = buffer.events.tail := by
  cases held : buffer.front with
  | nil => simp [dropOldest, events, held]
  | cons oldest rest => simp [dropOldest, events, held]

theorem events_push (buffer : Buffer) (event : Event) :
    (buffer.push event).events =
      (if buffer.size = buffer.capacity then buffer.events.tail else buffer.events) ++
        [event] := by
  by_cases full : buffer.size = buffer.capacity
  · simp only [push, full, ↓reduceIte]
    rw [← events_dropOldest]
    simp [events]
  · simp [push, full, events]

end Buffer

end SearchLex.Log
