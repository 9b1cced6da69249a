import DiagramLint.Report.Record

/-!
# Writing to streams that may run full

A sink takes bytes up to its capacity, if it has one, and refuses the first byte
beyond it; what it has taken stays taken.  Writing a record to a sink without room
for all of it thus fills the sink and fails.  A console has one sink for each stream,
and `Console.deliver` writes records in order up to the first failure.
-/

namespace DiagramLint

/-- Where the bytes of one stream go. -/
structure Sink where
  /-- The number of bytes the sink can take; no number, no bound. -/
  capacity : Option Nat
  received : ByteArray

namespace Sink

def ofCapacity (capacity : Option Nat) : Sink := ⟨capacity, ByteArray.empty⟩

/-- Takes as many of the bytes as there is room for; also says whether these were
all of them. -/
def accept (s : Sink) (bytes : ByteArray) : Sink × Bool :=
  match s.capacity with
  | none => ({ s with received := s.received ++ bytes }, true)
  | some capacity =>
      let room := capacity - s.received.size
      ({ s with received := s.received ++ bytes.extract 0 room }, decide (bytes.size ≤ room))

end Sink

/-- The two streams of a run. -/
structure Console where
  out : Sink
  err : Sink

namespace Console

/-- A console that has taken nothing yet; no number means no bound. -/
def ofCapacities (out err : Option Nat) : Console := ⟨.ofCapacity out, .ofCapacity err⟩

def sink (c : Console) : Stream → Sink
  | .out => c.out
  | .err => c.err

/-- The console with another sink for a stream. -/
def withSink (c : Console) (s : Stream) (k : Sink) : Console :=
  match s with
  | .out => { c with out := k }
  | .err => { c with err := k }

/-- Writes one record; fails with the stream when that runs full. -/
def write (c : Console) (r : Record) : Console × Except Stream Unit :=
  match (c.sink r.stream).accept (r.text.toUTF8) with
  | (k, true) => (c.withSink r.stream k, .ok ())
  | (k, false) => (c.withSink r.stream k, .error r.stream)

/-- Writes records in order, up to the first failure. -/
def deliver (c : Console) : List Record → Console × Except Stream Unit
  | [] => (c, .ok ())
  | r :: rs =>
      match c.write r with
      | (c, .ok ()) => c.deliver rs
      | (c, .error s) => (c, .error s)

end Console

end DiagramLint
