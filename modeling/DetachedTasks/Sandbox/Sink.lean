import DetachedTasks.Program

/-!
# Sinks of a sandbox

A sink takes a chunk in one or more writes, each of which may take only a part, and it may
refuse writes or flushes from some point on.  What it took before it refused stays.
-/

namespace DetachedTasks.Sandbox

/-- A sink and what it received. -/
structure Sink where
  /-- The most that one write takes. -/
  piece : Option Nat
  /-- Writes are refused from this one on. -/
  refusedWrite : Option Nat
  /-- Flushes are refused from this one on. -/
  refusedFlush : Option Nat
  writes : Nat
  flushes : Nat
  received : Bytes
  deriving Repr, DecidableEq

namespace Sink

/-- A sink that takes everything. -/
def accepting : Sink :=
  { piece := none
    refusedWrite := none
    refusedFlush := none
    writes := 0
    flushes := 0
    received := [] }

/-- Whether a count has reached a limit. -/
def reached
    (limit : Option Nat)
    (count : Nat) : Bool :=
  match limit with
  | none => false
  | some limit => limit ≤ count

/-- Write all of a chunk; `fuel` bounds the number of writes. -/
def writeAll
    (fuel : Nat)
    (sink : Sink)
    (chunk : Bytes) : Except SinkFault Unit × Sink :=
  match fuel with
  | 0 => (.ok (), sink)
  | fuel + 1 =>
      if chunk.isEmpty then
        (.ok (), sink)
      else if reached sink.refusedWrite sink.writes then
        (.error .writeRefused, { sink with writes := sink.writes + 1 })
      else
        let count := sink.piece.getD chunk.length
        let next :=
          { sink with
            writes := sink.writes + 1
            received := sink.received ++ chunk.take count }
        if count = 0 then (.error .tookNothing, next)
        else writeAll fuel next (chunk.drop count)

/-- Hand all of a chunk to a sink. -/
def deliver
    (sink : Sink)
    (chunk : Bytes) : Except SinkFault Unit × Sink :=
  writeAll (chunk.length + 1) sink chunk

/-- Make a sink pass on what it was handed. -/
def flush (sink : Sink) : Except SinkFault Unit × Sink :=
  let next := { sink with flushes := sink.flushes + 1 }
  if reached sink.refusedFlush sink.flushes then (.error .flushRefused, next)
  else (.ok (), next)

end Sink

end DetachedTasks.Sandbox
