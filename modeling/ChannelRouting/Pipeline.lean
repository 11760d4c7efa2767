import ChannelRouting.Receipt

/-!
# Journaled pipelines

A pipeline of receipt stages around a last stage of a chosen kind, with a sink that
fails at chosen writes. A journal keeps what reached the last stage and the sink,
in order.
-/

namespace ChannelRouting.Pipeline

/-- What reached the last stage or the sink. -/
inductive Reached where
  | last (f : Frame)
  | sink (f : Frame)
  | failedSink (f : Frame)

/-- What the last stage does. -/
inductive Last where
  | succeed
  /-- Writes the frame to the sink. -/
  | echo
  | fault (fault : ClientFault)
  /-- Faults with the frame attached. -/
  | faultWithFrame (fault : ClientFault)

/-- A pipeline at work. -/
structure State where
  /-- The writes that fail, counted from 1 over all frames. -/
  failing : List Nat
  error : TransportError
  writes : Nat := 0
  journal : List Reached := []
  events : List Event := []

/-- Notes what was reached. -/
def note (r : Reached) : StateM State Unit := modify fun s =>
  { s with journal := s.journal ++ [r] }

/-- The sink. -/
def sink : Sink State where
  write f := do
    modify fun s => { s with writes := s.writes + 1 }
    let s ← get
    if s.writes ∈ s.failing then
      note (.failedSink f)
      return .error s.error
    note (.sink f)
    return .ok ()
  emit e := modify fun s => { s with events := s.events ++ [e] }

/-- The last stage. -/
def Last.stage : Last → Stage State
  | succeed => fun f => do
    note (.last f)
    return .ok ()
  | echo => fun f => do
    note (.last f)
    match ← sink.write f with
    | .ok () => return .ok ()
    | .error e =>
      return .error { message := "echo failed", details := some e.message, frame := some f }
  | fault c => fun f => do
    note (.last f)
    return .error c
  | faultWithFrame c => fun f => do
    note (.last f)
    return .error (c.withFrame f)

/-- Sends a frame through receipt stages and the last stage; answers with the result,
the journal and the events of this frame. -/
def process (last : Last) (receipts : Nat) (f : Frame) :
    StateM State (Except ClientFault Unit × List Reached × List Event) := do
  let result ← Stage.acknowledgingTimes sink last.stage receipts f
  modifyGet fun s => ((result, s.journal, s.events), { s with journal := [], events := [] })

end ChannelRouting.Pipeline
