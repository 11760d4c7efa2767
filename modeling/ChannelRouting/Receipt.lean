import ChannelRouting.Event

/-!
# Receipts

A stage of a frame pipeline takes a frame and ends well or with a client fault.
`acknowledging` puts a stage behind one that writes a receipt for each frame that
asks for one. A receipt that cannot be written is reported and changes nothing
else: the frame goes on as it came, and the fault of the stage behind is the fault
of the whole.
-/

namespace ChannelRouting

/-- Where frames are written to, and who is told of it. -/
structure Sink (σ : Type) where
  write : Frame → StateM σ (Except TransportError Unit)
  emit : Event → StateM σ Unit

/-- A stage of a frame pipeline. -/
abbrev Stage (σ : Type) := Frame → StateM σ (Except ClientFault Unit)

namespace Stage

variable {σ : Type}

/-- Writes the receipt a frame asks for. -/
def acknowledge (sink : Sink σ) (f : Frame) : StateM σ Unit :=
  match f.receiptRequest? with
  | none => pure ()
  | some id => do
    match ← sink.write (.receipt id) with
    | .ok () => sink.emit (.receiptWritten id f.command)
    | .error e => sink.emit (.receiptUnwritten id e)

/-- A stage with receipts in front of it. -/
def acknowledging (sink : Sink σ) (next : Stage σ) : Stage σ := fun f => do
  acknowledge sink f
  match ← next f with
  | .ok () => return .ok ()
  | .error fault =>
    sink.emit (.faultRaised f.command fault)
    return .error fault

/-- A stage with receipts in front of it, `n` times over. -/
def acknowledgingTimes (sink : Sink σ) (next : Stage σ) : Nat → Stage σ
  | 0 => next
  | n + 1 => acknowledging sink (acknowledgingTimes sink next n)

end Stage

end ChannelRouting
