import ChannelRouting.Receipt

/-!
# Receipts in front of a stage

A pipeline is a last stage with any number of receipt stages around it. `acknowledgingTimes_eq`
says what that is for every sink and every last stage: the receipts first, one for each receipt
stage, then the last stage with the frame as it came, then a report of its fault from each of
them.

The rest of the module reads this off a journal. `World` holds a sink of any behaviour, a last
stage with a memory of its own, and a journal of the writes, hand-overs and ends. A last stage is
told by its `Conduct`: what it writes to the sink, going by the answers, and how it ends.
`receipts_precede_frames` is what the journal shows of any frames one after another
(`Acknowledges`): between the end of one frame and the hand-over of the next the sink is asked
for exactly the receipts that the frame requests, whether or not it fails, and nothing else about
the frame is different for it.
-/

namespace ChannelRouting

namespace Stage

variable {σ : Type}

/-- What becomes of the surroundings when a receipt is written some times over. -/
def acknowledgeTimes (sink : Sink σ) (f : Frame) : Nat → σ → σ
  | 0, w => w
  | n + 1, w => acknowledgeTimes sink f n (acknowledge sink f w).2

/-- What becomes of them when a fault is reported, if there is one. -/
def report (sink : Sink σ) (f : Frame) (result : Except ClientFault Unit) (w : σ) : σ :=
  match result with
  | .ok () => w
  | .error fault => (sink.emit (.faultRaised f.command fault) w).2

/-- The same some times over. -/
def reportTimes (sink : Sink σ) (f : Frame) (result : Except ClientFault Unit) : Nat → σ → σ
  | 0, w => w
  | n + 1, w => report sink f result (reportTimes sink f result n w)

theorem acknowledging_eq (sink : Sink σ) (next : Stage σ) (f : Frame) (w : σ) :
    acknowledging sink next f w =
      ((next f (acknowledge sink f w).2).1,
        report sink f (next f (acknowledge sink f w).2).1 (next f (acknowledge sink f w).2).2) := by
  have unfolded : acknowledging sink next f w =
      (match (next f (acknowledge sink f w).2).1 with
        | .ok () => pure (.ok ())
        | .error fault => do
          sink.emit (.faultRaised f.command fault)
          pure (.error fault) : StateM σ (Except ClientFault Unit))
        (next f (acknowledge sink f w).2).2 := rfl
  rw [unfolded]
  cases (next f (acknowledge sink f w).2).1 <;> rfl

/-- **Receipt stages around a last stage**: as many receipts as there are stages, the last stage, as
many reports of its fault. -/
theorem acknowledgingTimes_eq (sink : Sink σ) (next : Stage σ) (n : Nat) (f : Frame) (w : σ) :
    acknowledgingTimes sink next n f w =
      ((next f (acknowledgeTimes sink f n w)).1,
        reportTimes sink f (next f (acknowledgeTimes sink f n w)).1 n
          (next f (acknowledgeTimes sink f n w)).2) := by
  induction n generalizing w with
  | zero => rfl
  | succ n ih =>
    rw [acknowledgingTimes, acknowledging_eq, ih]
    rfl

end Stage

namespace ReceiptLine

/-! ## A pipeline with a journal -/

/-- What was written to the sink and what it answered, what the last stage was handed, and how a
frame ended. -/
inductive Reached where
  | written (f : Frame) (answer : Except TransportError Unit)
  | handed (f : Frame)
  | ended (result : Except ClientFault Unit)

/-- The frame of a hand-over. -/
def Reached.handed? : Reached → Option Frame
  | handed f => some f
  | written .. | ended _ => none

/-- The frame of a write. -/
def Reached.written? : Reached → Option Frame
  | written f _ => some f
  | handed _ | ended _ => none

/-- **What a last stage does with a frame**: it writes to the sink as often as it likes, going on
by what the sink answers, and ends with what it remembers and a result. -/
inductive Conduct (ρ : Type) where
  | finish (memory : ρ) (result : Except ClientFault Unit)
  | write (f : Frame) (next : Except TransportError Unit → Conduct ρ)

/-- The two ends of a pipeline: how the sink answers a write, and what the last stage does with a
frame, both going by all that has been. -/
structure Ends (κ ρ : Type) where
  write : Frame → StateM κ (Except TransportError Unit)
  conduct : ρ → Frame → Conduct ρ

/-- A pipeline at work. -/
structure World (κ ρ : Type) where
  sink : κ
  memory : ρ
  journal : List Reached := []
  events : List Event := []

variable {κ ρ : Type}

/-- Notes what was reached. -/
def note (r : Reached) : StateM (World κ ρ) Unit := modify fun w =>
  { w with journal := w.journal ++ [r] }

/-- Carries out what a last stage does. -/
def Conduct.carryOut (sink : Sink (World κ ρ)) :
    Conduct ρ → StateM (World κ ρ) (Except ClientFault Unit)
  | finish memory result => do
    modify fun w => { w with memory := memory }
    return result
  | write f next => do (next (← sink.write f)).carryOut sink

namespace Ends

/-- The sink, with a journal of the writes. -/
def sink (p : Ends κ ρ) : Sink (World κ ρ) where
  write f := do
    let answer ← modifyGet fun w => ((p.write f w.sink).1, { w with sink := (p.write f w.sink).2 })
    note (.written f answer)
    return answer
  emit e := modify fun w => { w with events := w.events ++ [e] }

/-- The last stage, with a journal of what it is handed. -/
def last (p : Ends κ ρ) : Stage (World κ ρ) := fun f => do
  note (.handed f)
  let w ← get
  (p.conduct w.memory f).carryOut p.sink

/-- Sends a frame through receipt stages and the last stage. -/
def process (p : Ends κ ρ) (receipts : Nat) (f : Frame) :
    StateM (World κ ρ) (Except ClientFault Unit) := do
  let result ← Stage.acknowledgingTimes p.sink p.last receipts f
  note (.ended result)
  return result

/-- The pipeline after frames in order. -/
def after (p : Ends κ ρ) (receipts : Nat) (frames : List Frame) (w : World κ ρ) : World κ ρ :=
  frames.foldl (fun w f => (p.process receipts f w).2) w

end Ends

/-! ## What a frame should meet -/

/-- The receipts that a frame requests of some stages. -/
def requested (receipts : Nat) (f : Frame) : List Frame :=
  match f.receiptRequest? with
  | some id => List.replicate receipts (.receipt id)
  | none => []

/-- Frames written one after another, whatever the sink answers. -/
def attempts (write : Frame → StateM κ (Except TransportError Unit)) :
    List Frame → κ → List Reached × κ
  | [], k => ([], k)
  | f :: rest, k =>
    (.written f (write f k).1 :: (attempts write rest (write f k).2).1,
      (attempts write rest (write f k).2).2)

/-- What a last stage has done that had the sink to itself. -/
structure Done (κ ρ : Type) where
  result : Except ClientFault Unit
  memory : ρ
  sink : κ
  writes : List Reached

/-- **A last stage that has the sink to itself.** -/
def Conduct.alone (write : Frame → StateM κ (Except TransportError Unit)) :
    Conduct ρ → κ → Done κ ρ
  | finish memory result, k => { result := result, memory := memory, sink := k, writes := [] }
  | .write f next, k =>
    let d := (next (write f k).1).alone write (write f k).2
    { d with writes := .written f (write f k).1 :: d.writes }

/-- What is told of a receipt that was written or not. -/
def acknowledged? (command : Command) : Reached → Option Event
  | .written f (.ok ()) => f.receiptId?.map fun id => .receiptWritten id command
  | .written f (.error e) => f.receiptId?.map fun id => .receiptUnwritten id e
  | .handed _ | .ended _ => none

/-- The faults that some stages report. -/
def reports (receipts : Nat) (f : Frame) : Except ClientFault Unit → List Event
  | .ok () => []
  | .error fault => List.replicate receipts (.faultRaised f.command fault)

/-- The pipeline when the last stage is handed a frame. -/
def Ends.atHandOver (p : Ends κ ρ) (receipts : Nat) (f : Frame) (w : World κ ρ) : World κ ρ :=
  let offered := attempts p.write (requested receipts f) w.sink
  { w with
    sink := offered.2
    journal := w.journal ++ offered.1
    events := w.events ++ offered.1.filterMap (acknowledged? f.command) }

/-- A last stage in the pipeline does what it does alone, and its writes go into the journal. -/
theorem carryOut_eq (p : Ends κ ρ) (c : Conduct ρ) (w : World κ ρ) :
    c.carryOut p.sink w =
      ((c.alone p.write w.sink).result,
        { w with
          sink := (c.alone p.write w.sink).sink
          memory := (c.alone p.write w.sink).memory
          journal := w.journal ++ (c.alone p.write w.sink).writes }) := by
  induction c generalizing w with
  | finish memory result =>
    have unfolded : (Conduct.finish memory result).carryOut p.sink w =
        (result, { w with memory := memory }) := rfl
    rw [unfolded]
    simp [Conduct.alone]
  | write f next ih =>
    have unfolded : (Conduct.write f next).carryOut p.sink w =
        (next (p.write f w.sink).1).carryOut p.sink
          { w with
            sink := (p.write f w.sink).2
            journal := w.journal ++ [.written f (p.write f w.sink).1] } := rfl
    rw [unfolded, ih]
    simp [Conduct.alone]

theorem emit_sink (p : Ends κ ρ) (e : Event) (w : World κ ρ) :
    (p.sink.emit e w).2 = { w with events := w.events ++ [e] } := rfl

theorem write_sink (p : Ends κ ρ) (f : Frame) (w : World κ ρ) :
    p.sink.write f w =
      ((p.write f w.sink).1,
        { w with
          sink := (p.write f w.sink).2
          journal := w.journal ++ [.written f (p.write f w.sink).1] }) := rfl

theorem acknowledge_none (p : Ends κ ρ) {f : Frame} (asked : f.receiptRequest? = none)
    (w : World κ ρ) : (Stage.acknowledge p.sink f w).2 = w := by
  rw [Stage.acknowledge, asked]
  rfl

theorem acknowledge_some (p : Ends κ ρ) {f : Frame} {id : String}
    (asked : f.receiptRequest? = some id) (w : World κ ρ) :
    (Stage.acknowledge p.sink f w).2 =
      let answer := (p.write (.receipt id) w.sink).1
      { w with
        sink := (p.write (.receipt id) w.sink).2
        journal := w.journal ++ [.written (.receipt id) answer]
        events := w.events ++
          [Reached.written (.receipt id) answer].filterMap (acknowledged? f.command) } := by
  have bind_apply : ∀ {α β : Type} (x : StateM (World κ ρ) α) (g : α → StateM (World κ ρ) β) w,
      (x >>= g) w = g (x w).1 (x w).2 := fun _ _ _ => rfl
  rw [Stage.acknowledge, asked]
  dsimp only
  rw [bind_apply, write_sink]
  rcases (p.write (.receipt id) w.sink).1 with e | ⟨⟩ <;> simp [emit_sink, acknowledged?]

/-- The receipts are all attempted, whether or not the sink fails. -/
theorem acknowledgeTimes_eq (p : Ends κ ρ) (f : Frame) (receipts : Nat) (w : World κ ρ) :
    Stage.acknowledgeTimes p.sink f receipts w = p.atHandOver receipts f w := by
  cases asked : f.receiptRequest? with
  | none =>
    have still : Stage.acknowledgeTimes p.sink f receipts w = w := by
      induction receipts with
      | zero => rfl
      | succ n ih => rw [Stage.acknowledgeTimes, acknowledge_none p asked, ih]
    simp [still, Ends.atHandOver, requested, asked, attempts]
  | some id =>
    induction receipts generalizing w with
    | zero => simp [Stage.acknowledgeTimes, Ends.atHandOver, requested, asked, attempts]
    | succ n ih =>
      rw [Stage.acknowledgeTimes, acknowledge_some p asked, ih]
      simp [Ends.atHandOver, requested, asked, attempts, List.replicate_succ,
        ← List.filterMap_append]

/-- Reports of a fault leave all but the events as it is. -/
theorem reportTimes_eq (p : Ends κ ρ) (f : Frame) (result : Except ClientFault Unit)
    (receipts : Nat) (w : World κ ρ) :
    Stage.reportTimes p.sink f result receipts w =
      { w with events := w.events ++ reports receipts f result } := by
  induction receipts with
  | zero => rcases result with fault | ⟨⟩ <;> simp [Stage.reportTimes, reports]
  | succ n ih =>
    rw [Stage.reportTimes, ih]
    rcases result with fault | ⟨⟩
    · simp [Stage.report, emit_sink, reports, List.replicate_succ']
    · simp [Stage.report, reports]

/-- What the last stage does with a frame that the receipts were written for. -/
def Ends.done (p : Ends κ ρ) (receipts : Nat) (f : Frame) (w : World κ ρ) : Done κ ρ :=
  (p.conduct w.memory f).alone p.write (attempts p.write (requested receipts f) w.sink).2

/-- **A frame through the whole pipeline.** The last stage has the sink to itself once the receipts
are written, and its result is the result of the pipeline. -/
theorem process_eq (p : Ends κ ρ) (receipts : Nat) (f : Frame) (w : World κ ρ) :
    p.process receipts f w =
      let offered := (attempts p.write (requested receipts f) w.sink).1
      let done := p.done receipts f w
      (done.result,
        { sink := done.sink
          memory := done.memory
          journal := w.journal ++ (offered ++ .handed f :: (done.writes ++ [.ended done.result]))
          events := w.events ++ (offered.filterMap (acknowledged? f.command) ++
            reports receipts f done.result) }) := by
  have last : ∀ w, p.last f w =
      (p.conduct w.memory f).carryOut p.sink { w with journal := w.journal ++ [.handed f] } :=
    fun _ => rfl
  have unfolded : p.process receipts f w =
      ((Stage.acknowledgingTimes p.sink p.last receipts f w).1,
        { (Stage.acknowledgingTimes p.sink p.last receipts f w).2 with
          journal := (Stage.acknowledgingTimes p.sink p.last receipts f w).2.journal ++
            [.ended (Stage.acknowledgingTimes p.sink p.last receipts f w).1] }) := rfl
  rw [unfolded, Stage.acknowledgingTimes_eq, acknowledgeTimes_eq, last, carryOut_eq,
    reportTimes_eq]
  simp [Ends.atHandOver, Ends.done]

/-! ## What the journal shows -/

/-- Every frame is attempted, in order, whatever the sink answers. -/
theorem written_attempts (write : Frame → StateM κ (Except TransportError Unit))
    (frames : List Frame) (k : κ) :
    (attempts write frames k).1.map Reached.written? = frames.map some := by
  induction frames generalizing k with
  | nil => rfl
  | cons f rest ih => simp [attempts, Reached.written?, ih]

theorem isSome_written_alone (write : Frame → StateM κ (Except TransportError Unit))
    (c : Conduct ρ) (k : κ) : ∀ r ∈ (c.alone write k).writes, r.written?.isSome := by
  induction c generalizing k with
  | finish memory result => simp [Conduct.alone]
  | write f next ih =>
    intro r reached
    obtain rfl | later := List.mem_cons.mp reached
    · rfl
    · exact ih _ _ r later

/-- What is written is not handed over. -/
theorem filterMap_handed_eq_nil {reached : List Reached}
    (writes : ∀ r ∈ reached, r.written?.isSome) : reached.filterMap Reached.handed? = [] := by
  refine List.filterMap_eq_nil_iff.mpr fun r mem => ?_
  cases r with
  | written f answer => rfl
  | handed f => cases writes _ mem
  | ended result => rfl

theorem receiptId?_error (message : String) (details : Option String) :
    (Frame.error message details).receiptId? = none := by
  have empty : ({ command := .error } : Frame).receiptId? = none := rfl
  have named : receiptIdHeader ≠ messageHeader := by decide
  have plain : (({ command := .error } : Frame).withHeader messageHeader message).receiptId? =
      none := by
    rw [Frame.receiptId?, Frame.header?_withHeader_of_ne named]
    exact empty
  cases details <;> exact plain

/-- **The error frame of a fault** echoes the receipt that the frame of the fault requests, if the
fault has a frame and the frame a request. -/
theorem receiptId?_errorFrame (fault : ClientFault) :
    fault.errorFrame.receiptId? = fault.frame.bind Frame.receiptRequest? := by
  rw [ClientFault.errorFrame]
  cases fault.frame.bind Frame.receiptRequest? with
  | none => exact receiptId?_error _ _
  | some id => exact Frame.header?_withHeader

/-- **What the pipeline does with one frame**, from any state of its ends. -/
structure Acknowledges (p : Ends κ ρ) (receipts : Nat) (w : World κ ρ) (f : Frame) : Prop where
  /-- The journal goes on with the receipts, the hand-over of the frame as it came, the writes of
  the last stage and the end of the frame. -/
  journal : ∃ offered own,
    (p.process receipts f w).2.journal =
      w.journal ++ (offered ++ .handed f :: (own ++ [.ended (p.process receipts f w).1])) ∧
    offered.map Reached.written? = (requested receipts f).map some ∧
    (∀ r ∈ own, r.written?.isSome) ∧
    own = (p.done receipts f w).writes
  /-- The result is that of the last stage, which has the sink to itself once the receipts are
  written. -/
  result : (p.process receipts f w).1 = (p.done receipts f w).result
  /-- So are the sink and the memory that are left. -/
  left : (p.process receipts f w).2.sink = (p.done receipts f w).sink ∧
    (p.process receipts f w).2.memory = (p.done receipts f w).memory
  /-- The error frame of a fault about the frame echoes the receipt that the frame requests. -/
  echoed : ∀ fault, (p.process receipts f w).1 = .error fault → fault.frame = some f →
    ∀ id, fault.errorFrame.receiptId? = some id ↔ f.receiptRequest? = some id
  /-- That of a fault about no frame echoes nothing. -/
  unechoed : ∀ fault, (p.process receipts f w).1 = .error fault → fault.frame = none →
    fault.errorFrame.receiptId? = none

theorem acknowledges (p : Ends κ ρ) (receipts : Nat) (w : World κ ρ) (f : Frame) :
    Acknowledges p receipts w f where
  journal := by
    refine ⟨(attempts p.write (requested receipts f) w.sink).1, (p.done receipts f w).writes,
      ?_, written_attempts .., isSome_written_alone _ _ _, rfl⟩
    rw [process_eq]
  result := by rw [process_eq]
  left := by rw [process_eq]; exact ⟨rfl, rfl⟩
  echoed := by
    intro fault _ about id
    rw [receiptId?_errorFrame, about, Option.bind_some]
  unechoed := by
    intro fault _ about
    rw [receiptId?_errorFrame, about, Option.bind_none]

/-- One frame is handed over once. -/
theorem handed_process (p : Ends κ ρ) (receipts : Nat) (f : Frame) (w : World κ ρ) :
    (p.process receipts f w).2.journal.filterMap Reached.handed? =
      w.journal.filterMap Reached.handed? ++ [f] := by
  obtain ⟨offered, own, journal, receiptsWritten, ownWritten, -⟩ :=
    (acknowledges p receipts w f).journal
  have offeredWritten : ∀ r ∈ offered, r.written?.isSome := by
    intro r mem
    obtain ⟨g, -, written⟩ := List.mem_map.mp (receiptsWritten ▸ List.mem_map_of_mem mem)
    rw [← written, Option.isSome_some]
  rw [journal]
  simp [filterMap_handed_eq_nil offeredWritten, filterMap_handed_eq_nil ownWritten,
    Reached.handed?]

/-- Frames are handed over each once, as they came and in order. -/
theorem handed_after (p : Ends κ ρ) (receipts : Nat) (frames : List Frame) (start : World κ ρ) :
    (p.after receipts frames start).journal.filterMap Reached.handed? =
      start.journal.filterMap Reached.handed? ++ frames := by
  induction frames generalizing start with
  | nil => exact (List.append_nil _).symm
  | cons f rest ih =>
    have stepped : p.after receipts (f :: rest) start =
        p.after receipts rest (p.process receipts f start).2 := rfl
    rw [stepped, ih, handed_process, List.append_assoc, List.singleton_append]

theorem after_concat (p : Ends κ ρ) (receipts : Nat) (before : List Frame) (f : Frame)
    (start : World κ ρ) :
    p.after receipts (before ++ [f]) start =
      (p.process receipts f (p.after receipts before start)).2 := by
  rw [Ends.after, List.foldl_append]
  rfl

/-- Two stages before a last stage that does nothing, on a sink that is gone: two attempts, then
the hand-over. -/
example :
    let f := ({ command := .send } : Frame).withHeader receiptHeader ""
    let p : Ends Unit Unit :=
      { write := fun _ => pure (.error (.io "gone")), conduct := fun _ _ => .finish () (.ok ()) }
    (p.after 2 [f] { sink := (), memory := () }).journal.map Reached.written? =
      [some (.receipt ""), some (.receipt ""), none, none] := by
  rfl

end ReceiptLine

end ChannelRouting
