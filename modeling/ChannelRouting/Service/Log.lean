import ChannelRouting.Service
import ChannelRouting.Text.Quoted

/-!
# The log of a one-shot run

The records that a run leaves: one when it begins, one for each loop and for each
message that it could not deliver, one for each target, and the totals. A field is
shown as a count, as plain text or between quotes.
-/

namespace ChannelRouting

/-- How the value of a field is shown. -/
inductive LogValue where
  | count (n : Nat)
  | plain (s : String)
  | quoted (s : String)
  | identifier (id : Uuid)
deriving DecidableEq

namespace LogValue

/-- The text of a value. -/
def text : LogValue → String
  | count n => toString n
  | plain s => s
  | quoted s => Text.quoted s
  | identifier id => id.toString

end LogValue

/-- A record of a log. -/
structure LogRecord where
  level : Level
  message : String
  fields : List (String × LogValue) := []
deriving DecidableEq

namespace LogRecord

/-- The line of a record, its values written by `show_`. -/
def line (show_ : LogValue → String) (r : LogRecord) : String :=
  r.level.shown ++ " " ++ r.message
    ++ String.join (r.fields.map fun f => " " ++ f.1 ++ "=" ++ show_ f.2)

end LogRecord

namespace Service

/-- The first record of every run. -/
def started : LogRecord := { level := .info, message := "Started configurable-router" }

/-- The fields of counters. -/
def statFields (s : LoopStats) : List (String × LogValue) :=
  [("received", .count s.received), ("forwarded", .count s.forwarded),
   ("dropped", .count s.dropped), ("send_failures", .count s.sendErrors.length)]

/-- The record of a message that was not delivered to a target. -/
def failureRecord (thread : String) (f : SendFailure) : LogRecord :=
  { level := .warn, message := "message not delivered to target"
    fields := [("worker_thread", .quoted thread), ("target_key", .plain f.target.name),
      ("msg_id", .identifier f.messageId), ("err", .plain f.error.message)] }

/-- The records of a loop that has stopped. -/
def outcomeRecords (thread : String) : Except LoopError LoopStats → List LogRecord
  | .ok stats =>
    { level := .info, message := "routing loop finished"
      fields := ("worker_thread", .quoted thread) :: statFields stats }
      :: stats.sendErrors.map (failureRecord thread)
  | .error e =>
    let id := e.message?.elim "none" fun m => m.id.toString
    [{ level := .warn, message := "routing loop failed"
       fields := [("worker_thread", .quoted thread), ("msg_id", .quoted id),
         ("err", .plain e.text)] }]

/-- The record of a target. -/
def deliveryRecord (d : ChannelKey × Nat) : LogRecord :=
  { level := .info, message := "target delivery summary"
    fields := [("target_key", .plain d.1.name), ("delivered", .count d.2)] }

/-- The record of the totals. -/
def totalRecord (s : Service) : LogRecord :=
  { level := .info, message := "configurable-router finished"
    fields := ("routers", .count s.node.registry.count) :: statFields s.totals }

/-- The records of a service whose loops have stopped, the first one apart. -/
def records (s : Service) : List LogRecord :=
  s.outcomes.flatMap (fun o => outcomeRecords o.1 o.2)
    ++ s.deliveries.map deliveryRecord ++ [s.totalRecord]

end Service

end ChannelRouting
