import ChannelRouting.Event

/-!
# Worker threads

The names under which loops run on threads of their own. A name that a thread
cannot carry, because it is empty or has a NUL in it, gives way to a fixed one. A
thread without a name is shown under a fixed name as well.
-/

namespace ChannelRouting

/-- The name of a loop's thread when the one asked for cannot be used. -/
def fallbackThreadName : String := "channel-router-loop"

/-- How a thread without a name is shown. -/
def unknownThread : String := "unknown-thread"

/-- Whether a thread can carry a name. -/
def isThreadName (name : String) : Bool := !name.isEmpty && !name.toList.contains '\x00'

/-- The name of the thread of a loop for which a name was asked. -/
def threadNameFor (requested : String) : String :=
  if isThreadName requested then requested else fallbackThreadName

/-- What is reported when a loop's thread is started. -/
def spawnEvents (requested : String) (id : Nat) (source : ChannelKey) : List Event :=
  let started : Event := .threadSpawned
    { id := id, thread := threadNameFor requested, source := source }
  if isThreadName requested then [started]
  else [.threadRenamed requested fallbackThreadName, started]

/-- A worker as it is shown: its identifier and its thread. -/
structure WorkerContext where
  id : String
  thread : String
deriving DecidableEq

/-- The context of a worker on a thread that may have no name. -/
def WorkerContext.ofThread (id : String) (thread : Option String) : WorkerContext :=
  { id := id, thread := thread.getD unknownThread }

end ChannelRouting
