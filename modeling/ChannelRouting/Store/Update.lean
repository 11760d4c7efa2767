import ChannelRouting.Event
import ChannelRouting.Store.Versioned

/-!
# Optimistic updates

A mutation over a versioned table: load the entry, compute its successor, swap it
in under the version that was loaded, and start again if the swap is refused. The
number of attempts is bounded, and at least one.

An update is a machine with two kinds of steps, loading and swapping. Whoever
drives it may let others act between any two steps; `Update.run` drives it alone.
The table is seen through `Update.Access`, so the machine works over any state that
answers loads and swaps, also one that fails or changes in between.
-/

namespace ChannelRouting

/-- A mutation to be made, with the number of attempts it is allowed. -/
structure Update where
  key : ChannelKey
  mutation : Mutation
  limit : Nat
deriving DecidableEq

namespace Update

/-- A versioned table as an update sees it. -/
structure Access (σ : Type) where
  load : ChannelKey → StateM σ (Except StoreError (Option Versioned))
  swap : ChannelKey → Nat → Entry → StateM σ (Except StoreError Bool)
  emit : Event → StateM σ Unit
  /-- Lets others act before the next attempt. -/
  pause : StateM σ Unit

/-- How far an update has come; attempts are counted from 1. -/
inductive Phase where
  | loading (attempt : Nat)
  | swapping (attempt version : Nat) (next : Entry)
  | finished (result : Except StoreError (Option Entry))

/-- The number of attempts: at least one. -/
def attempts (u : Update) : Nat := max u.limit 1

variable {σ : Type}

/-- What follows a refused swap: another attempt, or giving up. -/
def afterRefusal (p : Access σ) (u : Update) (attempt : Nat) : StateM σ Phase := do
  p.emit (.swapRefused u.key attempt)
  p.pause
  if attempt < u.attempts then return .loading (attempt + 1)
  p.emit (.swapsExhausted u.key u.attempts)
  return .finished (.error (.contention u.key u.attempts))

/-- One step: a load or a swap. -/
def step (p : Access σ) (u : Update) : Phase → StateM σ Phase
  | .loading attempt => do
    match ← p.load u.key with
    | .error e => return .finished (.error e)
    | .ok none => return .finished (.ok none)
    | .ok (some v) => return .swapping attempt v.version (u.mutation.apply v.entry)
  | .swapping attempt version next => do
    match ← p.swap u.key version next with
    | .error e => return .finished (.error e)
    | .ok true => return .finished (.ok (some next))
    | .ok false => afterRefusal p u attempt
  | .finished r => return .finished r

/-- The result after at most `fuel` steps; without it the update is given up. -/
def runFrom (p : Access σ) (u : Update) : (fuel : Nat) → Phase →
    StateM σ (Except StoreError (Option Entry))
  | _, .finished r => return r
  | 0, _ => return .error (.contention u.key u.attempts)
  | fuel + 1, phase => do runFrom p u fuel (← step p u phase)

/-- The result of an update: every attempt takes two steps. -/
def run (p : Access σ) (u : Update) : StateM σ (Except StoreError (Option Entry)) :=
  runFrom p u (2 * u.attempts) (.loading 1)

/-- A versioned table that nobody else uses. -/
def Access.alone : Access VersionedTable where
  load key t := (.ok (t.load key), t)
  swap key version e t :=
    let (done, t') := t.swap key version e
    (.ok done, t')
  emit _ := pure ()
  pause := pure ()

end Update

end ChannelRouting
