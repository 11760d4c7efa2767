import ChannelRouting.Loop.Config
import ChannelRouting.Store
import ChannelRouting.Text.Quoted

/-!
# Configurations

A configuration describes a one-shot run: the sources with their routes, the
messages to begin with, the kind of store and the wait policies of the loops.

`Config.offence?` is the first thing that is wrong with a configuration: of each
source in turn that it has no name, repeats an earlier one, or has a route without a
target; then of the messages that one names no source; then of the store that it
allows no attempt.
-/

namespace ChannelRouting

/-- A route of a configured source. -/
structure RouteSetting where
  target : String
  keys : List String := []
deriving DecidableEq

/-- A configured source. -/
structure RouterSetting where
  source : String
  strategy : Option Strategy := none
  routes : List RouteSetting := []
deriving DecidableEq

/-- A message that a run begins with. -/
structure SeedMessage where
  source : String
  routingKey : Option String := none
  body : String
deriving DecidableEq

/-- A configuration. -/
structure Config where
  loops : LoopConfig := {}
  store : StoreKind := .inMemory
  routers : List RouterSetting
  seeds : List SeedMessage := []
deriving DecidableEq

/-- What is wrong with a configuration. -/
inductive Offence where
  | emptySource
  | repeatedSource (source : String)
  | emptyTarget (source : String) (route : RouteSetting)
  | unknownSource (source : String)
  | noAttempts
deriving DecidableEq

namespace Offence

/-- A route as an offence shows it. -/
def showRoute (r : RouteSetting) : String :=
  "RouteConfig \x7b target: " ++ Text.quoted r.target ++ ", routing_keys: "
    ++ Text.quotedList r.keys ++ " \x7d"

def message : Offence → String
  | emptySource => "router source must not be empty"
  | repeatedSource source => "duplicate router source: " ++ source
  | emptyTarget source route =>
    "route of `" ++ source ++ "` has an empty target: " ++ showRoute route
  | unknownSource source => "seed message for unconfigured source: " ++ source
  | noAttempts => "optimistic store needs at least one attempt"

end Offence

namespace Config

/-- What is wrong with a source, behind sources with other names. -/
def routerOffence? (seen : SortedSet String) (r : RouterSetting) : Option Offence :=
  if r.source.isEmpty then some .emptySource
  else if r.source ∈ seen then some (.repeatedSource r.source)
  else (r.routes.find? (fun route => route.target.isEmpty)).map (.emptyTarget r.source)

/-- The first thing that is wrong with sources in order. -/
def routersOffence? (seen : SortedSet String) : List RouterSetting → Option Offence
  | [] => none
  | r :: rest =>
    (routerOffence? seen r).or (routersOffence? (seen.insert r.source) rest)

def sources (c : Config) : List String := c.routers.map RouterSetting.source

/-- The first message that names no source. -/
def seedOffence? (c : Config) : Option Offence :=
  (c.seeds.find? (fun s => s.source ∉ c.sources)).map fun s => .unknownSource s.source

/-- Whether the store allows no attempt. -/
def storeOffence? (c : Config) : Option Offence :=
  match c.store with
  | .optimistic 0 => some .noAttempts
  | _ => none

/-- The first thing that is wrong with a configuration. -/
def offence? (c : Config) : Option Offence :=
  (routersOffence? .empty c.routers).or (c.seedOffence?.or c.storeOffence?)

/-- Refuses a configuration with which something is wrong. -/
def validate (c : Config) : Except Offence Unit :=
  match c.offence? with
  | some o => .error o
  | none => .ok ()

end Config

end ChannelRouting
