import NetConsole.Foundations.Groupings
import NetConsole.Foundations.WhileLoops
import Mathlib.Data.List.Dedup
import Mathlib.Data.List.Sort
import Mathlib.Data.String.Basic

/-!
# Shards of the fleet ping

The fleet ping spreads its target addresses over shards, one worker thread with
one fping process each. `planShards` is incremental: a shard keeps those of its
targets that are still wanted, shards with room take new addresses, and what is
left goes into new shards. `reconcileShards` then starts and keeps workers so
that they match the plan.

Sets are lists without duplicates, dictionaries are lists of their items in
insertion order.
-/

set_option autoImplicit false

namespace NetConsole.FleetPing

open Foundations

/-! ## Workers and plans -/

/-- A running `fping` and its targets. -/
structure ShardWorker where
  generation : String
  targets : List String
  deriving DecidableEq

/-- `_workers`, by shard id. -/
abbrev Workers := List (String × ShardWorker)

/-- The addresses that each shard id is to have. -/
abbrev Plan := List (String × List String)

/-- `f"shard-{index:03d}"`. -/
def shardName (index : Nat) : String :=
  "shard-" ++ String.ofList (List.leftpad 3 '0' (Nat.toDigits 10 index))

/-- The addresses of an update: the keys of `desired`, sorted. -/
def addressesOf (targetIps : List String) : List String :=
  (targetIps.filter (fun address => address ≠ "")).dedup.insertionSort (· ≤ ·)

/-! ## Planning -/

/-- New addresses are taken while the shard has room. -/
def fillShard (size : Nat) (remaining : List String) :
    List String → List String → List String × List String
  | kept, [] => (kept, [])
  | kept, value :: newAddresses =>
    if kept.length < size then
      if value ∈ remaining ∧ value ∉ kept then
        fillShard size remaining (kept ++ [value]) newAddresses
      else fillShard size remaining kept newAddresses
    else (kept, value :: newAddresses)

/-- What the loop over the live workers goes on with. -/
structure Planning where
  remaining : List String
  planned : Plan
  newAddresses : List String

/-- One existing shard: what it keeps and what it takes. -/
def keepShard (size : Nat) (state : Planning) (shard : String × ShardWorker) : Planning :=
  let filled := fillShard size state.remaining
    (shard.2.targets.filter (fun value => value ∈ state.remaining)) state.newAddresses
  if filled.1 = [] then { state with newAddresses := filled.2 }
  else
    { remaining := state.remaining.filter (fun value => value ∉ filled.1)
      planned := state.planned ++ [(shard.1, filled.1)], newAddresses := filled.2 }

/-- The existing shards in the order of their ids. -/
def sortedWorkers (workers : Workers) : Workers :=
  workers.insertionSort (fun one two => one.1 ≤ two.1)

/-- What the existing shards keep and take. -/
def keepShards (size : Nat) (workers : Workers) (addresses : List String) : Planning :=
  (sortedWorkers workers).foldl (keepShard size)
    { remaining := addresses, planned := []
      newAddresses := addresses.filter fun value =>
        workers.all fun shard => value ∉ shard.2.targets }

/-- What the loop that opens shards goes on with. -/
structure Opening where
  index : Nat
  remaining : List String
  planned : Plan

def isPlanned (planned : Plan) (index : Nat) : Bool :=
  planned.any fun shard => shard.1 == shardName index

/-- The first index from here whose shard id is not planned yet. -/
def unusedIndex (planned : Plan) (fuel index : Nat) : Option Nat :=
  whileLoop (isPlanned planned) (fun index => some (index + 1)) fuel index

/-- One shard is opened for the addresses that remain. -/
def openShard (size fuel : Nat) (state : Opening) : Option Opening :=
  (unusedIndex state.planned fuel state.index).map fun index =>
    let group := (state.remaining.insertionSort (· ≤ ·)).take size
    { index := index + 1, remaining := state.remaining.filter (fun value => value ∉ group)
      planned := state.planned ++ [(shardName index, group)] }

/-- `_plan_shards`; no result when the fuel does not reach for its loops. -/
def planShards (fuel size : Nat) (workers : Workers) (addresses : List String) : Option Plan :=
  let kept := keepShards size workers addresses
  (whileLoop (fun state => !state.remaining.isEmpty) (openShard size fuel) fuel
    { index := 1, remaining := kept.remaining, planned := kept.planned }).map Opening.planned

/-! ## Reconciling the workers -/

/-- What the threads do: which generations run, and which generation a started
worker has, or that starting it raises. -/
structure Threads where
  isAlive : String → Bool
  startWorker : String → Option String

/-- The worker of a planned shard: the running one when its targets are the planned ones. -/
def replacement (threads : Threads) (old : Workers) (shard : String × List String) :
    Option (String × ShardWorker) :=
  let started := (threads.startWorker shard.1).map fun generation =>
    (shard.1, { generation, targets := shard.2 })
  match old.lookup shard.1 with
  | some current =>
    if current.targets = shard.2 ∧ threads.isAlive current.generation then some (shard.1, current)
    else started
  | none => started

/-- `_reconcile_shards`: the workers are replaced when all of them could be started. -/
def reconcileShards (fuel size : Nat) (threads : Threads) (workers : Workers)
    (addresses : List String) : Option Workers :=
  (planShards fuel size workers addresses).map fun planned =>
    (planned.mapM (replacement threads workers)).getD workers

/-- The workers that target updates lead to. Stopping leaves those whose threads still run. -/
inductive Reached (size : Nat) : Workers → Prop
  | start : Reached size []
  | updated {workers after : Workers} (reached : Reached size workers) (fuel : Nat)
      (threads : Threads) (targetIps : List String)
      (reconciled :
        reconcileShards fuel size threads workers (addressesOf targetIps) = some after) :
      Reached size after
  | stopped {workers : Workers} (reached : Reached size workers) (threads : Threads) :
      Reached size (workers.filter fun shard => threads.isAlive shard.2.generation)

end NetConsole.FleetPing
