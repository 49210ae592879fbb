import NetConsole.FleetPing.Shards
import Mathlib.Data.List.Flatten

/-!
# Every address in one shard

A plan shares the wanted addresses out: what is planned and what remains are,
together, a permutation of them. Both halves of the planning keep this. The
first half leaves new addresses over only when it has filled every existing
shard, and the second half opens a shard only for what remains, so that a new
shard always follows full ones (`OpensWhenFull`).

Every plan over workers that target updates lead to is of this kind, and the
planning ends (`plan_sound`).
-/

set_option autoImplicit false

namespace NetConsole.FleetPing

open Foundations List

/-! ## What a plan promises -/

/-- All workers of the plan are full. -/
def Full (size : Nat) (plan : Plan) : Prop := ∀ shard ∈ plan, shard.2.length = size

/-- A shard that is not one of the workers' comes after full ones, which take in all workers. -/
def OpensWhenFull (size : Nat) (workers : Workers) (plan : Plan) : Prop :=
  ∀ before opened after, plan = before ++ opened :: after → opened.1 ∉ workers.map Prod.fst →
    Full size before ∧ ∀ worker ∈ workers, worker.1 ∈ before.map Prod.fst

/-- An address of a worker that is wanted is planned in the worker's shard. -/
def Stays (workers : Workers) (addresses : List String) (plan : Plan) : Prop :=
  ∀ worker ∈ workers, ∀ address ∈ worker.2.targets, address ∈ addresses →
    ∃ shard ∈ plan, shard.1 = worker.1 ∧ address ∈ shard.2

/-- Each address has exactly one worker, and no worker is wider than `size`. -/
structure SoundPlan (size : Nat) (workers : Workers) (addresses : List String) (plan : Plan) :
    Prop where
  /-- The plan is a dictionary. -/
  ids : (plan.map Prod.fst).Nodup
  placed : ∀ address ∈ addresses, ∃! shard, shard ∈ plan ∧ address ∈ shard.2
  wanted : ∀ shard ∈ plan, shard.2.Nodup ∧ ∀ address ∈ shard.2, address ∈ addresses
  bounded : ∀ shard ∈ plan, shard.2.length ≤ size
  stays : Stays workers addresses plan
  opens : OpensWhenFull size workers plan

/-! ## Sound workers -/

/-- The plan that the workers carry out. -/
def shardsOf (workers : Workers) : Plan := workers.map fun shard => (shard.1, shard.2.targets)

/-- Workers share no target, and none has too many. -/
structure SoundWorkers (size : Nat) (workers : Workers) : Prop where
  ids : (workers.map Prod.fst).Nodup
  distinct : (members (shardsOf workers)).Nodup
  bounded : ∀ worker ∈ workers, worker.2.targets.length ≤ size

variable {workers others : Workers}

theorem SoundWorkers.perm {size : Nat} (same : workers.Perm others)
    (sound : SoundWorkers size workers) : SoundWorkers size others where
  ids := (same.map _).nodup sound.ids
  distinct := ((same.map _).flatMap_right _).nodup sound.distinct
  bounded _ mem := sound.bounded _ (same.mem_iff.mpr mem)

theorem SoundWorkers.sublist {size : Nat} (fewer : others.Sublist workers)
    (sound : SoundWorkers size workers) : SoundWorkers size others where
  ids := sound.ids.sublist (fewer.map _)
  distinct := sound.distinct.sublist ((fewer.map _).flatMap _)
  bounded _ mem := sound.bounded _ (fewer.subset mem)

theorem sortedWorkers_perm (workers : Workers) : (sortedWorkers workers).Perm workers :=
  perm_insertionSort _ workers

section Head

variable {size : Nat} {worker : String × ShardWorker} {todo : Workers}
  (sound : SoundWorkers size (worker :: todo))
include sound

theorem SoundWorkers.tail : SoundWorkers size todo :=
  sound.sublist (sublist_cons_self _ todo)

theorem SoundWorkers.distinctHead : worker.2.targets.Nodup :=
  (nodup_append'.mp sound.distinct).1

theorem SoundWorkers.apart {value : String} (here : value ∈ worker.2.targets) :
    ∀ other ∈ todo, value ∉ other.2.targets := by
  intro other mem there
  have inTodo : (other.1, other.2.targets) ∈ shardsOf todo := mem_map.mpr ⟨other, mem, rfl⟩
  exact (nodup_append'.mp sound.distinct).2.2 here (mem_members.mpr ⟨_, inTodo, there⟩)

omit sound

end Head

/-! ## The existing shards -/

/-- Filling takes the first new addresses, and leaves some over only in a full shard. -/
theorem fillShard_spec {size : Nat} {remaining kept newAddresses : List String}
    (fits : kept.length ≤ size) (distinct : newAddresses.Nodup)
    (fresh : ∀ value ∈ newAddresses, value ∈ remaining ∧ value ∉ kept) :
    ∃ taken, (fillShard size remaining kept newAddresses).1 = kept ++ taken ∧
      newAddresses = taken ++ (fillShard size remaining kept newAddresses).2 ∧
      (kept ++ taken).length ≤ size ∧
      ((fillShard size remaining kept newAddresses).2 ≠ [] → (kept ++ taken).length = size) := by
  induction newAddresses generalizing kept with
  | nil => exact ⟨[], by simp [fillShard], rfl, by simpa using fits, by simp [fillShard]⟩
  | cons value rest ih =>
    obtain ⟨valueFresh, restDistinct⟩ := nodup_cons.mp distinct
    by_cases room : kept.length < size
    · have here := fresh value mem_cons_self
      have fitsMore : (kept ++ [value]).length ≤ size := by
        rw [length_append, length_singleton]
        omega
      obtain ⟨taken, filled, shared, bounded, full⟩ := ih fitsMore restDistinct (by
        intro other mem
        obtain ⟨remains, new⟩ := fresh other (mem_cons_of_mem _ mem)
        refine ⟨remains, ?_⟩
        rw [mem_append, mem_singleton]
        rintro (old | rfl)
        · exact new old
        · exact valueFresh mem)
      have unfolded : fillShard size remaining kept (value :: rest) =
          fillShard size remaining (kept ++ [value]) rest := by
        rw [fillShard, if_pos room, if_pos here]
      rw [unfolded]
      refine ⟨value :: taken, ?_, ?_, ?_, ?_⟩
      · rw [filled, append_assoc, singleton_append]
      · rw [cons_append, ← shared]
      · simpa using bounded
      · simpa using full
    · have unfolded : fillShard size remaining kept (value :: rest) = (kept, value :: rest) := by
        rw [fillShard, if_neg room]
      rw [unfolded]
      refine ⟨[], (append_nil kept).symm, rfl, by simpa using fits, ?_⟩
      intro _
      rw [append_nil]
      omega

/-- The state of the first half, with the shards that are done and those still to come. -/
structure Keeping (size : Nat) (addresses : List String) (done todo : Workers)
    (state : Planning) : Prop where
  shared : (members state.planned ++ state.remaining).Perm addresses
  freshDistinct : state.newAddresses.Nodup
  fresh : ∀ value ∈ state.newAddresses,
    value ∈ state.remaining ∧ ∀ worker ∈ todo, value ∉ worker.2.targets
  left : ∀ value ∈ state.remaining,
    value ∈ state.newAddresses ∨ ∃ worker ∈ todo, value ∈ worker.2.targets
  settled : ∀ value ∈ members state.planned, ∀ worker ∈ todo, value ∉ worker.2.targets
  ids : (state.planned.map Prod.fst).Sublist (done.map Prod.fst)
  bounded : ∀ shard ∈ state.planned, shard.2.length ≤ size
  stays : Stays done addresses state.planned
  full : state.newAddresses ≠ [] →
    Full size state.planned ∧ ∀ worker ∈ done, worker.1 ∈ state.planned.map Prod.fst

section Step

variable {size : Nat} {addresses : List String} {done todo : Workers}
  {worker : String × ShardWorker} {state : Planning}

theorem Keeping.remainingDistinct (keeping : Keeping size addresses done todo state)
    (distinct : addresses.Nodup) : state.remaining.Nodup :=
  (nodup_append'.mp (keeping.shared.symm.nodup distinct)).2.1

theorem Keeping.remains (keeping : Keeping size addresses done (worker :: todo) state)
    {value : String} (target : value ∈ worker.2.targets) (wanted : value ∈ addresses) :
    value ∈ state.remaining := by
  rcases mem_append.mp (keeping.shared.mem_iff.mpr wanted) with planned | remains
  · exact (keeping.settled value planned _ mem_cons_self target).elim
  · exact remains

variable (keeping : Keeping size addresses done (worker :: todo) state)
include keeping

theorem Keeping.skip (exhausted : state.newAddresses = [])
    (nothing : ∀ value ∈ worker.2.targets, value ∉ state.remaining) :
    Keeping size addresses (done ++ [worker]) todo state where
  shared := keeping.shared
  freshDistinct := keeping.freshDistinct
  fresh := by simp [exhausted]
  left := by
    intro value remains
    rcases keeping.left value remains with new | ⟨other, mem, target⟩
    · exact .inl new
    · rcases mem_cons.mp mem with rfl | mem
      · exact (nothing value target remains).elim
      · exact .inr ⟨other, mem, target⟩
  settled value planned other mem :=
    keeping.settled value planned other (mem_cons_of_mem _ mem)
  ids := by
    rw [map_append]
    exact keeping.ids.trans (sublist_append_left _ _)
  bounded := keeping.bounded
  stays := by
    intro other mem value target wanted
    rcases mem_append.mp mem with mem | mem
    · exact keeping.stays other mem value target wanted
    · cases mem_singleton.mp mem
      exact (nothing value target (keeping.remains target wanted)).elim
  full some' := (some' exhausted).elim

/-- A shard is planned with what it keeps and the new addresses it takes. -/
theorem Keeping.plan (distinct : addresses.Nodup) (sound : SoundWorkers size (worker :: todo))
    {taken rest : List String} (newAddresses : state.newAddresses = taken ++ rest)
    {group : List String}
    (grouped : group = worker.2.targets.filter (fun value => value ∈ state.remaining) ++ taken)
    (bounded : group.length ≤ size) (full : rest ≠ [] → group.length = size) :
    Keeping size addresses (done ++ [worker]) todo
      { remaining := state.remaining.filter (fun value => value ∉ group)
        planned := state.planned ++ [(worker.1, group)]
        newAddresses := rest } := by
  have takenNew : ∀ value ∈ taken, value ∈ state.newAddresses := by
    intro value mem
    rw [newAddresses]
    exact mem_append_left _ mem
  have restNew : ∀ value ∈ rest, value ∈ state.newAddresses := by
    intro value mem
    rw [newAddresses]
    exact mem_append_right _ mem
  obtain ⟨takenDistinct, restDistinct, separate⟩ :=
    nodup_append'.mp (newAddresses ▸ keeping.freshDistinct)
  have inGroup : ∀ value, value ∈ group ↔
      (value ∈ worker.2.targets ∧ value ∈ state.remaining) ∨ value ∈ taken := by
    intro value
    rw [grouped, mem_append, mem_filter, decide_eq_true_eq]
  have inside : ∀ value ∈ group, value ∈ state.remaining := by
    intro value mem
    rcases (inGroup value).mp mem with ⟨_, remains⟩ | new
    · exact remains
    · exact (keeping.fresh value (takenNew value new)).1
  have groupDistinct : group.Nodup := by
    rw [grouped]
    apply List.Nodup.append (sound.distinctHead.filter _) takenDistinct
    intro value kept new
    exact (keeping.fresh value (takenNew value new)).2 _ mem_cons_self (mem_of_mem_filter kept)
  refine ⟨?_, restDistinct, ?_, ?_, ?_, ?_, ?_, ?_, ?_⟩
  · rw [members_append, members_singleton, append_assoc]
    exact ((append_filter_perm (keeping.remainingDistinct distinct) groupDistinct
      inside).append_left _).trans keeping.shared
  · intro value mem
    obtain ⟨remains, new⟩ := keeping.fresh value (restNew value mem)
    refine ⟨mem_filter.mpr ⟨remains, ?_⟩, fun other inTodo =>
      new other (mem_cons_of_mem _ inTodo)⟩
    rw [decide_eq_true_eq, inGroup]
    rintro (⟨target, _⟩ | isTaken)
    · exact new _ mem_cons_self target
    · exact separate isTaken mem
  · intro value mem
    obtain ⟨remains, outside⟩ := mem_filter.mp mem
    rw [decide_eq_true_eq, inGroup] at outside
    rcases keeping.left value remains with new | ⟨other, inTodo, target⟩
    · rw [newAddresses, mem_append] at new
      exact .inl (new.resolve_left fun isTaken => outside (.inr isTaken))
    · rcases mem_cons.mp inTodo with rfl | inTodo
      · exact (outside (.inl ⟨target, remains⟩)).elim
      · exact .inr ⟨other, inTodo, target⟩
  · intro value mem other inTodo
    rw [members_append, members_singleton, mem_append, inGroup] at mem
    rcases mem with planned | ⟨target, _⟩ | isTaken
    · exact keeping.settled value planned other (mem_cons_of_mem _ inTodo)
    · exact sound.apart target other inTodo
    · exact (keeping.fresh value (takenNew value isTaken)).2 other (mem_cons_of_mem _ inTodo)
  · rw [map_append, map_append]
    exact keeping.ids.append (List.Sublist.refl [worker.1])
  · intro shard mem
    rcases mem_append.mp mem with mem | mem
    · exact keeping.bounded shard mem
    · cases mem_singleton.mp mem
      exact bounded
  · intro other mem value target wanted
    rcases mem_append.mp mem with mem | mem
    · obtain ⟨shard, planned, here⟩ := keeping.stays other mem value target wanted
      exact ⟨shard, mem_append_left _ planned, here⟩
    · cases mem_singleton.mp mem
      exact ⟨_, mem_append_right _ (mem_singleton_self _), rfl,
        (inGroup value).mpr (.inl ⟨target, keeping.remains target wanted⟩)⟩
  · intro some'
    have before : state.newAddresses ≠ [] := by
      rw [newAddresses]
      exact append_ne_nil_of_right_ne_nil _ some'
    obtain ⟨allFull, allPlanned⟩ := keeping.full before
    constructor
    · intro shard mem
      rcases mem_append.mp mem with mem | mem
      · exact allFull shard mem
      · cases mem_singleton.mp mem
        exact full some'
    · intro other mem
      rw [map_append, mem_append]
      rcases mem_append.mp mem with mem | mem
      · exact .inl (allPlanned other mem)
      · cases mem_singleton.mp mem
        exact .inr (mem_singleton_self _)

theorem Keeping.step (positive : 1 ≤ size) (distinct : addresses.Nodup)
    (sound : SoundWorkers size (worker :: todo)) :
    Keeping size addresses (done ++ [worker]) todo (keepShard size state worker) := by
  have fits : (worker.2.targets.filter (fun value => value ∈ state.remaining)).length ≤ size :=
    (length_filter_le _ _).trans (sound.bounded worker mem_cons_self)
  obtain ⟨_, filled, newAddresses, bounded, full⟩ :=
    fillShard_spec fits keeping.freshDistinct (by
      intro value new
      obtain ⟨remains, outside⟩ := keeping.fresh value new
      exact ⟨remains, fun kept => outside worker mem_cons_self (mem_of_mem_filter kept)⟩)
  unfold keepShard
  simp only
  split
  · rename_i empty
    obtain ⟨noneKept, noneTaken⟩ := append_eq_nil_iff.mp (filled.symm.trans empty)
    have same : (fillShard size state.remaining
        (worker.2.targets.filter (fun value => value ∈ state.remaining))
          state.newAddresses).2 = state.newAddresses := by
      conv => rhs; rw [newAddresses, noneTaken, nil_append]
    have exhausted : state.newAddresses = [] := by
      by_contra some'
      have length := full (by rwa [same])
      rw [noneKept, noneTaken] at length
      exact absurd length (by simp; omega)
    rw [same]
    apply keeping.skip exhausted
    intro value target remains
    exact ne_nil_of_mem (mem_filter.mpr ⟨target, by simpa using remains⟩) noneKept
  · rw [filled]
    exact keeping.plan distinct sound newAddresses rfl bounded full

omit keeping

end Step

variable {addresses : List String}

theorem foldl_keepShard {size : Nat} (positive : 1 ≤ size) (distinct : addresses.Nodup)
    {done todo : Workers} {state : Planning} (sound : SoundWorkers size todo)
    (keeping : Keeping size addresses done todo state) :
    Keeping size addresses (done ++ todo) [] (todo.foldl (keepShard size) state) := by
  induction todo generalizing done state with
  | nil => simpa using keeping
  | cons _ todo ih =>
    have kept := ih sound.tail (keeping.step positive distinct sound)
    rwa [append_assoc, singleton_append] at kept

theorem keepShards_keeping {size : Nat} {workers : Workers} (positive : 1 ≤ size)
    (distinct : addresses.Nodup) (sound : SoundWorkers size workers) :
    Keeping size addresses (sortedWorkers workers) [] (keepShards size workers addresses) := by
  have inWorkers : ∀ worker, worker ∈ sortedWorkers workers ↔ worker ∈ workers :=
    fun _ => (sortedWorkers_perm workers).mem_iff
  suffices initially : Keeping size addresses [] (sortedWorkers workers)
      { remaining := addresses, planned := []
        newAddresses := addresses.filter fun value =>
          workers.all fun shard => value ∉ shard.2.targets } from
    foldl_keepShard positive distinct (sound.perm (sortedWorkers_perm workers).symm) initially
  refine ⟨by simp [members], distinct.filter _, ?_, ?_, by simp [members], List.Sublist.refl [],
    by simp, by simp [Stays], by simp [Full]⟩
  · intro value mem
    obtain ⟨wanted, new⟩ := mem_filter.mp mem
    refine ⟨wanted, fun _ sorted => ?_⟩
    simpa using all_eq_true.mp new _ ((inWorkers _).mp sorted)
  · intro value wanted
    by_cases new : ∀ worker ∈ workers, value ∉ worker.2.targets
    · exact .inl (mem_filter.mpr ⟨wanted, all_eq_true.mpr (by simpa using new)⟩)
    · push Not at new
      obtain ⟨worker, mem, target⟩ := new
      exact .inr ⟨worker, (inWorkers _).mpr mem, target⟩

/-! ## New shards -/

theorem shardName_injective : Function.Injective shardName := by
  intro one two same
  have digits : ∀ index, Nat.ofDigitChars 10 (List.leftpad 3 '0' (Nat.toDigits 10 index)) 0 =
      index := by
    intro index
    rw [List.leftpad, Nat.ofDigitChars_append, Nat.ofDigitChars_replicate_zero, Nat.mul_zero,
      Nat.ofDigitChars_ten_toDigits]
  have padded : List.leftpad 3 '0' (Nat.toDigits 10 one) =
      List.leftpad 3 '0' (Nat.toDigits 10 two) := by
    have lists := congrArg String.toList same
    simp only [shardName, String.toList_append, String.toList_ofList] at lists
    exact append_cancel_left lists
  rw [← digits one, padded, digits two]

variable {planned : Plan}

theorem isPlanned_iff {index : Nat} :
    isPlanned planned index = true ↔ shardName index ∈ planned.map Prod.fst := by
  rw [isPlanned, any_eq_true, mem_map]
  simp

/-- Among more indices than planned shards one is unused. -/
theorem exists_unused (planned : Plan) (index : Nat) :
    ∃ unused, index ≤ unused ∧ unused ≤ index + planned.length ∧
      isPlanned planned unused = false := by
  by_contra none'
  push Not at none'
  have names : ((List.range' index (planned.length + 1)).map shardName).Nodup :=
    (nodup_range' ..).map shardName_injective
  have inside : (List.range' index (planned.length + 1)).map shardName ⊆ planned.map Prod.fst := by
    intro name mem
    obtain ⟨unused, inRange, rfl⟩ := mem_map.mp mem
    obtain ⟨from', upTo⟩ := mem_range'_1.mp inRange
    exact isPlanned_iff.mp (by simpa using none' unused from' (by omega))
  have counted := (subperm_of_subset names inside).length_le
  simp only [length_map, length_range'] at counted
  omega

theorem unusedIndex_ends {fuel : Nat} (enough : planned.length ≤ fuel) (index : Nat) :
    ∃ unused, unusedIndex planned fuel index = some unused ∧ isPlanned planned unused = false := by
  obtain ⟨first, from', _, unused⟩ := exists_unused planned index
  have round : ∀ index, index ≤ first → isPlanned planned index = true →
      ∃ after, some (index + 1) = some after ∧ after ≤ first ∧ first - after < first - index := by
    intro index below isUsed
    have differ : index ≠ first := by
      rintro rfl
      rw [unused] at isUsed
      cases isUsed
    exact ⟨index + 1, rfl, by omega, by omega⟩
  obtain ⟨found, ended, _, free⟩ := whileLoop_ends (fun index => index ≤ first)
    (fun index => first - index) round from' (show first - index ≤ fuel by omega)
  exact ⟨found, ended, free⟩

/-- The state of the second half. -/
structure Opens (size : Nat) (workers : Workers) (addresses : List String) (state : Opening) :
    Prop where
  shared : (members state.planned ++ state.remaining).Perm addresses
  ids : (state.planned.map Prod.fst).Nodup
  bounded : ∀ shard ∈ state.planned, shard.2.length ≤ size
  stays : Stays workers addresses state.planned
  full : state.remaining ≠ [] →
    Full size state.planned ∧ ∀ worker ∈ workers, worker.1 ∈ state.planned.map Prod.fst
  opens : OpensWhenFull size workers state.planned

section Opening

variable {size : Nat} {workers : Workers} {addresses : List String}

theorem Keeping.opens {state : Planning}
    (keeping : Keeping size addresses (sortedWorkers workers) [] state)
    (sound : SoundWorkers size workers) (index : Nat) : Opens size workers addresses
      { index, remaining := state.remaining, planned := state.planned } := by
  have sorted := sortedWorkers_perm workers
  have idsOf : ∀ id ∈ state.planned.map Prod.fst, id ∈ workers.map Prod.fst :=
    fun id mem => (sorted.map Prod.fst).mem_iff.mp (keeping.ids.subset mem)
  refine ⟨keeping.shared, (sound.perm sorted.symm).ids.sublist keeping.ids, keeping.bounded,
    fun _ mem => keeping.stays _ (sorted.mem_iff.mpr mem), ?_, ?_⟩
  · intro some'
    obtain ⟨value, remains⟩ := exists_mem_of_ne_nil _ some'
    have new : value ∈ state.newAddresses := by
      rcases keeping.left value remains with new | ⟨_, impossible, _⟩
      · exact new
      · cases impossible
    obtain ⟨allFull, allPlanned⟩ := keeping.full (ne_nil_of_mem new)
    exact ⟨allFull, fun _ mem => allPlanned _ (sorted.mem_iff.mpr mem)⟩
  · intro before opened after split' isNew
    apply (isNew (idsOf _ _)).elim
    rw [show state.planned = _ from split']
    simp

theorem OpensWhenFull.append {plan : Plan} (opens : OpensWhenFull size workers plan)
    (full : Full size plan) (planned : ∀ worker ∈ workers, worker.1 ∈ plan.map Prod.fst)
    (shard : String × List String) : OpensWhenFull size workers (plan ++ [shard]) := by
  intro before opened after split' isNew
  rcases eq_nil_or_concat after with rfl | ⟨after, _, rfl⟩
  · obtain ⟨rfl, _⟩ := append_inj' split' rfl
    exact ⟨full, planned⟩
  · rw [concat_eq_append, ← cons_append, ← append_assoc] at split'
    obtain ⟨split', _⟩ := append_inj' split' rfl
    exact opens before opened after split' isNew

variable {state : Opening}

theorem Opens.openAt (opening : Opens size workers addresses state) (distinct : addresses.Nodup)
    (some' : state.remaining ≠ []) {index : Nat} (unused : isPlanned state.planned index = false)
    {group : List String} (grouped : group = (state.remaining.insertionSort (· ≤ ·)).take size) :
    Opens size workers addresses
      { index := index + 1, remaining := state.remaining.filter (fun value => value ∉ group)
        planned := state.planned ++ [(shardName index, group)] } := by
  have remainingDistinct : state.remaining.Nodup :=
    (nodup_append'.mp (opening.shared.symm.nodup distinct)).2.1
  have sorted := perm_insertionSort (· ≤ ·) state.remaining
  have inside : ∀ value ∈ group, value ∈ state.remaining := by
    intro value mem
    rw [grouped] at mem
    exact sorted.mem_iff.mp (mem_of_mem_take mem)
  have groupDistinct : group.Nodup := by
    rw [grouped]
    exact (sorted.symm.nodup remainingDistinct).sublist (take_sublist _ _)
  have shared := append_filter_perm remainingDistinct groupDistinct inside
  obtain ⟨allFull, allPlanned⟩ := opening.full some'
  refine ⟨?_, ?_, ?_, ?_, ?_, opening.opens.append allFull allPlanned _⟩
  · rw [members_append, members_singleton, append_assoc]
    exact (shared.append_left _).trans opening.shared
  · rw [map_append, map_singleton]
    apply List.Nodup.append opening.ids (nodup_singleton _)
    intro name mem here
    rw [mem_singleton.mp here] at mem
    rw [isPlanned_iff.mpr mem] at unused
    cases unused
  · intro shard mem
    rcases mem_append.mp mem with mem | mem
    · exact opening.bounded shard mem
    · cases mem_singleton.mp mem
      rw [grouped]
      exact length_take_le _ _
  · intro _ mem value target wanted
    obtain ⟨shard, planned, here⟩ := opening.stays _ mem value target wanted
    exact ⟨shard, mem_append_left _ planned, here⟩
  · intro left
    constructor
    · intro shard mem
      rcases mem_append.mp mem with mem | mem
      · exact allFull shard mem
      · cases mem_singleton.mp mem
        -- A group that is not full took all that remained.
        have counted := shared.length_eq
        have remains : 0 < (state.remaining.filter (fun value => value ∉ group)).length :=
          length_pos_iff.mpr left
        rw [length_append] at counted
        have taken : group.length = min size state.remaining.length := by
          rw [grouped, length_take, length_insertionSort]
        have counted : group.length = size := by omega
        exact counted
    · intro _ mem
      rw [map_append, mem_append]
      exact .inl (allPlanned _ mem)

theorem openShard_spec {fuel : Nat} (opening : Opens size workers addresses state)
    (positive : 1 ≤ size) (distinct : addresses.Nodup) (some' : state.remaining ≠ [])
    (enough : state.planned.length ≤ fuel) :
    ∃ after, openShard size fuel state = some after ∧ Opens size workers addresses after ∧
      after.planned.length = state.planned.length + 1 ∧
      after.remaining.length < state.remaining.length := by
  obtain ⟨index, found, unused⟩ := unusedIndex_ends enough state.index
  refine ⟨_, by rw [openShard, found]; rfl, opening.openAt distinct some' unused rfl, ?_, ?_⟩
  · rw [length_append, length_singleton]
  · obtain ⟨first, mem⟩ : ∃ first, first ∈ (state.remaining.insertionSort (· ≤ ·)).take size := by
      apply exists_mem_of_ne_nil
      apply ne_nil_of_length_pos
      have remains := length_pos_iff.mpr some'
      rw [length_take, length_insertionSort]
      omega
    apply length_filter_lt_length_iff_exists.mpr
    refine ⟨first, ?_, by simpa using mem⟩
    exact (perm_insertionSort _ _).mem_iff.mp (mem_of_mem_take mem)

end Opening

/-! ## Plans -/

variable {addresses : List String} {workers : Workers} {size : Nat} {state : Opening}

theorem Opens.soundPlan (opening : Opens size workers addresses state) (distinct : addresses.Nodup)
    (done : state.remaining = []) : SoundPlan size workers addresses state.planned := by
  have shared : (members state.planned).Perm addresses := by
    have shared := opening.shared
    rwa [done, append_nil] at shared
  have planDistinct := shared.symm.nodup distinct
  refine ⟨opening.ids, ?_, ?_, opening.bounded, opening.stays, opening.opens⟩
  · intro address wanted
    obtain ⟨shard, mem, here⟩ := mem_members.mp (shared.mem_iff.mpr wanted)
    refine ⟨shard, ⟨mem, here⟩, ?_⟩
    intro other otherHolds
    exact eq_of_mem_members planDistinct otherHolds.1 mem otherHolds.2 here
  · intro shard mem
    refine ⟨nodup_of_mem_members planDistinct mem, ?_⟩
    intro address here
    exact shared.mem_iff.mp (mem_members.mpr ⟨shard, mem, here⟩)

variable {fuel : Nat}

theorem planShards_sound (positive : 1 ≤ size) (distinct : addresses.Nodup)
    (sound : SoundWorkers size workers) (enough : workers.length + addresses.length ≤ fuel) :
    ∃ plan, planShards fuel size workers addresses = some plan ∧
      SoundPlan size workers addresses plan := by
  have keeping := keepShards_keeping positive distinct sound
  have planned : (keepShards size workers addresses).planned.length ≤ workers.length := by
    have counted := keeping.ids.length_le
    rwa [length_map, length_map, (sortedWorkers_perm workers).length_eq] at counted
  have remaining : (keepShards size workers addresses).remaining.length ≤ addresses.length := by
    rw [← keeping.shared.length_eq, length_append]
    omega
  have round : ∀ state : Opening, (Opens size workers addresses state ∧
      state.planned.length + state.remaining.length ≤ fuel) → (!state.remaining.isEmpty) = true →
      ∃ after, openShard size fuel state = some after ∧ (Opens size workers addresses after ∧
          after.planned.length + after.remaining.length ≤ fuel) ∧
        after.remaining.length < state.remaining.length := by
    intro state ⟨opening, room⟩ left
    obtain ⟨after, opened, kept, _, fewer⟩ := openShard_spec opening positive distinct
      (by simpa using left) (show state.planned.length ≤ fuel by omega)
    exact ⟨after, opened, ⟨kept, by omega⟩, fewer⟩
  have room : (keepShards size workers addresses).planned.length +
      (keepShards size workers addresses).remaining.length ≤ fuel := by omega
  obtain ⟨last, ended, ⟨opening, _⟩, noneLeft⟩ := whileLoop_ends
    (fun state : Opening => Opens size workers addresses state ∧
      state.planned.length + state.remaining.length ≤ fuel)
    (fun state : Opening => state.remaining.length) round ⟨keeping.opens sound 1, room⟩
    (Nat.le_of_add_left_le room)
  refine ⟨last.planned, ?_, opening.soundPlan distinct (by simpa using noneLeft)⟩
  exact Option.map_eq_some_iff.mpr ⟨last, ended, rfl⟩

theorem openShard_mono {size more : Nat} (enough : fuel ≤ more) {after : Opening}
    (opened : openShard size fuel state = some after) : openShard size more state = some after := by
  obtain ⟨index, found, rfl⟩ := Option.map_eq_some_iff.mp opened
  have foundAgain : unusedIndex state.planned more state.index = some index :=
    whileLoop_mono (fun _ _ same => same) enough found
  rw [openShard, foundAgain]
  rfl

variable {plan : Plan}

theorem planShards_mono {more size : Nat} (enough : fuel ≤ more)
    (planned : planShards fuel size workers addresses = some plan) :
    planShards more size workers addresses = some plan := by
  obtain ⟨last, ended, rfl⟩ := Option.map_eq_some_iff.mp planned
  have again := whileLoop_mono (fun _ _ => openShard_mono enough) enough ended
  exact Option.map_eq_some_iff.mpr ⟨last, again, rfl⟩

/-! ## Runs of target updates -/

theorem addressesOf_nodup (targetIps : List String) : (addressesOf targetIps).Nodup :=
  (perm_insertionSort _ _).symm.nodup (nodup_dedup _)

variable {threads : Threads} {old : Workers}

theorem replacement_spec {shard : String × List String} {worker : String × ShardWorker}
    (replaced : replacement threads old shard = some worker) :
    (worker.1, worker.2.targets) = shard := by
  have fromStarted : ∀ {worker}, (threads.startWorker shard.1).map (fun generation =>
      (shard.1, ({ generation, targets := shard.2 } : ShardWorker))) = some worker →
      (worker.1, worker.2.targets) = shard := by
    intro _ started
    obtain ⟨generation, _, rfl⟩ := Option.map_eq_some_iff.mp started
    rfl
  unfold replacement at replaced
  split at replaced
  · split at replaced
    · rename_i running
      cases replaced
      rw [running.1]
    · exact fromStarted replaced
  · exact fromStarted replaced

variable {workers : Workers}

theorem shardsOf_replacements (replaced : plan.mapM (replacement threads old) = some workers) :
    shardsOf workers = plan := by
  induction plan generalizing workers with
  | nil =>
    cases replaced
    rfl
  | cons shard plan ih =>
    rw [mapM_cons] at replaced
    obtain ⟨_, here, rest⟩ := Option.bind_eq_some_iff.mp replaced
    obtain ⟨others, there, collected⟩ := Option.bind_eq_some_iff.mp rest
    cases collected
    rw [shardsOf, map_cons, ← shardsOf, ih there, replacement_spec here]

theorem SoundPlan.soundWorkers {before : Workers} (sound : SoundPlan size before addresses plan)
    (same : shardsOf workers = plan) : SoundWorkers size workers := by
  subst same
  refine ⟨?_, ?_, ?_⟩
  · have ids := sound.ids
    rwa [shardsOf, map_map] at ids
  · apply nodup_flatMap.mpr
    refine ⟨fun shard mem => (sound.wanted shard mem).1, ?_⟩
    have idsDiffer : (shardsOf workers).Pairwise (fun one two => one ≠ two) :=
      List.Nodup.of_map _ sound.ids
    apply idsDiffer.imp_of_mem
    intro one two oneMember twoMember differ value inOne inTwo
    have wanted := (sound.wanted one oneMember).2 value inOne
    exact differ ((sound.placed value wanted).unique ⟨oneMember, inOne⟩ ⟨twoMember, inTwo⟩)
  · intro worker mem
    exact sound.bounded (worker.1, worker.2.targets) (mem_map.mpr ⟨worker, mem, rfl⟩)

theorem Reached.soundWorkers (positive : 1 ≤ size) (reached : Reached size workers) :
    SoundWorkers size workers := by
  induction reached with
  | start => exact ⟨nodup_nil, nodup_nil, by simp⟩
  | @updated workers after _ fuel threads targetIps reconciled ih =>
    obtain ⟨plan, planned, rfl⟩ := Option.map_eq_some_iff.mp reconciled
    obtain ⟨found, ended, soundPlan⟩ := planShards_sound positive (addressesOf_nodup targetIps) ih
      (Nat.le_max_right fuel (workers.length + (addressesOf targetIps).length))
    cases (planShards_mono (Nat.le_max_left _ _) planned).symm.trans ended
    cases replaced : plan.mapM (replacement threads workers) with
    | none => exact ih
    | some fresh => exact soundPlan.soundWorkers (shardsOf_replacements replaced)
  | stopped _ threads ih => exact ih.sublist filter_sublist

/-- After any target updates, planning the next one ends, and its plan puts every
wanted address in one shard, keeps what is kept, and opens shards only behind full ones. -/
theorem plan_sound {size : Nat} (positive : 1 ≤ size) {workers : Workers}
    (reached : Reached size workers) (targetIps : List String) :
    ∃ plan, (∀ fuel ≥ workers.length + (addressesOf targetIps).length,
        planShards fuel size workers (addressesOf targetIps) = some plan) ∧
      SoundPlan size workers (addressesOf targetIps) plan := by
  obtain ⟨plan, ended, sound⟩ := planShards_sound positive (addressesOf_nodup targetIps)
    (reached.soundWorkers positive) (Nat.le_refl _)
  exact ⟨plan, fun fuel enough => planShards_mono enough ended, sound⟩

/-- The workers after a first update with three targets. -/
def threeTargets : Workers :=
  [("shard-001", { generation := "g1", targets := ["10.0.0.1", "10.0.0.2"] }),
    ("shard-002", { generation := "g2", targets := ["10.0.0.3"] })]

theorem threeTargets_reached : Reached 2 threeTargets := by
  apply Reached.updated .start 3
    { isAlive _ := true
      startWorker shardId := some (if shardId = "shard-001" then "g1" else "g2") }
    ["10.0.0.3", "10.0.0.1", "", "10.0.0.2"]
  decide +kernel

theorem plan_sound_fourTargets : ∃ plan, (∀ fuel ≥ threeTargets.length +
          (addressesOf ["10.0.0.2", "10.0.0.4", "10.0.0.5", "10.0.0.6"]).length,
        planShards fuel 2 threeTargets
          (addressesOf ["10.0.0.2", "10.0.0.4", "10.0.0.5", "10.0.0.6"]) = some plan) ∧
      SoundPlan 2 threeTargets
        (addressesOf ["10.0.0.2", "10.0.0.4", "10.0.0.5", "10.0.0.6"]) plan :=
  plan_sound (by decide) threeTargets_reached ["10.0.0.2", "10.0.0.4", "10.0.0.5", "10.0.0.6"]

end NetConsole.FleetPing
