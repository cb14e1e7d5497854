import Mathlib.Data.List.Basic
import Mathlib.Data.List.Induction
import Mathlib.Data.List.Nodup

/-!
# Hash chains over several streams

A chain starts at a seed and absorbs the items of a stream one by one: each digest is the hash of
the one before it joined with the item. When the hash is free of collisions on what was hashed and
never returns the seed, and no item stands at two positions, a digest tells the position it was
reached at, in which stream and after how many items; only the seed is common to all streams.
-/
namespace OpenHttpa

variable {Digest Item Input : Type*}

section Chain

variable (hash : Input → Digest) (join : Digest → Item → Input)

def chain (seed : Digest) (items : List Item) : Digest :=
  items.foldl (fun digest item => hash (join digest item)) seed

def chainInputs (seed : Digest) : List Item → List Input
  | [] => []
  | item :: rest => join seed item :: chainInputs (hash (join seed item)) rest

theorem chain_append_singleton (seed : Digest) (items : List Item) (item : Item) :
    chain hash join seed (items ++ [item]) = hash (join (chain hash join seed items) item) := by
  simp [chain]

variable {seed : Digest} {items : List Item}

theorem chain_take_succ {i : Nat} {item : Item} (found : items[i]? = some item) :
    chain hash join seed (items.take (i + 1)) =
      hash (join (chain hash join seed (items.take i)) item) := by
  rw [List.take_add_one, found, Option.toList_some, chain_append_singleton]

theorem chainInput_mem {i : Nat} {item : Item} (found : items[i]? = some item) :
    join (chain hash join seed (items.take i)) item ∈ chainInputs hash join seed items := by
  induction items generalizing seed i with
  | nil => cases found
  | cons first rest ih =>
    cases i with
    | zero =>
      obtain rfl : first = item := Option.some.inj found
      exact List.mem_cons_self
    | succ i => exact List.mem_cons_of_mem _ (ih found)

theorem chainInputs_subset {more : List Item} (longer : items <+: more) :
    chainInputs hash join seed items ⊆ chainInputs hash join seed more := by
  obtain ⟨rest, rfl⟩ := longer
  induction items generalizing seed with
  | nil => exact List.nil_subset _
  | cons item items ih => exact List.cons_subset_cons _ ih

/-- No two inputs hash alike, and none hashes to the seed. -/
structure CollisionFree (seed : Digest) (inputs : List Input) : Prop where
  injective : ∀ left ∈ inputs, ∀ right ∈ inputs, hash left = hash right → left = right
  fresh : ∀ input ∈ inputs, hash input ≠ seed

variable {hash}

theorem CollisionFree.mono {inputs fewer : List Input}
    (free : CollisionFree hash seed inputs) (subset : fewer ⊆ inputs) :
    CollisionFree hash seed fewer where
  injective left here right there := free.injective left (subset here) right (subset there)
  fresh input here := free.fresh input (subset here)

theorem last_chainInput_mem (seed : Digest) (items : List Item) (item : Item) :
    join (chain hash join seed items) item ∈ chainInputs hash join seed (items ++ [item]) := by
  have found : (items ++ [item])[items.length]? = some item := by simp
  have member : join (chain hash join seed ((items ++ [item]).take items.length)) item ∈ _ :=
    chainInput_mem hash join found
  rwa [List.take_left] at member

theorem chain_injective {inputs : List Input} (free : CollisionFree hash seed inputs)
    {others : List Item} (within : chainInputs hash join seed items ⊆ inputs)
    (withinToo : chainInputs hash join seed others ⊆ inputs)
    (cancel : ∀ digest digest', ∀ item ∈ items, ∀ other ∈ others,
      join digest item = join digest' other → digest = digest' ∧ item = other)
    (same : chain hash join seed items = chain hash join seed others) : items = others := by
  induction items using List.reverseRecOn generalizing others with
  | nil =>
    rcases List.eq_nil_or_concat' others with rfl | ⟨front, last, rfl⟩
    · rfl
    · rw [chain_append_singleton] at same
      exact absurd same.symm (free.fresh _ (withinToo (last_chainInput_mem join seed front last)))
  | append_singleton items item ih =>
    rw [chain_append_singleton] at same
    have hashed := within (last_chainInput_mem join seed items item)
    rcases List.eq_nil_or_concat' others with rfl | ⟨front, last, rfl⟩
    · exact absurd same (free.fresh _ hashed)
    · rw [chain_append_singleton] at same
      have joined := free.injective _ hashed _
        (withinToo (last_chainInput_mem join seed front last)) same
      obtain ⟨digests, rfl⟩ := cancel _ _ item (by simp) last (by simp) joined
      have fronts := ih
        (List.Subset.trans (chainInputs_subset hash join (List.prefix_append ..)) within)
        (List.Subset.trans (chainInputs_subset hash join (List.prefix_append ..)) withinToo)
        (fun digest digest' one member other memberToo =>
          cancel digest digest' one (List.mem_append_left _ member) other
            (List.mem_append_left _ memberToo)) digests
      rw [fronts]

end Chain

def Apart (streams : List (List Item)) : Prop :=
  ∀ (s s' : Nat) (items items' : List Item), streams[s]? = some items →
    streams[s']? = some items' → ∀ (i i' : Nat) (item : Item), items[i]? = some item →
      items'[i']? = some item → s = s' ∧ i = i'

variable {streams : List (List Item)} {items : List Item}

theorem Apart.append_nil (apart : Apart streams) :
    Apart (streams ++ [[]]) := by
  have old : ∀ (s : Nat) (items : List Item) (i : Nat) (item : Item), (streams ++ [[]])[s]? = some items →
      items[i]? = some item → streams[s]? = some items := by
    intro s items i item found held
    rw [List.getElem?_append] at found
    split at found
    · exact found
    · rw [List.getElem?_singleton] at found
      split at found
      · obtain rfl : [] = items := Option.some.inj found
        cases held
      · cases found
  intro s s' items items' found found' i i' item held held'
  exact apart s s' items items' (old s items i item found held) (old s' items' i' item found' held')
    i i' item held held'

theorem Apart.extend (apart : Apart streams) {s : Nat}
    (found : streams[s]? = some items) {item : Item}
    (fresh : ∀ stream ∈ streams, item ∉ stream) : Apart (streams.set s (items ++ [item])) := by
  -- a position of the grown streams is an old one, or the new end of the grown stream
  have position : ∀ (t : Nat) (stream : List Item) (i : Nat) (held : Item),
      (streams.set s (items ++ [item]))[t]? = some stream → stream[i]? = some held →
      (∃ before, streams[t]? = some before ∧ before[i]? = some held) ∨
        (t = s ∧ i = items.length ∧ held = item) := by
    intro t stream i held here there
    by_cases same : s = t
    · subst same
      rw [List.getElem?_set_self (List.getElem?_eq_some_iff.mp found).1] at here
      obtain rfl : items ++ [item] = stream := Option.some.inj here
      rw [List.getElem?_append] at there
      split at there
      · exact .inl ⟨items, found, there⟩
      · rename_i beyond
        rw [List.getElem?_singleton] at there
        split at there
        · rename_i last
          exact .inr ⟨rfl, by omega, (Option.some.inj there).symm⟩
        · cases there
    · rw [List.getElem?_set_ne same] at here
      exact .inl ⟨stream, here, there⟩
  have notOld : ∀ (t : Nat) (before : List Item) (i : Nat), streams[t]? = some before →
    before[i]? ≠ some item := by
    intro t before i here there
    exact fresh before (List.mem_of_getElem? here) (List.mem_of_getElem? there)
  intro t t' stream stream' here here' i i' held there there'
  rcases position t stream i held here there with ⟨before, old, holds⟩ | ⟨rfl, rfl, rfl⟩
  · rcases position t' stream' i' held here' there' with ⟨before', old', holds'⟩ | ⟨rfl, rfl, rfl⟩
    · exact apart t t' before before' old old' i i' held holds holds'
    · exact absurd holds (notOld t before i old)
  · rcases position t' stream' i' held here' there' with ⟨before', old', holds'⟩ | ⟨rfl, rfl, _⟩
    · exact absurd holds' (notOld t' before' i' old')
    · exact ⟨rfl, rfl⟩

theorem Apart.nodup (apart : Apart streams) (member : items ∈ streams) : items.Nodup := by
  obtain ⟨s, found⟩ := List.mem_iff_getElem?.mp member
  rw [List.nodup_iff_getElem?_ne_getElem?]
  intro i j less inside same
  have held : items[j]? = some items[j] := List.getElem?_eq_getElem inside
  obtain ⟨_, equal⟩ := apart s s items items found found i j items[j] (same.trans held) held
  omega

theorem chain_located {hash : Input → Digest} {join : Digest → Item → Input} {seed : Digest}
    (cancel : ∀ digest digest' item item', join digest item = join digest' item' → item = item')
    (apart : Apart streams)
    (free : CollisionFree hash seed (streams.flatMap (chainInputs hash join seed)))
    {s s' : Nat} {items' : List Item} (found : streams[s]? = some items)
    (found' : streams[s']? = some items') {i i' : Nat} (inside : i ≤ items.length)
    (inside' : i' ≤ items'.length)
    (same : chain hash join seed (items.take i) = chain hash join seed (items'.take i')) :
    (i = 0 ∧ i' = 0) ∨ (s = s' ∧ i = i') := by
  have input : ∀ {t : Nat} {stream : List Item} {n : Nat} {item : Item}, streams[t]? = some stream →
      stream[n]? = some item → join (chain hash join seed (stream.take n)) item ∈
        streams.flatMap (chainInputs hash join seed) := by
    intro t stream n item here there
    exact List.mem_flatMap.mpr ⟨stream, List.mem_of_getElem? here, chainInput_mem hash join there⟩
  cases i with
  | zero =>
    cases i' with
    | zero => exact .inl ⟨rfl, rfl⟩
    | succ n' =>
      have held : items'[n']? = some items'[n'] := List.getElem?_eq_getElem inside'
      rw [chain_take_succ hash join held] at same
      exact absurd same.symm (free.fresh _ (input found' held))
  | succ n =>
    have held : items[n]? = some items[n] := List.getElem?_eq_getElem inside
    rw [chain_take_succ hash join held] at same
    cases i' with
    | zero => exact absurd same (free.fresh _ (input found held))
    | succ n' =>
      have held' : items'[n']? = some items'[n'] := List.getElem?_eq_getElem inside'
      rw [chain_take_succ hash join held'] at same
      have inputs := free.injective _ (input found held) _ (input found' held') same
      have equal := cancel _ _ _ _ inputs
      rw [← equal] at held'
      obtain ⟨streamsAgree, positions⟩ := apart s s' items items' found found' n n' _ held held'
      exact .inr ⟨streamsAgree, by omega⟩

end OpenHttpa
