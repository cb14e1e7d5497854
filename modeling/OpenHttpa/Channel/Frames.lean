import OpenHttpa.Channel.Link
import OpenHttpa.Lib.Counters
import OpenHttpa.Lib.HashChain

/-!
# What the server writes

The frames of the response streams, as the server seals them. `Writes` says once what an event can
add; from it follows the account of everything written: every item is a whole response or stands in
a stream, every frame was sealed over the chain of the frames before it in its stream, and no
ciphertext stands at two positions.
-/
namespace OpenHttpa.Channel

open OpenHttpa.Core Crypto Proto Server Client

variable (sha384 : Bytes → Octets 48)

def streamHash (ciphertexts : List Bytes) : Octets 48 :=
  chain sha384 (fun digest ciphertext => digest.bytes ++ ciphertext) (.zero 48) ciphertexts

theorem streamHash_append (ciphertexts : List Bytes) (ciphertext : Bytes) :
    streamHash sha384 (ciphertexts ++ [ciphertext]) =
      chainHash sha384 (streamHash sha384 ciphertexts) ciphertext :=
  chain_append_singleton ..

def Outgoing.ciphertexts (out : Outgoing) : List Bytes := out.items.map (·.ciphertext)

def Outgoing.extend (out : Outgoing) (item : Item) : Outgoing where
  owner := out.owner
  state := ⟨out.state.aad, chainHash sha384 out.state.cumulativeHash item.ciphertext⟩
  items := out.items ++ [item]

theorem Outgoing.extend_ciphertexts (out : Outgoing) (item : Item) :
    (out.extend sha384 item).ciphertexts = out.ciphertexts ++ [item.ciphertext] := by
  simp [ciphertexts, extend]

variable {sha384} in
theorem Outgoing.extend_chained (out : Outgoing) {item : Item}
    (chained : ∀ i held, out.items[i]? = some held →
      held.aad = out.state.aad ++ (streamHash sha384 (out.ciphertexts.take i)).bytes)
    (aad : item.aad = out.state.chunkAad)
    (level : out.state.cumulativeHash = streamHash sha384 out.ciphertexts) (i : Nat) (held : Item)
    (inside : (out.extend sha384 item).items[i]? = some held) :
    held.aad = (out.extend sha384 item).state.aad ++
      (streamHash sha384 ((out.extend sha384 item).ciphertexts.take i)).bytes := by
  rw [Outgoing.extend_ciphertexts]
  have length : out.ciphertexts.length = out.items.length := List.length_map _
  simp only [Outgoing.extend, List.getElem?_append] at inside ⊢
  split at inside
  · next before =>
    rw [List.take_append_of_le_length (by omega)]
    exact chained i held inside
  · next beyond =>
    rw [List.getElem?_singleton] at inside
    split at inside
    · next last =>
      obtain rfl : item = held := Option.some.inj inside
      have whole : i = out.ciphertexts.length := by omega
      rw [whole, List.take_left, aad, SealStream.chunkAad, level]
    · cases inside

namespace Link

def ciphertexts (link : Link) : List (List Bytes) := link.outgoing.map (·.ciphertexts)

/-- Everything the chains of the link hash. -/
def hashed (link : Link) : List Bytes :=
  link.ciphertexts.flatMap
    (chainInputs sha384 (fun digest ciphertext => digest.bytes ++ ciphertext) (.zero 48))

/-- What an event has the server write: nothing, a whole response, a stream without frames, or the
next turn of a stream, which brings out at most one frame. -/
inductive Writes (ends : Ends) (link after : Link) : Prop where
  | nothing (items : after.items = link.items) (outgoing : after.outgoing = link.outgoing)
    (poisoned : after.poisoned = link.poisoned)
  | response (item : Item) (baseIdStr : Bytes) (items : after.items = item :: link.items)
    (outgoing : after.outgoing = link.outgoing) (poisoned : after.poisoned = link.poisoned)
    (aad : item.aad = sessionAad baseIdStr) (named : ends.ids.parse baseIdStr = some link.server.id)
  | stream (owner : Nat) (aad : Bytes) (items : after.items = link.items)
    (outgoing : after.outgoing = link.outgoing ++ [⟨owner, .start aad, []⟩])
    (poisoned : after.poisoned = link.poisoned)
  | frame (index : Nat) (out : Outgoing) (item : Item) (found : link.outgoing[index]? = some out)
    (items : after.items = item :: link.items)
    (outgoing : after.outgoing = link.outgoing.set index (out.extend ends.sha384 item))
    (aad : item.aad = out.state.chunkAad) (unpoisoned : link.poisoned = false)
  | noFrame (index : Nat) (out : Outgoing) (hash : Octets 48)
    (found : link.outgoing[index]? = some out) (items : after.items = link.items)
    (outgoing : after.outgoing = link.outgoing.set index
      ⟨out.owner, ⟨out.state.aad, hash⟩, out.items⟩)
    (unpoisoned : link.poisoned = false)
    (kept : after.poisoned = false → link.server.serverCounter ≠ u64Max →
      hash = out.state.cumulativeHash)

section Steps

variable (ends : Ends) (link : Link)

theorem respond_writes (owner now : Nat) (baseIdStr : Bytes) (value : Except String Bytes) :
    Writes ends link (link.step ends (.respond owner now baseIdStr value)) := by
  simp only [step]
  by_cases refused : link.poisoned ∨ ends.ids.parse baseIdStr ≠ some link.server.id
  · rw [if_pos refused]
    exact .nothing rfl rfl rfl
  · rw [if_neg refused]
    have named := not_not.mp (not_or.mp refused).2
    cases outcome : (sealResponse ends.cipher ends.codec now (sessionAad baseIdStr) value
        link.server).1 with
    | error rejection => exact .nothing (by cases value <;> rfl) rfl rfl
    | ok response =>
      obtain ⟨plaintext, ciphertext, rfl, _, body, _, _⟩ := sealResponse_ok outcome
      refine .response ⟨owner, link.server.serverCounter, sessionAad baseIdStr, plaintext,
        ciphertext⟩ baseIdStr ?_ rfl rfl rfl named
      simp only [responseItem, body, ends.codec.parse_render, List.singleton_append]

theorem chunk_writes (index now : Nat) (item : Except String Bytes) :
    Writes ends link (link.step ends (.chunk index now item)) := by
  simp only [step]
  by_cases poisoned : link.poisoned
  · rw [if_pos poisoned]
    exact .nothing rfl rfl rfl
  · rw [if_neg poisoned]
    have unpoisoned := Bool.eq_false_iff.mpr poisoned
    cases found : link.outgoing[index]? with
    | none => exact .nothing rfl rfl rfl
    | some out =>
      have aad := sealChunk_aad ends.cipher ends.sha384 now out.state item link.server
      cases outcome : (sealChunk ends.cipher ends.sha384 now out.state item link.server).1 with
      | failed message =>
        have silent : chunkItem out item (.failed message) = [] := by cases item <;> rfl
        apply Writes.noFrame index out
          (sealChunk ends.cipher ends.sha384 now out.state item link.server).2.2.2.cumulativeHash
          found _ _ unpoisoned
        · intro _ below
          rw [sealChunk_failed outcome below]
        · simp only [outcome, silent, List.nil_append]
        · simp only [outcome, silent, List.append_nil, ← aad]
      | panicked =>
        have silent : chunkItem out item .panicked = [] := by cases item <;> rfl
        apply Writes.noFrame index out
          (sealChunk ends.cipher ends.sha384 now out.state item link.server).2.2.2.cumulativeHash
          found _ _ unpoisoned
        · intro sound
          simp [outcome] at sound
        · simp only [outcome, silent, List.nil_append]
        · simp only [outcome, silent, List.append_nil, ← aad]
      | sealed frame =>
        obtain ⟨plaintext, rfl, _, _, _, moved⟩ := sealChunk_sealed outcome
        apply Writes.frame index out
          ⟨out.owner, frame.counter, out.state.chunkAad, plaintext, frame.ciphertext⟩ found _ _ rfl
          unpoisoned
        · simp only [outcome, chunkItem, List.singleton_append]
        · simp only [outcome, chunkItem, moved, Outgoing.extend]

theorem step_writes (event : LinkEvent) : Writes ends link (link.step ends event) := by
  cases event with
  | ask now nonce f => cases nonce <;> exact .nothing rfl rfl rfl
  | receive now nonce f =>
    simp only [step]
    split <;> exact .nothing rfl rfl rfl
  | respond owner now baseIdStr value => exact respond_writes ends link owner now baseIdStr value
  | openStream owner baseIdStr =>
    simp only [step]
    split
    · exact .nothing rfl rfl rfl
    · exact .stream owner (sessionAad baseIdStr) rfl rfl rfl
  | chunk index now item => exact chunk_writes ends link index now item
  | reply owner now reply => exact .nothing rfl rfl rfl
  | readStream | poll =>
    simp only [step]
    split <;> exact .nothing rfl rfl rfl

end Steps

theorem exists_longer_of_set {streams : List Outgoing} {index : Nat} {old new : Outgoing}
    (found : streams[index]? = some old) (owner : new.owner = old.owner)
    (longer : old.items <+: new.items) {out : Outgoing} (member : out ∈ streams) :
    ∃ later ∈ streams.set index new, later.owner = out.owner ∧ out.items <+: later.items := by
  obtain ⟨position, here⟩ := List.mem_iff_getElem?.mp member
  by_cases same : index = position
  · subst same
    obtain rfl : old = out := Option.some.inj (found.symm.trans here)
    have inside := (List.getElem?_eq_some_iff.mp found).1
    exact ⟨new, List.mem_of_getElem? (List.getElem?_set_self inside), owner, longer⟩
  · have kept : (streams.set index new)[position]? = some out := by
      rw [List.getElem?_set_ne same]
      exact here
    exact ⟨out, List.mem_of_getElem? kept, rfl, List.prefix_refl _⟩

variable {link after : Link} {cipher : Cipher} {item : Item}

theorem Writes.longer {ends : Ends} (writes : Writes ends link after)
    {out : Outgoing} (member : out ∈ link.outgoing) :
    ∃ later ∈ after.outgoing, later.owner = out.owner ∧ out.items <+: later.items := by
  cases writes with
  | nothing items outgoing poisoned =>
    rw [outgoing]
    exact ⟨out, member, rfl, List.prefix_refl _⟩
  | response item baseIdStr items outgoing poisoned aad named =>
    rw [outgoing]
    exact ⟨out, member, rfl, List.prefix_refl _⟩
  | stream owner aad items outgoing poisoned =>
    rw [outgoing]
    exact ⟨out, List.mem_append_left _ member, rfl, List.prefix_refl _⟩
  | frame index old item found items outgoing aad unpoisoned =>
    rw [outgoing]
    apply exists_longer_of_set found _ _ member
    · rfl
    · exact List.prefix_append _ _
  | noFrame index old hash found items outgoing unpoisoned kept =>
    rw [outgoing]
    apply exists_longer_of_set found _ _ member
    · rfl
    · exact List.prefix_refl _

theorem Writes.hashed_subset {ends : Ends} (writes : Writes ends link after) :
    link.hashed ends.sha384 ⊆ after.hashed ends.sha384 := by
  intro input hashed
  obtain ⟨ciphertexts, member, inside⟩ := List.mem_flatMap.mp hashed
  obtain ⟨out, present, rfl⟩ := List.mem_map.mp member
  obtain ⟨later, there, _, longer⟩ := writes.longer present
  exact List.mem_flatMap.mpr ⟨later.ciphertexts, List.mem_map_of_mem there,
    chainInputs_subset _ _ (longer.map _) inside⟩

def Numbered (link : Link) : Prop :=
  ∀ item ∈ link.items, item.number.toNat < link.server.serverCounter.toNat

theorem Evolves.numbered (evolves : Evolves cipher link after)
    (numbered : link.Numbered) : after.Numbered := by
  have forward := evolves.forward
  rcases evolves.items with same | ⟨item, added, number, below, next, _⟩
  · intro item member
    rw [same] at member
    have before := numbered item member
    omega
  · have moved : after.server.serverCounter.toNat = link.server.serverCounter.toNat + 1 := by
      rw [next]
      exact toNat_succ below
    intro other member
    rw [added] at member
    rcases List.mem_cons.mp member with rfl | old
    · rw [number]
      omega
    · have before := numbered other old
      omega

theorem Sealed.number_eq (ideal : cipher.Ideal) {keys : SessionKeys}
    (account : link.Sealed cipher keys) {other : Item} (member : item ∈ link.items)
    (present : other ∈ link.items) (same : item.ciphertext = other.ciphertext) :
    item.number = other.number := by
  have encrypted := account.encrypted item member
  have again := account.encrypted other present
  rw [← same] at again
  have opened := ideal.opens _ _ _ _ _ encrypted
  obtain ⟨_, nonce, _, _⟩ := (ideal.decrypt_iff again).mp opened
  exact counterNonce_injective nonce

theorem Evolves.added (evolves : Evolves cipher link after)
    (added : after.items = item :: link.items) :
    item.number = link.server.serverCounter ∧ link.server.serverCounter ≠ u64Max := by
  rcases evolves.items with nothing | ⟨one, appended, number, below, _⟩
  · rw [nothing] at added
    exact absurd added List.ne_cons_self
  · rw [added] at appended
    obtain ⟨rfl, _⟩ := List.cons.inj appended
    exact ⟨number, below⟩

theorem Evolves.fresh (ideal : cipher.Ideal) {keys : SessionKeys}
    (evolves : Evolves cipher link after) (account : link.Sealed cipher keys)
    (numbered : link.Numbered) (added : after.items = item :: link.items) :
    ∀ other ∈ link.items, other.ciphertext ≠ item.ciphertext := by
  intro other present same
  have later := evolves.sealed account
  have number := (evolves.added added).1
  have reused : other.number = item.number := by
    apply later.number_eq ideal
    · rw [added]
      exact List.mem_cons_of_mem _ present
    · rw [added]
      exact List.mem_cons_self
    · exact same
  have below := numbered other present
  rw [reused, number] at below
  omega

/-- What the server has written: every item is a whole response or stands in a stream, and every
frame was sealed over the chain of the frames before it. The chains are up to date as long as
something can still be sealed. -/
structure Written (ends : Ends) (link : Link) : Prop where
  listed : ∀ out ∈ link.outgoing, ∀ item ∈ out.items, item ∈ link.items
  placed : ∀ item ∈ link.items, (∃ text, item.aad = sessionAad text ∧ text.length ≤ 45) ∨
    ∃ out ∈ link.outgoing, item ∈ out.items
  chained : ∀ out ∈ link.outgoing, ∀ i item, out.items[i]? = some item →
    item.aad = out.state.aad ++ (streamHash ends.sha384 (out.ciphertexts.take i)).bytes
  apart : Apart link.ciphertexts
  current : link.poisoned = false → link.server.serverCounter ≠ u64Max →
    ∀ out ∈ link.outgoing, out.state.cumulativeHash = streamHash ends.sha384 out.ciphertexts

theorem Evolves.below (evolves : Evolves cipher link after)
    (below : after.server.serverCounter ≠ u64Max) : link.server.serverCounter ≠ u64Max := by
  intro full
  have forward := evolves.forward
  have bounded := after.server.serverCounter.toNat_lt
  have top : link.server.serverCounter.toNat = 2 ^ 64 - 1 := congrArg UInt64.toNat full
  apply below
  apply UInt64.toNat_inj.mp
  have level : after.server.serverCounter.toNat = 2 ^ 64 - 1 := by omega
  exact level

section Invariant

variable {ends : Ends} {link after : Link}

theorem Written.still_placed (written : Written ends link) (writes : Writes ends link after)
    {item : Item} (old : item ∈ link.items) :
    (∃ text, item.aad = sessionAad text ∧ text.length ≤ 45) ∨
      ∃ out ∈ after.outgoing, item ∈ out.items := by
  rcases written.placed item old with whole | ⟨out, here, inside⟩
  · exact .inl whole
  · obtain ⟨later, present, _, longer⟩ := writes.longer here
    exact .inr ⟨later, present, longer.subset inside⟩

theorem Written.stream (written : Written ends link) (evolves : Evolves ends.cipher link after)
    {owner : Nat} {aad : Bytes} (items : after.items = link.items)
    (outgoing : after.outgoing = link.outgoing ++ [⟨owner, .start aad, []⟩])
    (poisoned : after.poisoned = link.poisoned) : Written ends after where
  listed := by
    rw [items, outgoing]
    exact forall_mem_concat written.listed nofun
  placed item held := by
    rw [items] at held
    rw [outgoing]
    rcases written.placed item held with whole | ⟨out, member, inside⟩
    · exact .inl whole
    · exact .inr ⟨out, List.mem_append_left _ member, inside⟩
  chained := by
    rw [outgoing]
    exact forall_mem_concat written.chained nofun
  apart := by
    have texts : after.ciphertexts = link.ciphertexts ++ [[]] := by
      simp [ciphertexts, outgoing, Outgoing.ciphertexts]
    rw [texts]
    exact written.apart.append_nil
  current sound below := by
    rw [poisoned] at sound
    rw [outgoing]
    exact forall_mem_concat (written.current sound (evolves.below below)) rfl

theorem Written.frame (written : Written ends link) (evolves : Evolves ends.cipher link after)
    {index : Nat} {out : Outgoing} {item : Item} (found : link.outgoing[index]? = some out)
    (items : after.items = item :: link.items)
    (outgoing : after.outgoing = link.outgoing.set index (out.extend ends.sha384 item))
    (aad : item.aad = out.state.chunkAad) (unpoisoned : link.poisoned = false)
    (fresh : ∀ other ∈ link.items, other.ciphertext ≠ item.ciphertext) : Written ends after := by
  have writes : Writes ends link after := .frame index out item found items outgoing aad unpoisoned
  have inside := (List.getElem?_eq_some_iff.mp found).1
  have member := List.mem_of_getElem? found
  have below := (evolves.added items).2
  -- A frame was sealed, so the chain is level: no poisoned lock, and a number was left.
  have level := written.current unpoisoned below out member
  constructor
  case listed =>
    rw [items, outgoing]
    refine forall_mem_set
      (fun other old held inOther => List.mem_cons_of_mem _ (written.listed other old held inOther)) ?_
    intro held inExtended
    rcases List.mem_append.mp inExtended with before | last
    · exact List.mem_cons_of_mem _ (written.listed out member held before)
    · rw [List.mem_singleton.mp last]
      exact List.mem_cons_self
  case placed =>
    intro held known
    rw [items] at known
    rcases List.mem_cons.mp known with rfl | old
    · refine .inr ⟨out.extend ends.sha384 held, ?_, List.mem_append_right _ List.mem_cons_self⟩
      rw [outgoing]
      exact List.mem_of_getElem? (List.getElem?_set_self inside)
    · exact written.still_placed writes old
  case chained =>
    rw [outgoing]
    exact forall_mem_set written.chained (out.extend_chained (written.chained out member) aad level)
  case apart =>
    have texts : after.ciphertexts = link.ciphertexts.set index
        (out.ciphertexts ++ [item.ciphertext]) := by
      rw [ciphertexts, outgoing, List.map_set, Outgoing.extend_ciphertexts]
      rfl
    rw [texts]
    apply written.apart.extend
    · simp [ciphertexts, found]
    · intro stream here inStream
      obtain ⟨other, old, rfl⟩ := List.mem_map.mp here
      obtain ⟨held, inOther, same⟩ := List.mem_map.mp inStream
      exact fresh held (written.listed other old held inOther) same
  case current =>
    intro _ _
    rw [outgoing]
    refine forall_mem_set (written.current unpoisoned below) ?_
    rw [Outgoing.extend_ciphertexts, streamHash_append, ← level]
    rfl

theorem Written.noFrame (written : Written ends link) (evolves : Evolves ends.cipher link after)
    {index : Nat} {out : Outgoing} {hash : Octets 48} (found : link.outgoing[index]? = some out)
    (items : after.items = link.items)
    (outgoing : after.outgoing = link.outgoing.set index
      ⟨out.owner, ⟨out.state.aad, hash⟩, out.items⟩)
    (unpoisoned : link.poisoned = false)
    (kept : after.poisoned = false → link.server.serverCounter ≠ u64Max →
      hash = out.state.cumulativeHash) : Written ends after := by
  have writes : Writes ends link after :=
    .noFrame index out hash found items outgoing unpoisoned kept
  have member := List.mem_of_getElem? found
  constructor
  case listed =>
    rw [items, outgoing]
    exact forall_mem_set written.listed (written.listed out member)
  case placed =>
    intro held known
    rw [items] at known
    exact written.still_placed writes known
  case chained =>
    rw [outgoing]
    exact forall_mem_set written.chained (written.chained out member)
  case apart =>
    have texts : after.ciphertexts = link.ciphertexts := by
      rw [ciphertexts, outgoing]
      exact map_set_of_eq found rfl
    rw [texts]
    exact written.apart
  case current =>
    intro sound below
    have before := written.current unpoisoned (evolves.below below)
    rw [outgoing]
    exact forall_mem_set before ((kept sound (evolves.below below)).trans (before out member))

theorem Written.step (ideal : ends.cipher.Ideal) {keys : SessionKeys} (written : Written ends link)
    (account : link.Sealed ends.cipher keys) (numbered : link.Numbered)
    (evolves : Evolves ends.cipher link after) (writes : Writes ends link after) :
    Written ends after := by
  cases writes with
  | nothing items outgoing poisoned =>
    constructor
    · rw [items, outgoing]
      exact written.listed
    · rw [items, outgoing]
      exact written.placed
    · rw [outgoing]
      exact written.chained
    · rw [ciphertexts, outgoing]
      exact written.apart
    · intro sound below
      rw [poisoned] at sound
      rw [outgoing]
      exact written.current sound (evolves.below below)
  | response item baseIdStr items outgoing poisoned aad named =>
    constructor
    · intro out member held inside
      rw [items]
      rw [outgoing] at member
      exact List.mem_cons_of_mem _ (written.listed out member held inside)
    · intro held known
      rw [items] at known
      rw [outgoing]
      rcases List.mem_cons.mp known with rfl | old
      · exact .inl ⟨baseIdStr, aad, ends.ids.parse_length _ _ named⟩
      · exact written.placed held old
    · rw [outgoing]
      exact written.chained
    · rw [ciphertexts, outgoing]
      exact written.apart
    · intro sound below
      rw [poisoned] at sound
      rw [outgoing]
      exact written.current sound (evolves.below below)
  | stream owner aad items outgoing poisoned =>
    exact written.stream evolves items outgoing poisoned
  | frame index out item found items outgoing aad unpoisoned =>
    exact written.frame evolves found items outgoing aad unpoisoned
      (evolves.fresh ideal account numbered items)
  | noFrame index out hash found items outgoing unpoisoned kept =>
    exact written.noFrame evolves found items outgoing unpoisoned kept

end Invariant

end Link

end OpenHttpa.Channel
