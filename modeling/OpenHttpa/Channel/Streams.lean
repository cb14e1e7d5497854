import OpenHttpa.Channel.Frames

/-!
# Response streams at the client

The client reads a frame's number off the wire and never asks whether it is fresh; what keeps
frames in their place is the hash chain in their associated data, which starts at zero for every
stream. With a hash free of collisions the chain fixes every frame but the first: the first frame
of any stream ever sealed on the session fits any stream about to be read, and the rest of its
stream follows. So what a request yields is a prefix of what was sealed for it in every run in
which no reader that has yielded nothing is given the first frame of another request's stream.
-/
namespace OpenHttpa.Channel

open OpenHttpa.Core Crypto Proto Server Client

def Item.frame (item : Item) : StreamFrame × Bytes :=
  (⟨item.number, item.ciphertext⟩, item.plaintext)

namespace Link

/-- A reader that has yielded nothing is not given the first frame of another request's stream. -/
def OwnHead (link : Link) : LinkEvent → Prop
  | .poll index _ =>
    ∀ reader frame, link.incoming[index]? = some reader → reader.accepted = [] →
      polledFrame reader.state = some frame → ∀ out ∈ link.outgoing,
        out.ciphertexts.head? = some frame.ciphertext → out.owner = reader.owner
  | _ => True

/-- What the client has read: each reader's chain is the one over the frames it accepted, and these
are the first frames of a stream sealed for its request. -/
structure Reads (ends : Ends) (link : Link) : Prop where
  hash : ∀ reader ∈ link.incoming, reader.state.prevHash =
    streamHash ends.sha384 (reader.accepted.map (·.1.ciphertext))
  /-- What was accepted begins a stream of the request. -/
  inOrder : ∀ reader ∈ link.incoming, reader.accepted = [] ∨
    ∃ out ∈ link.outgoing, out.owner = reader.owner ∧ reader.accepted <+: out.items.map Item.frame
  owners : (link.incoming.map (·.owner)).Nodup

variable {ends : Ends} {keys : SessionKeys} {link : Link} {s : Nat} {out : Outgoing} {i : Nat}
  {reader : Incoming} {index : Nat}

theorem frame_located (ideal : ends.cipher.Ideal)
    (account : link.Sealed ends.cipher keys) (written : Written ends link) {frame : StreamFrame}
    {prevHash : Octets 48} {plaintext : Bytes} (genuine : link.Genuine ends.cipher frame.ciphertext)
    (opened : ends.cipher.decrypt ⟨link.client.keys.serverWriteKey, .Aes256Gcm⟩
      (counterNonce link.client.keys.serverWriteIv frame.counter)
      (link.clientAad ends.ids ++ prevHash.bytes) frame.ciphertext = some plaintext) :
    ∃ (s : Nat) (out : Outgoing) (i : Nat) (item : Item), link.outgoing[s]? = some out ∧
      out.items[i]? = some item ∧ item.frame = (frame, plaintext) ∧
      streamHash ends.sha384 (out.ciphertexts.take i) = prevHash := by
  obtain ⟨item, member, ciphertext, number, aad, sealed⟩ := account.opens ideal genuine opened
  have same : item.frame = (frame, plaintext) := by
    rw [Item.frame, number, ciphertext, sealed]
  rcases written.placed item member with ⟨text, whole, short⟩ | ⟨out, present, inside⟩
  · -- a whole response carries too little associated data to be opened as a frame
    have lengths := congrArg List.length (whole.symm.trans aad)
    have long := ends.ids.print_length link.client.id
    have digest := prevHash.length_eq
    simp only [clientAad, sessionAad, List.length_append] at lengths
    omega
  · obtain ⟨s, found⟩ := List.mem_iff_getElem?.mp present
    obtain ⟨i, here⟩ := List.mem_iff_getElem?.mp inside
    refine ⟨s, out, i, item, found, here, same, ?_⟩
    have chained := (written.chained out present i item here).symm.trans aad
    have widths : (streamHash ends.sha384 (out.ciphertexts.take i)).bytes.length =
        prevHash.bytes.length := by
      rw [Octets.length_eq, Octets.length_eq]
    exact Octets.ext (List.append_inj_right' chained widths)

section Chain

variable (written : Written ends link)
  (free : CollisionFree ends.sha384 (.zero 48) (link.hashed ends.sha384))
  (found : link.outgoing[s]? = some out)
include written free found

theorem Written.located {s' : Nat} {out' : Outgoing} (found' : link.outgoing[s']? = some out')
    {i' : Nat} (inside : i ≤ out.items.length) (inside' : i' ≤ out'.items.length)
    (level : streamHash ends.sha384 (out.ciphertexts.take i) =
      streamHash ends.sha384 (out'.ciphertexts.take i')) :
    (i = 0 ∧ i' = 0) ∨ (s = s' ∧ i = i') := by
  have cancel : ∀ (digest digest' : Octets 48) (item item' : Bytes),
      digest.bytes ++ item = digest'.bytes ++ item' → item = item' := by
    intro digest digest' item item' same
    apply List.append_inj_right same
    rw [digest.length_eq, digest'.length_eq]
  have texts : ∀ {s : Nat} {out : Outgoing}, link.outgoing[s]? = some out →
      link.ciphertexts[s]? = some out.ciphertexts := by
    intro s out found
    simp [ciphertexts, found]
  have within : ∀ {out : Outgoing} {i : Nat}, i ≤ out.items.length → i ≤ out.ciphertexts.length := by
    intro out i inside
    rw [Outgoing.ciphertexts, List.length_map]
    exact inside
  exact chain_located cancel written.apart free (texts found) (texts found') (within inside)
    (within inside') level

variable
  (inOrder : reader.accepted = [] ∨ ∃ out ∈ link.outgoing, out.owner = reader.owner ∧
    reader.accepted <+: out.items.map Item.frame)
  (level : streamHash ends.sha384 (out.ciphertexts.take i) =
    streamHash ends.sha384 (reader.accepted.map (·.1.ciphertext)))
  (own : reader.accepted = [] → i = 0 → out.owner = reader.owner)
include inOrder level own

theorem Written.accepted_before (inside : i ≤ out.items.length) :
    (out.items.take i).map Item.frame = reader.accepted ∧ out.owner = reader.owner := by
  have first : reader.accepted = [] → i = 0 →
      (out.items.take i).map Item.frame = reader.accepted ∧ out.owner = reader.owner := by
    intro nothing zero
    rw [nothing, zero]
    exact ⟨rfl, own nothing zero⟩
  rcases inOrder with nothing | ⟨other, present, owner, starts⟩
  · apply first nothing
    rw [nothing] at level
    rcases written.located free found found inside (Nat.zero_le _) level with ⟨zero, _⟩ | ⟨_, zero⟩
    · exact zero
    · exact zero
  · obtain ⟨s', found'⟩ := List.mem_iff_getElem?.mp present
    have taken := List.prefix_iff_eq_take.mp starts
    have within : reader.accepted.length ≤ other.items.length := by
      have less := starts.length_le
      rwa [List.length_map] at less
    have texts : reader.accepted.map (·.1.ciphertext) =
        other.ciphertexts.take reader.accepted.length := by
      conv_lhs => rw [taken]
      rw [List.map_take, List.map_map]
      rfl
    rw [texts] at level
    rcases written.located free found found' inside within level with ⟨zero, none⟩ | ⟨rfl, length⟩
    · exact first (List.eq_nil_of_length_eq_zero none) zero
    · obtain rfl : out = other := Option.some.inj (found.symm.trans found')
      refine ⟨?_, owner⟩
      rw [length, List.map_take]
      exact taken.symm

theorem accept_inOrder {item : Item} (here : out.items[i]? = some item) :
    out.owner = reader.owner ∧ reader.accepted ++ [item.frame] <+: out.items.map Item.frame := by
  have inside := (List.getElem?_eq_some_iff.mp here).1
  obtain ⟨before, owner⟩ :=
    written.accepted_before free found inOrder level own (Nat.le_of_lt inside)
  refine ⟨owner, ?_⟩
  have next : out.items.take (i + 1) = out.items.take i ++ [item] := by
    rw [List.take_add_one, here, Option.toList_some]
  have shown : reader.accepted ++ [item.frame] = (out.items.take (i + 1)).map Item.frame := by
    rw [next, List.map_append, before]
    rfl
  rw [shown]
  exact (List.take_prefix (i + 1) out.items).map Item.frame

end Chain

theorem Reads.of_writes {after : Link} (reads : Reads ends link)
    (writes : Writes ends link after) (same : after.incoming = link.incoming) :
    Reads ends after where
  hash := by
    rw [same]
    exact reads.hash
  inOrder reader member := by
    rw [same] at member
    rcases reads.inOrder reader member with nothing | ⟨out, present, owner, starts⟩
    · exact .inl nothing
    · obtain ⟨later, there, sameOwner, longer⟩ := writes.longer present
      exact .inr ⟨later, there, sameOwner.trans owner, starts.trans (longer.map Item.frame)⟩
  owners := by
    rw [same]
    exact reads.owners

theorem readStream_reads (reads : Reads ends link) (owner : Nat)
    (body : List (Except String Bytes)) : Reads ends (link.step ends (.readStream owner body)) := by
  simp only [step]
  by_cases taken : (link.incoming.any fun stream => stream.owner = owner) = true
  · rw [if_pos taken]
    exact reads
  · rw [if_neg taken]
    have unread : owner ∉ link.incoming.map (·.owner) := by
      simpa using taken
    constructor
    · exact forall_mem_concat reads.hash rfl
    · exact forall_mem_concat reads.inOrder (.inl rfl)
    · rw [List.map_append, List.nodup_append]
      refine ⟨reads.owners, List.nodup_singleton _, ?_⟩
      intro left member right single same
      obtain rfl := List.mem_singleton.mp single
      exact unread (same ▸ member)

theorem Reads.set {after : Link} (reads : Reads ends link)
    {new : Incoming} (found : link.incoming[index]? = some reader)
    (incoming : after.incoming = link.incoming.set index new)
    (outgoing : after.outgoing = link.outgoing) (owner : new.owner = reader.owner)
    (hash : new.state.prevHash = streamHash ends.sha384 (new.accepted.map (·.1.ciphertext)))
    (inOrder : new.accepted = [] ∨ ∃ out ∈ link.outgoing, out.owner = reader.owner ∧
      new.accepted <+: out.items.map Item.frame) : Reads ends after where
  hash := by
    rw [incoming]
    exact forall_mem_set reads.hash hash
  inOrder := by
    rw [incoming, outgoing]
    refine forall_mem_set reads.inOrder ?_
    rw [owner]
    exact inOrder
  owners := by
    rw [incoming, map_set_of_eq found owner]
    exact reads.owners

section Steps

variable (ideal : ends.cipher.Ideal) (account : link.Sealed ends.cipher keys)
  (written : Written ends link) (reads : Reads ends link)
  (free : CollisionFree ends.sha384 (.zero 48) (link.hashed ends.sha384))
include ideal account written reads free

theorem poll_reads {now : Nat} (unforged : link.Unforged ends (.poll index now))
    (own : link.OwnHead (.poll index now)) : Reads ends (link.step ends (.poll index now)) := by
  simp only [step]
  cases found : link.incoming[index]? with
  | none => exact reads
  | some reader =>
    have member := List.mem_of_getElem? found
    have chained := reads.hash reader member
    have before := reads.inOrder reader member
    rcases pollStream_chain ends.cipher ends.sha384 now (link.clientAad ends.ids) reader.state
      link.client with ⟨unmoved, silent⟩ | ⟨frame, plaintext, read, yielded, opened, moved⟩
    · have nothing : acceptedFrame (polledFrame reader.state) (pollStream ends.cipher ends.sha384 now
          (link.clientAad ends.ids) reader.state link.client).1 = [] := by
        unfold acceptedFrame
        split
        · rename_i plaintext _ yielded
          exact absurd yielded (silent plaintext)
        · rfl
      refine reads.set found rfl rfl rfl ?_ ?_
      · dsimp only
        rw [nothing, List.append_nil, unmoved, chained]
      · dsimp only
        rw [nothing, List.append_nil]
        exact before
    · have accepted : acceptedFrame (polledFrame reader.state) (pollStream ends.cipher ends.sha384
          now (link.clientAad ends.ids) reader.state link.client).1 = [(frame, plaintext)] := by
        rw [read, yielded, acceptedFrame]
      -- What opened was sealed in some stream, behind the very frames that the reader has accepted.
      obtain ⟨s, out, i, item, located, here, same, level⟩ :=
        frame_located ideal account written (unforged reader frame found read) opened
      have ownHead : reader.accepted = [] → i = 0 → out.owner = reader.owner := by
        intro none zero
        apply own reader frame found none read out (List.mem_of_getElem? located)
        rw [zero] at here
        rw [Outgoing.ciphertexts, List.head?_map, List.head?_eq_getElem?, here]
        exact congrArg some (congrArg (·.1.ciphertext) same)
      have next := accept_inOrder written free located before (level.trans chained) ownHead here
      refine reads.set found rfl rfl rfl ?_ ?_
      · dsimp only
        rw [accepted, List.map_append, List.map_singleton, streamHash_append, moved, chained]
      · dsimp only
        rw [accepted, ← same]
        exact .inr ⟨out, List.mem_of_getElem? located, next⟩

theorem step_reads (event : LinkEvent) (unforged : link.Unforged ends event)
    (own : link.OwnHead event) : Reads ends (link.step ends event) := by
  have writes := step_writes ends link event
  cases event with
  | ask now nonce f => cases nonce <;> exact reads.of_writes writes rfl
  | receive | respond | openStream =>
    apply reads.of_writes writes
    simp only [step]
    split <;> rfl
  | chunk index now item =>
    apply reads.of_writes writes
    simp only [step]
    split
    · rfl
    · split <;> rfl
  | reply owner now reply => exact reads.of_writes writes rfl
  | readStream owner body => exact readStream_reads reads owner body
  | poll index now => exact poll_reads ideal account written reads free unforged own

end Steps

theorem Reads.ciphertexts (reads : Reads ends link)
    (member : reader ∈ link.incoming) : reader.accepted = [] ∨
      ∃ out ∈ link.outgoing, out.owner = reader.owner ∧
        reader.accepted.map (·.1.ciphertext) <+: out.ciphertexts := by
  rcases reads.inOrder reader member with nothing | ⟨out, present, owner, starts⟩
  · exact .inl nothing
  · have texts : (out.items.map Item.frame).map (·.1.ciphertext) = out.ciphertexts := by
      rw [List.map_map]
      rfl
    refine .inr ⟨out, present, owner, ?_⟩
    rw [← texts]
    exact starts.map _

theorem Reads.nodup (reads : Reads ends link) (written : Written ends link) :
    (link.incoming.flatMap fun reader => reader.accepted.map (·.1.ciphertext)).Nodup := by
  rw [List.nodup_flatMap]
  constructor
  · intro reader member
    rcases reads.ciphertexts member with nothing | ⟨out, present, _, starts⟩
    · rw [nothing]
      exact List.nodup_nil
    · have whole := written.apart.nodup (List.mem_map_of_mem present)
      exact starts.sublist.nodup whole
  · apply List.Pairwise.imp_of_mem _ (List.pairwise_map.mp reads.owners)
    intro left right leftMember rightMember different ciphertext inLeft inRight
    dsimp only at inLeft inRight
    rcases reads.ciphertexts leftMember with nothing | ⟨out, present, owner, starts⟩
    · rw [nothing] at inLeft
      cases inLeft
    · rcases reads.ciphertexts rightMember with nothing | ⟨other, there, owner', starts'⟩
      · rw [nothing] at inRight
        cases inRight
      · -- a ciphertext of both readers stands in one stream, which answers one request
        obtain ⟨s, found⟩ := List.mem_iff_getElem?.mp present
        obtain ⟨s', found'⟩ := List.mem_iff_getElem?.mp there
        obtain ⟨i, here⟩ := List.mem_iff_getElem?.mp (starts.subset inLeft)
        obtain ⟨i', here'⟩ := List.mem_iff_getElem?.mp (starts'.subset inRight)
        obtain ⟨rfl, _⟩ := written.apart s s' out.ciphertexts other.ciphertexts
          (by simp [Link.ciphertexts, found]) (by simp [Link.ciphertexts, found']) i i' ciphertext
          here here'
        obtain rfl : out = other := Option.some.inj (found.symm.trans found')
        exact different (owner.symm.trans owner')

structure Orderly (ends : Ends) (keys : SessionKeys) (link : Link) : Prop where
  account : link.Sealed ends.cipher keys
  numbered : link.Numbered
  written : Written ends link
  reads : Reads ends link

theorem start_orderly (ends : Ends) (id : AtbId) (suite : CipherSuite) (version : ProtocolVersion)
    (keys : SessionKeys) (serverExpiry clientExpiry : Nat) (result : Option VerificationResult) :
    Orderly ends keys (start id suite version keys serverExpiry clientExpiry result) where
  account := start_sealed ends.cipher id suite version keys serverExpiry clientExpiry result
  numbered := by simp [Numbered, start]
  written := by
    constructor <;> simp [start, ciphertexts, Apart]
  reads := by
    constructor <;> simp [start]

theorem unforged_poll {now : Nat} {frame : StreamFrame}
    (read : (link.incoming[index]?).bind (fun reader => polledFrame reader.state) = some frame)
    (listed : frame.ciphertext ∈ link.items.map (·.ciphertext)) :
    link.Unforged ends (.poll index now) := by
  intro reader polled found next nonce aad plaintext _
  rw [found, Option.bind_some, next] at read
  obtain rfl := Option.some.inj read
  exact List.mem_map.mp listed

theorem collisionFree_along {events : List LinkEvent} (free : CollisionFree ends.sha384 (.zero 48)
      ((run (step ends) link events).hashed ends.sha384)) :
    Along (step ends) (fun link _ => CollisionFree ends.sha384 (.zero 48) (link.hashed ends.sha384))
      link events :=
  along_of_last (fun link event later => later.mono (step_writes ends link event).hashed_subset) free

end Link

open Link

/-- In every run in which the client is given nothing forged, the hash is free of collisions on
what the server hashed, and no reader that has yielded nothing is given the first frame of another
request's stream, what each reader has yielded is a prefix of a stream sealed for its request, and
no frame has been accepted twice. -/
theorem streams_yield_prefixes (ends : Ends) (ideal : ends.cipher.Ideal) (id : AtbId)
    (suite : CipherSuite) (version : ProtocolVersion) (keys : SessionKeys)
    (serverExpiry clientExpiry : Nat) (result : Option VerificationResult)
    (events : List LinkEvent)
    (taken : Along (step ends) (fun link event => link.Unforged ends event ∧
        CollisionFree ends.sha384 (.zero 48) (link.hashed ends.sha384) ∧ link.OwnHead event)
      (start id suite version keys serverExpiry clientExpiry result) events)
    (link : Link)
    (reached : run (step ends) (start id suite version keys serverExpiry clientExpiry result)
      events = link) :
    (∀ reader ∈ link.incoming, reader.accepted = [] ∨ ∃ out ∈ link.outgoing,
      out.owner = reader.owner ∧ reader.accepted.map (·.2) <+: out.items.map (·.plaintext)) ∧
    (link.incoming.flatMap fun reader => reader.accepted.map (·.1.ciphertext)).Nodup := by
  have orderly : Orderly ends keys link := by
    rw [← reached]
    apply run_invariant_along (Orderly ends keys) _
      (start_orderly ends id suite version keys serverExpiry clientExpiry result) taken
    rintro link event ⟨account, numbered, written, reads⟩ ⟨unforged, free, own⟩
    have evolves := step_evolves ends link event
    exact ⟨evolves.sealed account, evolves.numbered numbered,
      written.step ideal account numbered evolves (step_writes ends link event),
      step_reads ideal account written reads free event unforged own⟩
  refine ⟨?_, orderly.reads.nodup orderly.written⟩
  intro reader member
  rcases orderly.reads.inOrder reader member with nothing | ⟨out, present, owner, starts⟩
  · exact .inl nothing
  · have chunks : (out.items.map Item.frame).map (·.2) = out.items.map (·.plaintext) := by
      rw [List.map_map]
      rfl
    refine .inr ⟨out, present, owner, ?_⟩
    rw [← chunks]
    exact starts.map _

def countingEnds : Ends where
  cipher := plainCipher
  codec := .plain
  statusText := toString
  sha384 := fun bytes => ⟨beBytes 48 bytes.length, beBytes_length ..⟩
  ids := .padded

def firstFrame : StreamFrame where
  counter := 1
  ciphertext := plainHeader ⟨.zero 32, .Aes256Gcm⟩ (counterNonce (.zero 12) 1)
    (sessionAad zeroId ++ (Octets.zero 48).bytes) ++ [7]

def ownStream : List LinkEvent :=
  [.openStream 0 zeroId, .chunk 0 0 (.ok [7]), .readStream 0 [.ok firstFrame.encode], .poll 0 0]

theorem own_stream_read :
    (run (step countingEnds) zeroLink ownStream).incoming.map
      (fun reader => (reader.owner, reader.accepted.map (·.2))) = [(0, [[7]])] ∧
    (∀ reader ∈ (run (step countingEnds) zeroLink ownStream).incoming, reader.accepted = [] ∨
      ∃ out ∈ (run (step countingEnds) zeroLink ownStream).outgoing, out.owner = reader.owner ∧
        reader.accepted.map (·.2) <+: out.items.map (·.plaintext)) ∧
    ((run (step countingEnds) zeroLink ownStream).incoming.flatMap
      fun reader => reader.accepted.map (·.1.ciphertext)).Nodup := by
  have free : CollisionFree countingEnds.sha384 (.zero 48)
      ((run (step countingEnds) zeroLink ownStream).hashed countingEnds.sha384) :=
    ⟨by decide +kernel, by decide +kernel⟩
  have unforged : Along (step countingEnds) (fun link event => link.Unforged countingEnds event)
      zeroLink ownStream := by
    refine ⟨trivial, trivial, trivial, ?_, trivial⟩
    refine @unforged_poll _ _ _ _ firstFrame ?_ ?_ <;> decide +kernel
  have own : Along (step countingEnds) (fun link event => link.OwnHead event) zeroLink ownStream := by
    refine ⟨trivial, trivial, trivial, ?_, trivial⟩
    intro reader frame found _ _ out member _
    have sealedFor : ∀ out ∈ (run (step countingEnds) zeroLink (ownStream.take 3)).outgoing,
        out.owner = 0 := by decide +kernel
    have readBy : ∀ reader ∈ (run (step countingEnds) zeroLink (ownStream.take 3)).incoming,
        reader.owner = 0 := by decide +kernel
    exact (sealedFor out member).trans (readBy reader (List.mem_of_getElem? found)).symm
  exact ⟨by decide +kernel, streams_yield_prefixes countingEnds plainCipher_ideal ⟨0⟩
    .X25519MlKem768Aes256GcmSha384 .V2 .zero 10 10 none ownStream
    (unforged.and ((collisionFree_along free).and own)) _ rfl⟩

def sharedStream : List LinkEvent :=
  [.openStream 0 zeroId, .chunk 0 0 (.ok [7]), .readStream 0 [.ok firstFrame.encode], .poll 0 0,
    .readStream 1 [.ok firstFrame.encode], .poll 1 0]

/-- Request 1 yields the chunk sealed for request 0, for which alone a stream was sealed, and the
one frame is accepted twice. -/
theorem stream_read_twice :
    Along (step countingEnds) (fun link event => link.Unforged countingEnds event ∧
      CollisionFree countingEnds.sha384 (.zero 48) (link.hashed countingEnds.sha384)) zeroLink
      sharedStream ∧
    (run (step countingEnds) zeroLink sharedStream).outgoing.map (·.owner) = [0] ∧
    (run (step countingEnds) zeroLink sharedStream).incoming.map
      (fun reader => (reader.owner, reader.accepted.map (·.2))) = [(0, [[7]]), (1, [[7]])] ∧
    ¬ ((run (step countingEnds) zeroLink sharedStream).incoming.flatMap
      fun reader => reader.accepted.map (·.1.ciphertext)).Nodup := by
  have free : CollisionFree countingEnds.sha384 (.zero 48)
      ((run (step countingEnds) zeroLink sharedStream).hashed countingEnds.sha384) :=
    ⟨by decide +kernel, by decide +kernel⟩
  have unforged : Along (step countingEnds) (fun link event => link.Unforged countingEnds event)
      zeroLink sharedStream := by
    refine ⟨trivial, trivial, trivial, ?_, trivial, ?_, trivial⟩
    · refine @unforged_poll _ _ _ _ firstFrame ?_ ?_ <;> decide +kernel
    · refine @unforged_poll _ _ _ _ firstFrame ?_ ?_ <;> decide +kernel
  exact ⟨unforged.and (collisionFree_along free), by decide +kernel, by decide +kernel,
    by decide +kernel⟩

end OpenHttpa.Channel
