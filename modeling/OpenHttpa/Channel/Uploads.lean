import OpenHttpa.Channel.Framing
import OpenHttpa.Channel.Streams
import OpenHttpa.Client.Interleaving

/-!
# Streamed requests, from the client to the server

The client hashes its way over the frames of a streamed request and puts the hash into the associated
data of the next one; the server hashes its way over the frames it has opened. Both start at zero for
every stream, and neither says which request the stream belongs to. An adversary who passes frames on,
drops them, repeats them or mixes those of several requests is caught by the hash alone: a frame opens
only where the server has opened exactly the frames that the client sealed before it.
-/
namespace OpenHttpa.Channel

open OpenHttpa.Core Crypto Proto Server Client

def chunkInput (digest : Octets 48) (item : Bytes × StreamFrame) : Bytes :=
  digest.bytes ++ item.2.ciphertext

def uploadHash (sha384 : Bytes → Octets 48) (sent : List (Bytes × StreamFrame)) : Octets 48 :=
  chain sha384 chunkInput (.zero 48) sent

/-- Everything the chains of the uploads hash. -/
def hashedUploads (sha384 : Bytes → Octets 48) (uploads : List Upload) : List Bytes :=
  uploads.flatMap fun upload => chainInputs sha384 chunkInput (.zero 48) upload.sent

def SealedChunk (cipher : Cipher) (keys : SessionKeys) (aad : Bytes) (item : Bytes × StreamFrame) :
    Prop :=
  cipher.encrypt ⟨keys.clientWriteKey, .Aes256Gcm⟩ (counterNonce keys.clientWriteIv item.2.counter)
    aad item.1 = some item.2.ciphertext

/-- Every frame of a stream is sealed after the hash over those before it, and the stream holds the
hash over all of them, as long as the counter of the session can move on. -/
structure Chained (codecs : RequestCodecs) (session : AttestSession) (upload : Upload) : Prop where
  aad : upload.stream.aad = requestAad codecs session
  /-- The hash is level with the frames. -/
  level : session.clientCounter ≠ u64Max →
    upload.stream.cumulativeHash = uploadHash codecs.sha384 upload.sent
  placed : ∀ i item, upload.sent[i]? = some item → SealedChunk codecs.cipher session.keys
    (requestAad codecs session ++ (uploadHash codecs.sha384 (upload.sent.take i)).bytes) item

section Client

variable {codecs : RequestCodecs} {session left : AttestSession} {upload : Upload}

theorem Chained.outlives (chained : Chained codecs session upload) (id : left.id = session.id)
    (keys : left.keys = session.keys)
    (below : left.clientCounter ≠ u64Max → session.clientCounter ≠ u64Max) :
    Chained codecs left upload := by
  have same : requestAad codecs left = requestAad codecs session := by
    rw [requestAad, requestAad, id]
  constructor
  · rw [same]
    exact chained.aad
  · exact fun met => chained.level (below met)
  · rw [same, keys]
    exact chained.placed

theorem Chained.extend (chained : Chained codecs session upload)
    (below : session.clientCounter ≠ u64Max) {chunk : Bytes} {frame : StreamFrame}
    (sealed : SealedChunk codecs.cipher session.keys upload.stream.chunkAad (chunk, frame)) :
    Chained codecs session
      ⟨⟨upload.stream.aad, chainHash codecs.sha384 upload.stream.cumulativeHash frame.ciphertext⟩,
        upload.sent ++ [(chunk, frame)]⟩ where
  aad := chained.aad
  level _ := by
    dsimp only
    rw [chained.level below, uploadHash, uploadHash, chain_append_singleton]
    rfl
  placed i item found := by
    dsimp only at found ⊢
    rw [getElem?_append_singleton] at found
    by_cases last : i = upload.sent.length
    · rw [if_pos last] at found
      obtain rfl := Option.some.inj found
      rw [last, List.take_left, ← chained.level below, ← chained.aad]
      exact sealed
    · rw [if_neg last] at found
      have inside : i ≤ upload.sent.length := (List.getElem?_eq_some_iff.mp found).1.le
      rw [List.take_append_of_le_length inside]
      exact chained.placed i item found

def AllChained (codecs : RequestCodecs) (shared : SharedSession) : Prop :=
  ∀ upload ∈ shared.uploads, Chained codecs shared.session upload

theorem step_chained {shared after : SharedSession} {attempted : Option (Nat × UInt64)}
    (moved : SharedSession.Moved codecs shared attempted after) (chained : AllChained codecs shared) :
    AllChained codecs after := by
  cases moved with
  | idle => exact fun upload member => (chained upload member).outlives rfl rfl id
  | panicked => exact chained
  | unsealed calls uploads call nothing kept =>
    obtain ⟨sameId, sameKeys, _, _⟩ := call.keeps
    have counter := call.counter_of_not_ok nothing
    have others : ∀ upload ∈ shared.uploads, Chained codecs _ upload := fun upload member =>
      (chained upload member).outlives sameId sameKeys (counter ▸ id)
    rcases kept with rfl | ⟨index, upload, stream, found, aad, level, rfl⟩
    · exact others
    · have before := others upload (List.mem_of_getElem? found)
      refine forall_mem_set others ⟨aad.trans before.aad, ?_, before.placed⟩
      intro below
      dsimp only at below ⊢
      rw [counter] at below
      rw [level below]
      exact (chained upload (List.mem_of_getElem? found)).level below
  | request calls body data call =>
    obtain ⟨sameId, sameKeys, _, _⟩ := call.keeps
    exact fun upload member =>
      (chained upload member).outlives sameId sameKeys fun _ => call.counter_of_ok.1
  | headers calls call =>
    obtain ⟨sameId, sameKeys, _, _⟩ := call.keeps
    have empty : Chained codecs shared.session
        ⟨⟨requestAad codecs shared.session, Octets.zero 48⟩, []⟩ := ⟨rfl, fun _ => rfl, by simp⟩
    exact fun upload member => (forall_mem_concat chained empty upload member).outlives sameId sameKeys
      fun _ => call.counter_of_ok.1
  | chunk chunk frame found number call sealed =>
    obtain ⟨sameId, sameKeys, _, _⟩ := call.keeps
    have below := call.counter_of_ok.1
    have before := chained _ (List.mem_of_getElem? found)
    apply forall_mem_set
    · exact fun one old => (chained one old).outlives sameId sameKeys fun _ => below
    · exact (before.extend below sealed).outlives sameId sameKeys fun _ => below

end Client

section Server

variable {readers : RequestReaders} {moments : Moments} {start : RequestStream}

variable (readers)

/-- The state of `EncryptedStream` before a poll. -/
def requestState (moments : Moments) (start : RequestStream) : Nat → RequestStream :=
  unfoldState (fun moment stream =>
    let polled := EncryptedStream.poll readers (moments moment).1 stream (moments moment).2
    (polled.1, polled.2.1)) start

def yielded (items : Nat → Option (Except String Bytes)) : Nat → List Bytes
  | 0 => []
  | polls + 1 => yielded items polls ++ ((items polls).bind Except.toOption).toList

theorem encryptedStreamFrame_opens {cipher : Cipher} {sha384 : Bytes → Octets 48} {now : Nat}
    {aad : Bytes} {previous : Octets 48} {frame : StreamFrame} {session : AttestSession}
    {plaintext : Bytes}
    (opened : (encryptedStreamFrame cipher sha384 now aad previous frame session).1 = .ok plaintext) :
    cipher.decrypt ⟨session.keys.clientWriteKey, .Aes256Gcm⟩
      (counterNonce session.keys.clientWriteIv frame.counter) (aad ++ previous.bytes)
      frame.ciphertext = some plaintext ∧
      (encryptedStreamFrame cipher sha384 now aad previous frame session).2.1 =
        chainHash sha384 previous frame.ciphertext := by
  obtain ⟨_, _, _, opens, _⟩ := encryptedStreamFrame_opens_iff.mp opened
  refine ⟨opens, ?_⟩
  unfold encryptedStreamFrame at opened ⊢
  generalize session.withKeysForTrr now frame.counter (openChunk cipher aad previous frame) =
    received at opened ⊢
  rcases received with ⟨failure | reason | chunk, left⟩
  · cases opened
  · cases opened
  · rfl

theorem poll_cases (now : Nat) (stream : RequestStream) (session : AttestSession) :
    (∃ frame plaintext, EncryptedStream.polledFrame stream = some frame ∧
      readers.cipher.decrypt ⟨session.keys.clientWriteKey, .Aes256Gcm⟩
        (counterNonce session.keys.clientWriteIv frame.counter)
        (stream.aad ++ stream.prevHash.bytes) frame.ciphertext = some plaintext ∧
      (EncryptedStream.poll readers now stream session).1 = some (.ok plaintext) ∧
      (EncryptedStream.poll readers now stream session).2.1.prevHash =
        chainHash readers.sha384 stream.prevHash frame.ciphertext) ∨
    ((EncryptedStream.poll readers now stream session).1.bind Except.toOption = none ∧
      (EncryptedStream.poll readers now stream session).2.1.prevHash = stream.prevHash) := by
  unfold EncryptedStream.poll EncryptedStream.polledFrame
  rcases StreamFrameReader.nextFrame (some maxFrameSize) stream.reader.buffer stream.reader.stream
    with ⟨failure | _ | frame, reader⟩
  · exact .inr ⟨rfl, rfl⟩
  · exact .inr ⟨rfl, rfl⟩
  · dsimp only
    cases outcome : (encryptedStreamFrame readers.cipher readers.sha384 now stream.aad
        stream.prevHash frame session).1 with
    | error reason =>
      refine .inr ⟨rfl, EncryptedStream.frame_chain ?_⟩
      intro chunk opened
      rw [outcome] at opened
      cases opened
    | ok plaintext =>
      obtain ⟨decrypted, hashed⟩ := encryptedStreamFrame_opens outcome
      exact .inl ⟨frame, plaintext, rfl, decrypted, rfl, hashed⟩

/-- Every frame that the first polls come to, and that opens under the client's key at all, carries a
ciphertext of one of the streams. -/
def Assembled (keys : SessionKeys) (moments : Moments) (start : RequestStream)
    (uploads : List Upload) (polls : Nat) : Prop :=
  ∀ poll < polls, ∀ frame,
    EncryptedStream.polledFrame (requestState readers moments start poll) = some frame →
    ∀ nonce aad plaintext, readers.cipher.decrypt ⟨keys.clientWriteKey, .Aes256Gcm⟩ nonce aad
      frame.ciphertext = some plaintext →
    ∃ upload ∈ uploads, ∃ item ∈ upload.sent, item.2.ciphertext = frame.ciphertext

end Server

section Both

variable {codecs : RequestCodecs} {session : AttestSession} {uploads : List Upload}

theorem sent_unique (ideal : codecs.cipher.Ideal)
    (chained : ∀ upload ∈ uploads, Chained codecs session upload) {upload other : Upload}
    (member : upload ∈ uploads) (memberToo : other ∈ uploads) {one two : Bytes × StreamFrame}
    (within : one ∈ upload.sent) (withinToo : two ∈ other.sent)
    (same : one.2.ciphertext = two.2.ciphertext) : one = two := by
  obtain ⟨i, found⟩ := List.mem_iff_getElem?.mp within
  obtain ⟨j, foundToo⟩ := List.mem_iff_getElem?.mp withinToo
  have first := (chained upload member).placed i one found
  have second := (chained other memberToo).placed j two foundToo
  unfold SealedChunk at first second
  rw [same] at first
  obtain ⟨_, nonces, _, chunks⟩ := ideal.committing _ _ _ _ _ _ _ _ _ first second
  obtain ⟨chunk, ⟨counter, ciphertext⟩⟩ := one
  obtain ⟨chunkToo, ⟨counterToo, ciphertextToo⟩⟩ := two
  obtain rfl : counter = counterToo := counterNonce_injective nonces
  obtain rfl : chunk = chunkToo := chunks
  obtain rfl : ciphertext = ciphertextToo := same
  rfl

theorem next_chunk (ideal : codecs.cipher.Ideal)
    (chained : ∀ upload ∈ uploads, Chained codecs session upload)
    (free : CollisionFree codecs.sha384 (.zero 48) (hashedUploads codecs.sha384 uploads))
    {accepted : List (Bytes × StreamFrame)}
    (before : accepted = [] ∨ ∃ upload ∈ uploads, accepted <+: upload.sent) {aad plaintext : Bytes}
    {frame : StreamFrame}
    (opened : codecs.cipher.decrypt ⟨session.keys.clientWriteKey, .Aes256Gcm⟩
      (counterNonce session.keys.clientWriteIv frame.counter)
      (aad ++ (uploadHash codecs.sha384 accepted).bytes) frame.ciphertext = some plaintext)
    (genuine : ∃ upload ∈ uploads, ∃ item ∈ upload.sent, item.2.ciphertext = frame.ciphertext) :
    ∃ upload ∈ uploads, accepted ++ [(plaintext, frame)] <+: upload.sent := by
  obtain ⟨upload, member, item, within, ciphertext⟩ := genuine
  obtain ⟨i, found⟩ := List.mem_iff_getElem?.mp within
  have sealed := (chained upload member).placed i item found
  unfold SealedChunk at sealed
  rw [ciphertext] at sealed
  obtain ⟨_, nonces, aads, plaintexts⟩ := (ideal.decrypt_iff sealed).mp opened
  have here : item = (plaintext, frame) := by
    obtain ⟨chunk, ⟨counter, text⟩⟩ := item
    obtain rfl : chunk = plaintext := plaintexts.symm
    obtain rfl : counter = frame.counter := (counterNonce_injective nonces).symm
    obtain rfl : text = frame.ciphertext := ciphertext
    rfl
  have hashes : uploadHash codecs.sha384 accepted =
      uploadHash codecs.sha384 (upload.sent.take i) := by
    apply Octets.ext
    apply List.append_inj_right' aads
    rw [Octets.length_eq, Octets.length_eq]
  have inputs : ∀ {other : Upload} {items : List (Bytes × StreamFrame)}, other ∈ uploads →
      items <+: other.sent → chainInputs codecs.sha384 chunkInput (.zero 48) items ⊆
        hashedUploads codecs.sha384 uploads := by
    intro other items there begins
    refine List.Subset.trans (chainInputs_subset _ _ begins) ?_
    exact fun input hashed => List.mem_flatMap.mpr ⟨other, there, hashed⟩
  -- Equal hashes are hashes of the same frames, so what was accepted is what was sealed before.
  have taken : accepted = upload.sent.take i := by
    refine chain_injective chunkInput free ?_ (inputs member (List.take_prefix i _)) ?_ hashes
    · rcases before with rfl | ⟨other, there, begins⟩
      · exact List.nil_subset _
      · exact inputs there begins
    · intro digest digest' one memberOne two memberTwo same
      obtain ⟨bytes, texts⟩ := List.append_inj same (by rw [Octets.length_eq, Octets.length_eq])
      refine ⟨Octets.ext bytes, ?_⟩
      rcases before with rfl | ⟨other, there, begins⟩
      · cases memberOne
      · exact sent_unique ideal chained there member (begins.subset memberOne)
          (List.mem_of_mem_take memberTwo) texts
  have next : upload.sent.take (i + 1) = upload.sent.take i ++ [item] := by
    rw [List.take_add_one, found, Option.toList_some]
  refine ⟨upload, member, ?_⟩
  rw [taken, ← here, ← next]
  exact List.take_prefix (i + 1) upload.sent

theorem accepted_frames (ideal : codecs.cipher.Ideal)
    (chained : ∀ upload ∈ uploads, Chained codecs session upload)
    (free : CollisionFree codecs.sha384 (.zero 48) (hashedUploads codecs.sha384 uploads))
    {readers : RequestReaders} (sameCipher : readers.cipher = codecs.cipher)
    (sameHash : readers.sha384 = codecs.sha384) {moments : Moments}
    (sameKeys : ∀ poll, (moments poll).2.keys = session.keys) {start : RequestStream}
    (fresh : start.prevHash = .zero 48) {polls : Nat}
    (assembled : Assembled readers session.keys moments start uploads polls) :
    ∃ accepted : List (Bytes × StreamFrame),
      accepted.map (·.1) = yielded (requestItems readers moments start) polls ∧
      (requestState readers moments start polls).prevHash = uploadHash codecs.sha384 accepted ∧
      (accepted = [] ∨ ∃ upload ∈ uploads, accepted <+: upload.sent) := by
  induction polls with
  | zero => exact ⟨[], rfl, fresh, .inl rfl⟩
  | succ polls ih =>
    obtain ⟨accepted, chunks, hash, before⟩ :=
      ih fun poll earlier => assembled poll (Nat.lt_succ_of_lt earlier)
    rcases poll_cases readers (moments polls).1 (requestState readers moments start polls)
      (moments polls).2 with ⟨frame, plaintext, polled, opened, item, moved⟩ | ⟨item, unmoved⟩
    · rw [sameKeys] at opened
      have genuine := assembled polls (Nat.lt_succ_self _) frame polled _ _ _ opened
      rw [sameCipher, hash] at opened
      refine ⟨accepted ++ [(plaintext, frame)], ?_, ?_,
        .inr (next_chunk ideal chained free before opened genuine)⟩
      · have chunk : requestItems readers moments start polls = some (.ok plaintext) := item
        rw [List.map_append, chunks, yielded, chunk]
        rfl
      · rw [uploadHash, chain_append_singleton, ← uploadHash, ← hash, ← sameHash]
        exact moved
    · have nothing : (requestItems readers moments start polls).bind Except.toOption = none := item
      refine ⟨accepted, ?_, unmoved.trans hash, before⟩
      rw [yielded, nothing, Option.toList_none, List.append_nil]
      exact chunks

end Both

/-- Whatever calls run on the client's session and whatever else the server's does: an adversary who
makes up a body from frames of the client's streams, with the cipher ideal and the hash free of
collisions on what the client hashed, gets the server's stream to yield the first chunks of one of
those streams and nothing else, errors aside. -/
theorem yielded_prefix_of_upload (codecs : RequestCodecs) (ideal : codecs.cipher.Ideal)
    (session : AttestSession) (events : List SharedEvent) (readers : RequestReaders)
    (sameCipher : readers.cipher = codecs.cipher) (sameHash : readers.sha384 = codecs.sha384)
    (moments : Moments) (sameKeys : ∀ poll, (moments poll).2.keys = session.keys) (aad : Bytes)
    (body : List (Except String Bytes)) (polls : Nat)
    (free : CollisionFree codecs.sha384 (.zero 48) (hashedUploads codecs.sha384
      (run (SharedSession.step codecs) (.new session) events).uploads))
    (assembled : Assembled readers session.keys moments ⟨⟨[], body⟩, aad, .zero 48⟩
      (run (SharedSession.step codecs) (.new session) events).uploads polls) :
    yielded (requestItems readers moments ⟨⟨[], body⟩, aad, .zero 48⟩) polls = [] ∨
      ∃ upload ∈ (run (SharedSession.step codecs) (.new session) events).uploads,
        yielded (requestItems readers moments ⟨⟨[], body⟩, aad, .zero 48⟩) polls <+:
          upload.sent.map (·.1) := by
  have keys : (run (SharedSession.step codecs) (.new session) events).session.keys = session.keys :=
    run_invariant (fun shared => shared.session.keys = session.keys)
      (fun shared event same => (SharedSession.step_moved codecs shared event).keys.trans same) rfl
      events
  have chained : AllChained codecs (run (SharedSession.step codecs) (.new session) events) :=
    run_invariant (AllChained codecs)
      (fun shared event held => step_chained (SharedSession.step_moved codecs shared event) held)
      (fun _ none => by cases none) events
  rw [← keys] at assembled
  obtain ⟨accepted, chunks, _, begins⟩ := accepted_frames ideal chained free sameCipher sameHash
    (fun poll => (sameKeys poll).trans keys.symm) rfl assembled
  rw [← chunks]
  rcases begins with rfl | ⟨upload, member, first⟩
  · exact .inl rfl
  · exact .inr ⟨upload, member, first.map _⟩

def countingCodecs : RequestCodecs := { plainCodecs with sha384 := countingEnds.sha384 }

def countingReaders : RequestReaders := { plainReaders with sha384 := countingEnds.sha384 }

def twoUploads : List SharedEvent :=
  [.call 0 (.upload chatLine), .advance 0 0, .advance 0 0, .chunk 0 0 100 [7],
    .call 0 (.upload chatLine), .advance 1 0, .advance 1 0, .chunk 1 0 101 [1, 2, 3],
    .chunk 0 0 102 [8, 9]]

def twoStreams : List Upload :=
  (run (SharedSession.step countingCodecs) (.new zeroShared) twoUploads).uploads

def mixedBody : List (Except String Bytes) :=
  [(0, 0), (1, 0), (0, 1)].map fun place =>
    .ok ((((twoStreams[place.1]?).bind (·.sent[place.2]?)).map (·.2.encode)).getD [])

/-- The chunk in the middle does not open, and the stream goes on with the one it began. -/
theorem mixed_streams_yield_one :
    yielded (requestItems countingReaders (fun _ => (0, zeroShared))
        ⟨⟨[], mixedBody⟩, requestAad countingCodecs zeroShared, .zero 48⟩) 3 = [[7], [8, 9]] ∧
      (yielded (requestItems countingReaders (fun _ => (0, zeroShared))
          ⟨⟨[], mixedBody⟩, requestAad countingCodecs zeroShared, .zero 48⟩) 3 = [] ∨
        ∃ upload ∈ twoStreams, yielded (requestItems countingReaders (fun _ => (0, zeroShared))
          ⟨⟨[], mixedBody⟩, requestAad countingCodecs zeroShared, .zero 48⟩) 3 <+:
            upload.sent.map (·.1)) := by
  have free : CollisionFree countingCodecs.sha384 (.zero 48)
      (hashedUploads countingCodecs.sha384 twoStreams) := ⟨by decide +kernel, by decide +kernel⟩
  have assembled : Assembled countingReaders zeroShared.keys (fun _ => (0, zeroShared))
      ⟨⟨[], mixedBody⟩, requestAad countingCodecs zeroShared, .zero 48⟩ twoStreams 3 := by
    have listed : ∀ poll < 3, ∀ frame ∈ EncryptedStream.polledFrame (requestState countingReaders
        (fun _ => (0, zeroShared)) ⟨⟨[], mixedBody⟩, requestAad countingCodecs zeroShared, .zero 48⟩
        poll), ∃ upload ∈ twoStreams, ∃ item ∈ upload.sent, item.2.ciphertext = frame.ciphertext := by
      decide +kernel
    exact fun poll early frame polled _ _ _ _ => listed poll early frame polled
  exact ⟨by decide +kernel, yielded_prefix_of_upload countingCodecs plainCipher_ideal zeroShared
    twoUploads countingReaders rfl rfl _ (fun _ => rfl) _ mixedBody 3 free assembled⟩

end OpenHttpa.Channel
