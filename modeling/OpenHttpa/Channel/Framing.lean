import OpenHttpa.Core.Framing
import OpenHttpa.Channel.Authenticity

/-!
# Framed bodies in both directions

The two copies of `StreamFrameReader`, the server's with its limit and the client's without one, and
the two streams built over them with `stream::unfold`. Both readers give back the frames that were
written. Both streams hand an error of the reader on and keep the reader, so after a body that ends
inside a frame they yield the same error for ever.
-/
namespace OpenHttpa.Channel

open OpenHttpa.Core Crypto Proto Server Client

theorem fits_maxFrameSize {frame : StreamFrame} (small : frame.ciphertext.length ≤ maxFrameSize) :
    frame.Fits (some maxFrameSize) := by
  refine ⟨small.trans_lt (by decide), ?_⟩
  rintro max ⟨⟩
  exact small

/-- Frames of at most `MAX_FRAME_SIZE` bytes, cut into any chunks, come out of either reader as they
were written, and then the end of the stream. -/
theorem readers_read_back (frames : List StreamFrame)
    (small : ∀ frame ∈ frames, frame.ciphertext.length ≤ maxFrameSize) (chunks : List Bytes)
    (cut : chunks.flatten = frames.flatMap StreamFrame.encode) (more : Nat) :
    ∀ limit ∈ [some maxFrameSize, none],
      StreamFrameReader.reads limit (frames.length + (1 + more)) ⟨[], chunks.map .ok⟩ =
        frames.map (fun frame => .ok (some frame)) ++ List.replicate (1 + more) (.ok none) := by
  have arrive : ∀ reason, .error reason ∉ chunks.map (Except.ok (ε := String)) := by simp
  have body : StreamFrameReader.pending ⟨[], chunks.map .ok⟩ = frames.flatMap StreamFrame.encode := by
    rw [← cut, StreamFrameReader.pending, StreamFrameReader.received, List.flatMap_map]
    simp [Except.toOption, List.flatMap_id']
  have serverFits : ∀ frame ∈ frames, frame.Fits (some maxFrameSize) := fun frame within =>
    fits_maxFrameSize (small frame within)
  intro limit either
  have fits : ∀ frame ∈ frames, frame.Fits limit := by
    intro frame within
    rcases List.mem_pair.mp either with rfl | rfl
    · exact serverFits frame within
    · exact ⟨(serverFits frame within).field, by simp⟩
  exact StreamFrameReader.reads_frames fits arrive body more

/-- Two frames, the second empty, cut inside the first length field and behind an empty chunk. -/
theorem two_frames_read_back :
    [[0, 0], [], [0, 2, 0, 0, 0, 0, 0, 0, 0, 3, 7, 8, 0, 0, 0, 0, 0, 0, 0, 0, 0, 0, 0, 9]].flatten =
        [⟨3, [7, 8]⟩, ⟨9, []⟩].flatMap StreamFrame.encode ∧
      ∀ limit ∈ [some maxFrameSize, none],
        StreamFrameReader.reads limit 3 ⟨[], [[0, 0], [],
            [0, 2, 0, 0, 0, 0, 0, 0, 0, 3, 7, 8, 0, 0, 0, 0, 0, 0, 0, 0, 0, 0, 0, 9]].map .ok⟩ =
          [.ok (some ⟨3, [7, 8]⟩), .ok (some ⟨9, []⟩), .ok none] :=
  ⟨by decide, readers_read_back [⟨3, [7, 8]⟩, ⟨9, []⟩] (by decide) _ (by decide) 0⟩

/-- The times of the polls and the session as each of them finds it; other requests move the session
between two polls. -/
abbrev Moments := Nat → Nat × AttestSession

variable (readers : RequestReaders) (cipher : Cipher) (sha384 : Bytes → Octets 48)

/-- The items of `EncryptedStream`. -/
def requestItems (moments : Moments) (stream : RequestStream) :
    Nat → Option (Except String Bytes) :=
  unfold (fun moment stream =>
    let polled := EncryptedStream.poll readers (moments moment).1 stream (moments moment).2
    (polled.1, polled.2.1)) stream

/-- The items of the stream `trusted_request_streaming` returns. -/
def responseItems (aad : Bytes) (moments : Moments)
    (stream : ResponseStream) : Nat → Option (Except ClientError Bytes) :=
  unfold (fun moment stream =>
    let polled := pollStream cipher sha384 (moments moment).1 aad stream (moments moment).2
    (polled.1, polled.2.1)) stream

theorem requestItems_end_iff (moments : Moments) (stream : RequestStream) :
    Finishes (requestItems readers moments stream) ↔
      StreamFrameReader.Framed (some maxFrameSize) stream.reader.pending := by
  refine unfold_finishes_iff RequestStream.reader ?_ ?_ stream
  all_goals
    intro moment stream
    simp only [EncryptedStream.poll, StreamFrameReader.next]
    rcases StreamFrameReader.nextFrame (some maxFrameSize) stream.reader.buffer
      stream.reader.stream with ⟨_ | _ | frame, reader⟩ <;> simp

theorem responseItems_end_iff (aad : Bytes) (moments : Moments) (stream : ResponseStream) :
    Finishes (responseItems cipher sha384 aad moments stream) ↔
      StreamFrameReader.Framed none stream.reader.pending := by
  refine unfold_finishes_iff ResponseStream.reader ?_ ?_ stream
  all_goals
    intro moment stream
    simp only [pollStream, StreamFrameReader.next]
    rcases StreamFrameReader.nextFrame none stream.reader.buffer stream.reader.stream with
      ⟨_ | _ | frame, reader⟩ <;> simp

/-- Whatever arrives, whenever the streams are polled and whatever else the sessions do: the server's
stream over a body ends exactly if the bytes that arrive are a row of whole frames of at most
`MAX_FRAME_SIZE` bytes, the client's exactly if they are a row of whole frames. -/
theorem streams_end_iff (readers : RequestReaders) (sent : Moments) (requestAad : Bytes)
    (cipher : Cipher) (sha384 : Bytes → Octets 48) (aad : Bytes) (answered : Moments)
    (body : List (Except String Bytes)) :
    (Finishes (requestItems readers sent ⟨⟨[], body⟩, requestAad, Octets.zero 48⟩) ↔
        StreamFrameReader.Framed (some maxFrameSize) (StreamFrameReader.received body)) ∧
      (Finishes (responseItems cipher sha384 aad answered (ResponseStream.start body)) ↔
        StreamFrameReader.Framed none (StreamFrameReader.received body)) :=
  ⟨requestItems_end_iff readers sent _, responseItems_end_iff cipher sha384 aad answered _⟩

theorem one_byte_not_framed (limit : Option Nat) : ¬ StreamFrameReader.Framed limit [0] := by
  rintro ⟨frames, -, body⟩
  cases frames with
  | nil => cases body
  | cons frame later =>
    have long := congrArg List.length body
    simp only [List.flatMap_cons, List.length_append, StreamFrame.encode, beBytes_length,
      u64Be_length, List.length_singleton] at long
    omega

/-- A body of one byte: neither stream ever ends. -/
theorem one_byte_never_ends :
    ¬ Finishes (requestItems plainReaders (fun _ => (0, zeroShared))
        ⟨⟨[], [.ok [0]]⟩, [], Octets.zero 48⟩) ∧
      ¬ Finishes (responseItems plainCipher (fun _ => .zero 48) [] (fun _ => (0, zeroShared))
        (ResponseStream.start [.ok [0]])) :=
  ⟨fun ended => one_byte_not_framed _ ((requestItems_end_iff _ _ _).mp ended),
    fun ended => one_byte_not_framed _ ((responseItems_end_iff _ _ _ _ _).mp ended)⟩

end OpenHttpa.Channel
