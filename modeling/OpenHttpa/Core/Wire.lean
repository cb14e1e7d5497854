import OpenHttpa.Lib.Bytes

/-!
# Wire forms of sealed bodies

A sealed body travels either whole, as the hexadecimal text of a JSON object, or as a stream of
frames: a four-byte length, an eight-byte counter and the ciphertext. JSON and hexadecimal are a
parameter with their round trip. The `StreamFrameReader` that client and server each have a copy
of is one definition: the server's copy refuses frames above a size, the client's does not.
-/
namespace OpenHttpa.Core

/-- The body `{"ciphertext": hex}`: the writer, and the reader that parses the JSON, looks the
member up and decodes the hexadecimal text. -/
structure BodyCodec where
  /-- `json!({ "ciphertext": hex::encode(data) })`. -/
  render : Bytes → Bytes
  /-- The reader, with the reason it refuses. -/
  parse : Bytes → Except String Bytes
  parse_render : ∀ ciphertext, parse (render ciphertext) = .ok ciphertext

def BodyCodec.plain : BodyCodec := ⟨id, .ok, fun _ => rfl⟩

@[ext]
structure StreamFrame where
  counter : UInt64
  ciphertext : Bytes
deriving DecidableEq

namespace StreamFrame

def encode (frame : StreamFrame) : Bytes :=
  beBytes 4 frame.ciphertext.length ++ u64Be frame.counter ++ frame.ciphertext

/-- Try to take one frame from the front of the buffer: nothing yet, a frame with the bytes after
it, or a refusal because the announced length is above the limit. -/
def decode (limit : Option Nat) (buffer : Bytes) : Except Nat (Option (StreamFrame × Bytes)) :=
  if 4 ≤ buffer.length then
    let len := ofBe (buffer.take 4)
    if limit.any (· < len) then
      .error len
    else if 4 + 8 + len ≤ buffer.length then
      let rest := buffer.drop 4
      .ok (some (⟨u64OfBe (rest.take 8), (rest.drop 8).take len⟩, (rest.drop 8).drop len))
    else
      .ok none
  else
    .ok none

structure Fits (limit : Option Nat) (frame : StreamFrame) : Prop where
  field : frame.ciphertext.length < 2 ^ 32
  within : ∀ max ∈ limit, frame.ciphertext.length ≤ max

variable {limit : Option Nat} {frame : StreamFrame}

theorem Fits.allowed (fits : frame.Fits limit) :
    ¬ (limit.any (· < frame.ciphertext.length) = true) := by
  cases limit with
  | none => simp
  | some max =>
    have within := fits.within max rfl
    simp only [Option.any_some, decide_eq_true_eq]
    omega

theorem decode_encode (fits : frame.Fits limit)
    (rest : Bytes) : decode limit (frame.encode ++ rest) = .ok (some (frame, rest)) := by
  have small := fits.field
  have field : (beBytes 4 frame.ciphertext.length).length = 4 := beBytes_length ..
  have eight := u64Be_length frame.counter
  have bytes : frame.encode ++ rest = beBytes 4 frame.ciphertext.length ++
      (u64Be frame.counter ++ (frame.ciphertext ++ rest)) := by
    simp only [encode, List.append_assoc]
  have front : (frame.encode ++ rest).take 4 = beBytes 4 frame.ciphertext.length := by
    rw [bytes]
    exact List.take_left' field
  have behind : (frame.encode ++ rest).drop 4 =
      u64Be frame.counter ++ (frame.ciphertext ++ rest) := by
    rw [bytes]
    exact List.drop_left' field
  have announced : ofBe (beBytes 4 frame.ciphertext.length) = frame.ciphertext.length :=
    ofBe_beBytes (by omega)
  have long : (frame.encode ++ rest).length = 4 + 8 + frame.ciphertext.length + rest.length := by
    rw [bytes]
    simp only [List.length_append, field, eight]
    omega
  have number : (u64Be frame.counter ++ (frame.ciphertext ++ rest)).take 8 = u64Be frame.counter :=
    List.take_left' eight
  have after : (u64Be frame.counter ++ (frame.ciphertext ++ rest)).drop 8 =
      frame.ciphertext ++ rest := List.drop_left' eight
  rw [decode, if_pos (by omega)]
  simp only [front, announced, if_neg fits.allowed]
  rw [if_pos (by omega), behind, number, after, u64OfBe_u64Be, List.take_left, List.drop_left]

theorem decode_some {buffer rest : Bytes} (taken : decode limit buffer = .ok (some (frame, rest))) :
    frame.Fits limit ∧ buffer = frame.encode ++ rest := by
  unfold decode at taken
  split at taken
  · rename_i four
    dsimp only at taken
    split at taken
    · cases taken
    · rename_i allowed
      split at taken
      · rename_i complete
        cases taken
        have announced := ofBe_lt (buffer.take 4)
        have width : (buffer.take 4).length = 4 := List.length_take_of_le four
        have length : (((buffer.drop 4).drop 8).take (ofBe (buffer.take 4))).length =
            ofBe (buffer.take 4) := by
          simp only [List.length_take, List.length_drop]
          omega
        have head : beBytes 4 (ofBe (buffer.take 4)) = buffer.take 4 := by
          have whole := beBytes_ofBe (buffer.take 4)
          rwa [width] at whole
        have number : u64Be (u64OfBe ((buffer.drop 4).take 8)) = (buffer.drop 4).take 8 := by
          have eight : ((buffer.drop 4).take 8).length = 8 := by
            simp only [List.length_take, List.length_drop]
            omega
          exact u64Be_u64OfBe eight
        refine ⟨⟨?_, ?_⟩, ?_⟩
        · rw [width] at announced
          dsimp only
          omega
        · rintro max ⟨⟩
          simp only [Option.any_some, decide_eq_true_eq] at allowed
          dsimp only
          omega
        · simp only [encode, length, head, number, List.append_assoc, List.take_append_drop]
      · cases taken
  · cases taken

end StreamFrame

def chainHash (sha384 : Bytes → Octets 48) (previous : Octets 48) (ciphertext : Bytes) : Octets 48 :=
  sha384 (previous.bytes ++ ciphertext)

/-- What reading a frame can end in besides a frame or the end of the stream. -/
inductive FrameError where
  | TooLarge (len : Nat)
  | Transport (reason : String)
  | Incomplete

structure StreamFrameReader where
  buffer : Bytes
  stream : List (Except String Bytes)

namespace StreamFrameReader

/-- One pass of the loop: a frame that is complete, or a refusal, or what comes of reading on. -/
def frameOr (limit : Option Nat) (buffer : Bytes) (stream : List (Except String Bytes))
    (readOn : Except FrameError (Option StreamFrame) × StreamFrameReader) :
    Except FrameError (Option StreamFrame) × StreamFrameReader :=
  match StreamFrame.decode limit buffer with
  | .error len => (.error (.TooLarge len), ⟨buffer, stream⟩)
  | .ok (some (frame, rest)) => (.ok (some frame), ⟨rest, stream⟩)
  | .ok none => readOn

/-- `StreamFrameReader::next_frame`; `none` is the end of the stream. -/
def nextFrame (limit : Option Nat) (buffer : Bytes) :
    List (Except String Bytes) → Except FrameError (Option StreamFrame) × StreamFrameReader
  | [] =>
    frameOr limit buffer []
      (if buffer.isEmpty then .ok none else .error .Incomplete, ⟨buffer, []⟩)
  | .ok chunk :: later =>
    frameOr limit buffer (.ok chunk :: later) (nextFrame limit (buffer ++ chunk) later)
  | .error reason :: later =>
    frameOr limit buffer (.error reason :: later) (.error (.Transport reason), ⟨buffer, later⟩)

theorem nextFrame_length {limit : Nat} {buffer : Bytes} {stream : List (Except String Bytes)}
    {frame : StreamFrame} (read : (nextFrame (some limit) buffer stream).1 = .ok (some frame)) :
    frame.ciphertext.length ≤ limit := by
  have passed : ∀ {buffer stream readOn}, (frameOr (some limit) buffer stream readOn).1 =
      .ok (some frame) → frame.ciphertext.length ≤ limit ∨ readOn.1 = .ok (some frame) := by
    intro buffer stream readOn found
    unfold frameOr at found
    split at found
    · cases found
    · rename_i taken
      cases found
      exact .inl ((StreamFrame.decode_some taken).1.within limit rfl)
    · exact .inr found
  induction stream generalizing buffer with
  | nil =>
    rcases passed read with within | ended
    · exact within
    · dsimp only at ended
      split at ended <;> cases ended
  | cons chunk later ih =>
    cases chunk with
    | ok chunk =>
      rcases passed read with within | more
      · exact within
      · exact ih more
    | error reason =>
      rcases passed read with within | failed
      · exact within
      · cases failed

end StreamFrameReader

end OpenHttpa.Core
