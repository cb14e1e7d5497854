import OpenHttpa.Core.Wire

/-!
# Frames out of chunks

What the loop of `StreamFrameReader::next_frame` makes of a body that arrives in chunks. Between two
calls all that matters is the bytes that have not become frames yet, in the buffer or still to come:
`Next` says what one call can return and what it leaves of them. A body that is a row of frames is
read back however it was cut; on any other body the reader comes to a call that consumes nothing, and
every call after it is the same.
-/
namespace OpenHttpa.Core

namespace StreamFrame

variable {limit : Option Nat}

theorem decode_error_append {buffer : Bytes} {len : Nat} (refused : decode limit buffer = .error len)
    (more : Bytes) : decode limit (buffer ++ more) = .error len := by
  unfold decode at refused
  split at refused
  · rename_i four
    have front : (buffer ++ more).take 4 = buffer.take 4 := List.take_append_of_le_length four
    have long : 4 ≤ (buffer ++ more).length := by
      rw [List.length_append]
      omega
    dsimp only at refused
    split at refused
    · rename_i above
      cases refused
      rw [decode, if_pos long]
      simp only [front, if_pos above]
    · split at refused <;> cases refused
  · cases refused

theorem encode_ne_nil (frame : StreamFrame) : frame.encode ≠ [] := by
  intro empty
  have long := congrArg List.length empty
  simp only [encode, List.length_append, beBytes_length, List.length_nil] at long
  omega

theorem encode_append_inj {frame other : StreamFrame} {rest behind : Bytes} (fits : frame.Fits limit)
    (otherFits : other.Fits limit) (same : frame.encode ++ rest = other.encode ++ behind) :
    frame = other ∧ rest = behind := by
  have taken := decode_encode fits rest
  rw [same, decode_encode otherFits behind] at taken
  simpa [eq_comm] using taken

end StreamFrame

namespace StreamFrameReader

/-- The bytes of the chunks that arrive; a chunk that fails brings none. -/
def received (stream : List (Except String Bytes)) : Bytes :=
  stream.flatMap fun chunk => chunk.toOption.getD []

/-- The bytes that have not become frames, in the buffer or still to come. -/
def pending (reader : StreamFrameReader) : Bytes := reader.buffer ++ received reader.stream

/-- One call of `next_frame`. -/
def next (limit : Option Nat) (reader : StreamFrameReader) :
    Except FrameError (Option StreamFrame) × StreamFrameReader :=
  nextFrame limit reader.buffer reader.stream

/-- The results of a number of calls. -/
def reads (limit : Option Nat) : Nat → StreamFrameReader → List (Except FrameError (Option StreamFrame))
  | 0, _ => []
  | calls + 1, reader => (reader.next limit).1 :: reads limit calls (reader.next limit).2

variable {limit : Option Nat}

inductive Next (limit : Option Nat) (reader : StreamFrameReader) :
    Except FrameError (Option StreamFrame) → StreamFrameReader → Prop where
  | frame (frame : StreamFrame) (after : StreamFrameReader) (fits : frame.Fits limit)
      (taken : reader.pending = frame.encode ++ after.pending)
      (suffix : after.stream <:+ reader.stream) : Next limit reader (.ok (some frame)) after
  | failed (reason : String) (after : StreamFrameReader) (kept : after.pending = reader.pending)
      (suffix : .error reason :: after.stream <:+ reader.stream) :
      Next limit reader (.error (.Transport reason)) after
  | refused (len : Nat) (after : StreamFrameReader)
      (tooLarge : StreamFrame.decode limit after.buffer = .error len)
      (kept : after.pending = reader.pending) : Next limit reader (.error (.TooLarge len)) after
  | incomplete (after : StreamFrameReader) (cut : StreamFrame.decode limit reader.pending = .ok none)
      (left : reader.pending ≠ []) (kept : after = ⟨reader.pending, []⟩) :
      Next limit reader (.error .Incomplete) after
  | ended (after : StreamFrameReader) (nothing : reader.pending = []) (kept : after = ⟨[], []⟩) :
      Next limit reader (.ok none) after

variable {reader after : StreamFrameReader} {result : Except FrameError (Option StreamFrame)}

theorem Next.readOn {middle : StreamFrameReader} (next : middle.Next limit result after)
    (same : middle.pending = reader.pending) (suffix : middle.stream <:+ reader.stream) :
    reader.Next limit result after := by
  cases next with
  | frame frame _ fits taken later => exact .frame frame after fits (same ▸ taken) (later.trans suffix)
  | failed reason _ kept later => exact .failed reason after (kept.trans same) (later.trans suffix)
  | refused len _ tooLarge kept => exact .refused len after tooLarge (kept.trans same)
  | incomplete _ cut left kept => exact .incomplete after (same ▸ cut) (same ▸ left) (same ▸ kept)
  | ended _ nothing kept => exact .ended after (same ▸ nothing) kept

theorem frameOr_next {buffer : Bytes} {stream : List (Except String Bytes)}
    {readOn : Except FrameError (Option StreamFrame) × StreamFrameReader}
    (further : StreamFrame.decode limit buffer = .ok none →
      Next limit ⟨buffer, stream⟩ readOn.1 readOn.2) :
    Next limit ⟨buffer, stream⟩ (frameOr limit buffer stream readOn).1
      (frameOr limit buffer stream readOn).2 := by
  unfold frameOr
  cases decoded : StreamFrame.decode limit buffer with
  | error len => exact .refused len _ decoded rfl
  | ok found =>
    cases found with
    | none => exact further decoded
    | some found =>
      obtain ⟨frame, rest⟩ := found
      obtain ⟨fits, bytes⟩ := StreamFrame.decode_some decoded
      refine .frame frame _ fits ?_ (List.suffix_refl _)
      simp only [pending, bytes, List.append_assoc]

theorem nextFrame_next (limit : Option Nat) (buffer : Bytes) (stream : List (Except String Bytes)) :
    Next limit ⟨buffer, stream⟩ (nextFrame limit buffer stream).1
      (nextFrame limit buffer stream).2 := by
  induction stream generalizing buffer with
  | nil =>
    refine frameOr_next fun none => ?_
    by_cases empty : buffer = []
    · subst empty
      exact .ended _ rfl rfl
    · have full : buffer.isEmpty = false := by simpa using empty
      have all : pending ⟨buffer, []⟩ = buffer := List.append_nil buffer
      simp only [full, Bool.false_eq_true, if_false]
      refine .incomplete _ ?_ ?_ ?_
      · rw [all]
        exact none
      · rw [all]
        exact empty
      · rw [all]
  | cons chunk later ih =>
    cases chunk with
    | ok chunk =>
      refine frameOr_next fun _ => (ih (buffer ++ chunk)).readOn ?_ (List.suffix_cons _ _)
      simp [pending, received, Except.toOption]
    | error reason =>
      refine frameOr_next fun _ => .failed reason _ ?_ (List.suffix_refl _)
      simp [pending, received, Except.toOption]

theorem next_spec (limit : Option Nat) (reader : StreamFrameReader) :
    reader.Next limit (reader.next limit).1 (reader.next limit).2 :=
  nextFrame_next limit reader.buffer reader.stream

theorem Next.of_frame {frame : StreamFrame} {rest : Bytes}
    (next : reader.Next limit result after) (fits : frame.Fits limit)
    (front : reader.pending = frame.encode ++ rest) :
    (result = .ok (some frame) ∧ after.pending = rest ∧ after.stream <:+ reader.stream) ∨
      ∃ reason, result = .error (.Transport reason) ∧ after.pending = reader.pending ∧
        .error reason :: after.stream <:+ reader.stream := by
  have whole : StreamFrame.decode limit reader.pending = .ok (some (frame, rest)) := by
    rw [front]
    exact StreamFrame.decode_encode fits rest
  cases next with
  | frame other _ otherFits taken suffix =>
    obtain ⟨rfl, rfl⟩ := StreamFrame.encode_append_inj otherFits fits (taken.symm.trans front)
    exact .inl ⟨rfl, rfl, suffix⟩
  | failed reason _ kept suffix => exact .inr ⟨reason, rfl, kept, suffix⟩
  | refused len _ tooLarge kept =>
    have error := StreamFrame.decode_error_append tooLarge (received after.stream)
    rw [← kept] at whole
    cases error.symm.trans whole
  | incomplete _ cut _ _ => cases cut.symm.trans whole
  | ended _ nothing _ =>
    have empty := front.symm.trans nothing
    exact absurd (List.append_eq_nil_iff.mp empty).1 frame.encode_ne_nil

theorem Next.of_nil (next : reader.Next limit result after) (nothing : reader.pending = []) :
    (result = .ok none ∧ after = ⟨[], []⟩) ∨
      ∃ reason, result = .error (.Transport reason) ∧ after.pending = [] ∧
        .error reason :: after.stream <:+ reader.stream := by
  cases next with
  | frame frame _ _ taken _ =>
    have empty := taken.symm.trans nothing
    exact absurd (List.append_eq_nil_iff.mp empty).1 frame.encode_ne_nil
  | failed reason _ kept suffix => exact .inr ⟨reason, rfl, kept.trans nothing, suffix⟩
  | refused len _ tooLarge kept =>
    have empty : after.buffer = [] := (List.append_eq_nil_iff.mp (kept.trans nothing)).1
    rw [empty] at tooLarge
    cases tooLarge
  | incomplete _ _ left _ => exact absurd nothing left
  | ended _ _ kept => exact .inl ⟨rfl, kept⟩

theorem reads_ended (limit : Option Nat) (calls : Nat) :
    reads limit calls ⟨[], []⟩ = List.replicate calls (.ok none) := by
  induction calls with
  | zero => rfl
  | succ calls ih => exact congrArg (.ok none :: ·) ih

theorem reads_frames {frames : List StreamFrame} (fits : ∀ frame ∈ frames, frame.Fits limit)
    (arrive : ∀ reason, .error reason ∉ reader.stream)
    (body : reader.pending = frames.flatMap StreamFrame.encode) (more : Nat) :
    reads limit (frames.length + (1 + more)) reader =
      frames.map (fun frame => .ok (some frame)) ++ List.replicate (1 + more) (.ok none) := by
  induction frames generalizing reader with
  | nil =>
    have call := (next_spec limit reader).of_nil body
    rcases call with ⟨result, after⟩ | ⟨reason, -, -, suffix⟩
    · rw [List.length_nil, Nat.zero_add, Nat.add_comm, reads, result, after, reads_ended]
      rfl
    · exact absurd (suffix.subset List.mem_cons_self) (arrive reason)
  | cons frame later ih =>
    have call := (next_spec limit reader).of_frame (fits frame List.mem_cons_self) body
    rcases call with ⟨result, rest, suffix⟩ | ⟨reason, -, -, suffix⟩
    · have stay : ∀ reason, .error reason ∉ (reader.next limit).2.stream := fun reason within =>
        arrive reason (suffix.subset within)
      rw [List.length_cons, Nat.add_right_comm, reads, result,
        ih (fun other within => fits other (List.mem_cons_of_mem _ within)) stay rest]
      rfl
    · exact absurd (suffix.subset List.mem_cons_self) (arrive reason)

def afterCalls (limit : Option Nat) (calls : Nat) (reader : StreamFrameReader) : StreamFrameReader :=
  (fun reader => (reader.next limit).2)^[calls] reader

/-- The body is a sequence of whole frames. -/
def Framed (limit : Option Nat) (body : Bytes) : Prop :=
  ∃ frames : List StreamFrame, (∀ frame ∈ frames, frame.Fits limit) ∧
    body = frames.flatMap StreamFrame.encode

theorem Framed.cons {body : Bytes} (framed : Framed limit body) {frame : StreamFrame}
    (fits : frame.Fits limit) : Framed limit (frame.encode ++ body) := by
  obtain ⟨frames, allFit, rfl⟩ := framed
  exact ⟨frame :: frames, List.forall_mem_cons.mpr ⟨fits, allFit⟩, rfl⟩

theorem Next.framed (next : reader.Next limit result after)
    (framed : Framed limit after.pending) : Framed limit reader.pending := by
  cases next with
  | frame frame _ fits taken _ =>
    rw [taken]
    exact framed.cons fits
  | failed _ _ kept _ => exact kept ▸ framed
  | refused _ _ _ kept => exact kept ▸ framed
  | incomplete _ _ _ kept =>
    rw [kept] at framed
    rwa [pending, received, List.flatMap_nil, List.append_nil] at framed
  | ended _ nothing _ => exact ⟨[], by simp, nothing⟩

theorem framed_of_ended {calls : Nat}
    (ended : ((reader.afterCalls limit calls).next limit).1 = .ok none) :
    Framed limit reader.pending := by
  induction calls generalizing reader with
  | zero =>
    have call := next_spec limit reader
    rw [show (reader.next limit).1 = .ok none from ended] at call
    cases call with
    | ended _ nothing _ => exact ⟨[], by simp, nothing⟩
  | succ calls ih => exact (next_spec limit reader).framed (ih ended)

theorem ended_of_framed (framed : Framed limit reader.pending) :
    ∃ calls, ((reader.afterCalls limit calls).next limit).1 = .ok none := by
  obtain ⟨frames, fits, body⟩ := framed
  induction size : frames.length + reader.stream.length using Nat.strong_induction_on
    generalizing frames reader with
  | _ size ih =>
    have goOn : (∃ calls, (((reader.next limit).2.afterCalls limit calls).next limit).1 = .ok none) →
        ∃ calls, ((reader.afterCalls limit calls).next limit).1 = .ok none :=
      fun ⟨calls, ended⟩ => ⟨calls + 1, ended⟩
    have onFailure : ∀ {reason}, .error reason :: (reader.next limit).2.stream <:+ reader.stream →
        (reader.next limit).2.pending = reader.pending →
        ∃ calls, ((reader.afterCalls limit calls).next limit).1 = .ok none := by
      intro reason suffix kept
      have shorter := suffix.length_le
      rw [List.length_cons] at shorter
      exact goOn (ih _ (by omega) frames fits (kept.trans body) rfl)
    cases frames with
    | nil =>
      have call := (next_spec limit reader).of_nil body
      rcases call with ⟨result, -⟩ | ⟨reason, -, kept, suffix⟩
      · exact ⟨0, result⟩
      · exact onFailure suffix (kept.trans body.symm)
    | cons frame later =>
      have call := (next_spec limit reader).of_frame (fits frame List.mem_cons_self) body
      rcases call with ⟨-, rest, suffix⟩ | ⟨reason, -, kept, suffix⟩
      · have shorter := suffix.length_le
        rw [List.length_cons] at size
        exact goOn (ih _ (by omega) later
          (fun other within => fits other (List.mem_cons_of_mem _ within)) rest rfl)
      · exact onFailure suffix kept

theorem ended_iff_framed :
    (∃ calls, ((reader.afterCalls limit calls).next limit).1 = .ok none) ↔
      Framed limit reader.pending :=
  ⟨fun ⟨_, ended⟩ => framed_of_ended ended, ended_of_framed⟩

end StreamFrameReader

section Unfold

variable {Stream Item : Type}

/-- The state `stream::unfold` holds before a poll; each poll finds the world in a moment of its own. -/
def unfoldState (poll : Nat → Stream → Option Item × Stream) (start : Stream) : Nat → Stream
  | 0 => start
  | polls + 1 => (poll polls (unfoldState poll start polls)).2

/-- What `stream::unfold` yields at a poll. -/
def unfold (poll : Nat → Stream → Option Item × Stream) (start : Stream) (polls : Nat) : Option Item :=
  (poll polls (unfoldState poll start polls)).1

/-- The items come to an end. -/
def Finishes (items : Nat → Option Item) : Prop :=
  ∃ count, (∀ earlier < count, items earlier ≠ none) ∧ items count = none

theorem finishes_iff {items : Nat → Option Item} : Finishes items ↔ ∃ count, items count = none := by
  classical
  constructor
  · rintro ⟨count, -, ended⟩
    exact ⟨count, ended⟩
  · intro ended
    exact ⟨Nat.find ended, fun earlier before => Nat.find_min ended before, Nat.find_spec ended⟩

theorem unfold_finishes_iff {limit : Option Nat} {poll : Nat → Stream → Option Item × Stream}
    (reader : Stream → StreamFrameReader)
    (moves : ∀ moment stream, reader (poll moment stream).2 = ((reader stream).next limit).2)
    (ends : ∀ moment stream,
      (poll moment stream).1 = none ↔ ((reader stream).next limit).1 = .ok none)
    (start : Stream) :
    Finishes (unfold poll start) ↔ StreamFrameReader.Framed limit (reader start).pending := by
  have follows : ∀ polls,
      reader (unfoldState poll start polls) = (reader start).afterCalls limit polls := by
    intro polls
    induction polls with
    | zero => rfl
    | succ polls ih =>
      rw [unfoldState, moves, ih, StreamFrameReader.afterCalls, StreamFrameReader.afterCalls,
        Function.iterate_succ_apply']
  rw [finishes_iff, ← StreamFrameReader.ended_iff_framed]
  refine exists_congr fun polls => ?_
  rw [unfold, ends, follows]

end Unfold

end OpenHttpa.Core
