import OpenHttpa.Zk.Guest

/-!
# The journal on the host

`openhttpa-zk/src/lib.rs`, `prover.rs` and `verifier.rs`, in builds with the feature `zk`. The host
declares the journal once more, with the time of issue as one more field at the end. The guest does not
write it, and in a positional format nothing stands for a field that is not there: the reader of the host
comes to the end of every journal of the guest while it still expects the time
(`journal_not_extracted`), and so no receipt of the guest is ever accepted.
-/
namespace OpenHttpa.Zk

open OpenHttpa.Core Guest Positional

/-- `ZkOutput`, as the host declares it. -/
structure ZkOutput where
  mode : ZkMode
  transcriptHash : Octets 48
  isValid : Bool
  oraclePayloadHash : Octets 32
  vaiOutput : Option VaiOutput
  dcapVerified : Bool
  iat : UInt64
deriving DecidableEq

def zkOutput : Positional ZkOutput :=
  (zkMode.pair ((block 48).pair (Postcard.flag.pair ((block 32).pair
    (vaiOutput.optional.pair (Postcard.flag.pair Postcard.word64)))))).renamed {
    toFun out := (out.mode, out.transcriptHash, out.isValid, out.oraclePayloadHash, out.vaiOutput,
      out.dcapVerified, out.iat)
    invFun := fun (mode, transcriptHash, isValid, oraclePayloadHash, vaiOutput, dcapVerified, iat) =>
      ⟨mode, transcriptHash, isValid, oraclePayloadHash, vaiOutput, dcapVerified, iat⟩
    left_inv _ := rfl
    right_inv _ := rfl }

inductive ZkError where
  | Prover (message : String)
  | Verification (message : String)
  | Serialization (message : String)
deriving DecidableEq

/-- `ZkProver::extract_output`; `reason` is what `postcard` says of bytes it cannot read. -/
def extractOutput (words : WordCodec) (reason : Bytes → String) (journal : Bytes) :
    Except ZkError ZkOutput :=
  match words.read journal with
  | .error failure => .error (.Serialization failure)
  | .ok outBytes =>
    match zkOutput.read outBytes with
    | none => .error (.Serialization (reason outBytes))
    | some (output, _) => .ok output

/-- `ZkVerifier::verify`; `proof` is what the verification of the receipt says. -/
def verify (words : WordCodec) (reason : Bytes → String) (proof : Except String Unit)
    (journal : Bytes) (expectedTranscript : Octets 48) : Except ZkError ZkOutput := do
  proof.mapError .Verification
  let output ← extractOutput words reason journal
  if output.isValid = false then
    .error (.Verification "guest program reported invalid attestation")
  else if output.transcriptHash ≠ expectedTranscript then
    .error (.Verification "transcript hash mismatch in ZK proof")
  else
    .ok output

def issuedAt (output : Guest.ZkOutput) (iat : UInt64) : ZkOutput :=
  ⟨output.mode, output.transcriptHash, output.isValid, output.oraclePayloadHash, output.vaiOutput,
    output.dcapVerified, iat⟩

theorem read_journal (output : Guest.ZkOutput) (rest : Bytes) :
    zkOutput.read (Guest.zkOutput.write output ++ rest) =
      (Postcard.word64.read rest).map fun found => (issuedAt output found.1, found.2) := by
  have written : Guest.zkOutput.write output = zkMode.write output.mode ++
      ((block 48).write output.transcriptHash ++ (Postcard.flag.write output.isValid ++
        ((block 32).write output.oraclePayloadHash ++ (vaiOutput.optional.write output.vaiOutput ++
          Postcard.flag.write output.dcapVerified)))) := rfl
  rw [written]
  simp only [List.append_assoc]
  rw [zkOutput, read_renamed, zkMode_whole.read_pair, (block_whole 48).read_pair,
    Postcard.flag_whole.read_pair, (block_whole 32).read_pair, vaiOutput_whole.optional.read_pair,
    Postcard.flag_whole.read_pair]
  simp only [Option.map_map]
  rfl

variable {Certificate Key Signature : Type}

theorem main_written
    (prim : GuestPrimitives Certificate Key Signature) (words : WordCodec) (mock : Bool)
    (input : ZkInput) :
    main prim words mock (words.write (zkInput.write input)) =
      (execute prim mock input).map fun output => words.write (Guest.zkOutput.write output) := by
  have read : (zkInput.read (zkInput.write input)).map Prod.fst = some input := by
    rw [zkInput_whole.read_write]
    rfl
  unfold main
  rw [words.read_write]
  simp only [Except.mapError, bind, Except.bind, read, expect]
  cases execute prim mock input <;> rfl

variable {prim : GuestPrimitives Certificate Key Signature} {words : WordCodec} {mock : Bool}
  {stream journal : Bytes}

theorem main_ok (committed : main prim words mock stream = .ok journal) :
    ∃ input output, execute prim mock input = .ok output ∧
      journal = words.write (Guest.zkOutput.write output) := by
  obtain ⟨inputBytes, -, committed⟩ := bind_ok committed
  obtain ⟨input, -, committed⟩ := bind_ok committed
  obtain ⟨output, executed, committed⟩ := bind_ok committed
  cases committed
  exact ⟨input, output, executed, rfl⟩

theorem extractOutput_journal (words : WordCodec) (reason : Bytes → String)
    (output : Guest.ZkOutput) :
    extractOutput words reason (words.write (Guest.zkOutput.write output)) =
      .error (.Serialization (reason (Guest.zkOutput.write output))) := by
  have ended : zkOutput.read (Guest.zkOutput.write output) = none := by
    have read := read_journal output []
    rw [List.append_nil] at read
    exact read
  simp only [extractOutput, words.read_write, ended]

theorem extractOutput_issued (words : WordCodec) (reason : Bytes → String) (output : Guest.ZkOutput)
    (iat : UInt64) :
    extractOutput words reason
      (words.write (Guest.zkOutput.write output ++ Postcard.word64.write iat)) =
        .ok (issuedAt output iat) := by
  have timed : Postcard.word64.read (Postcard.word64.write iat) = some (iat, []) :=
    Postcard.word64_whole.read_write iat
  simp only [extractOutput, words.read_write, read_journal, timed, Option.map_some]

/-- **The journal.** From no journal that the guest commits is an output extracted: behind the bytes of
the journal the host expects the time of issue. With the time behind them, it would be the output that
the guest committed. -/
theorem journal_not_extracted {Certificate Key Signature : Type}
    (prim : GuestPrimitives Certificate Key Signature) (words : WordCodec) (mock : Bool)
    (reason : Bytes → String) (stream journal : Bytes)
    (committed : main prim words mock stream = .ok journal) :
    ∃ input output, execute prim mock input = .ok output ∧
      journal = words.write (Guest.zkOutput.write output) ∧
      extractOutput words reason journal =
        .error (.Serialization (reason (Guest.zkOutput.write output))) ∧
      ∀ iat, extractOutput words reason
        (words.write (Guest.zkOutput.write output ++ Postcard.word64.write iat)) =
          .ok (issuedAt output iat) := by
  obtain ⟨input, output, executed, rfl⟩ := main_ok committed
  exact ⟨input, output, executed, rfl, extractOutput_journal words reason output,
    extractOutput_issued words reason output⟩

/-- The provenance of an inference, with a whole quote. -/
def inference : ZkInput :=
  { compressed otherQuote with mode := .VerifiedAi, vaiData := some ⟨.zero 32, .zero 32, .zero 32⟩ }

theorem inference_journal :
    main Guest.plain .plain false (zkInput.write inference) =
      .ok (Guest.zkOutput.write (outputOf Guest.plain inference false)) := by
  have executed : execute Guest.plain false inference = .ok (outputOf Guest.plain inference false) := by
    decide +kernel
  have written := main_written Guest.plain .plain false inference
  rwa [executed] at written

/-- A proof of inference is not read back. -/
theorem inference_not_extracted :
    (outputOf Guest.plain inference false).vaiOutput.isSome = true ∧
      ∃ input output, execute Guest.plain false input = .ok output ∧
        Guest.zkOutput.write (outputOf Guest.plain inference false) = Guest.zkOutput.write output ∧
        extractOutput .plain (fun _ => "") (Guest.zkOutput.write
          (outputOf Guest.plain inference false)) = .error (.Serialization "") ∧
        ∀ iat, extractOutput .plain (fun _ => "")
          (Guest.zkOutput.write output ++ Postcard.word64.write iat) = .ok (issuedAt output iat) :=
  ⟨rfl, journal_not_extracted Guest.plain .plain false (fun _ => "") _ _ inference_journal⟩

/-- The journal of a compressed quote is not read back. -/
theorem journal_lost :
    ∃ journal, main Guest.plain .plain false (zkInput.write (compressed [])) = .ok journal ∧
      extractOutput .plain (fun _ => "") journal = .error (.Serialization "") :=
  ⟨_, main_written Guest.plain .plain false (compressed []), by decide +kernel⟩

theorem verify_refuses (reason : Bytes → String) (proof : Except String Unit)
    (expectedTranscript : Octets 48) (committed : main prim words mock stream = .ok journal) :
    ∃ failure, verify words reason proof journal expectedTranscript = .error failure := by
  obtain ⟨input, output, -, rfl⟩ := main_ok committed
  unfold verify
  rw [extractOutput_journal]
  cases proof with
  | error | ok => exact ⟨_, rfl⟩

end OpenHttpa.Zk
