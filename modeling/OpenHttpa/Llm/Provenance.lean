import OpenHttpa.Zk.Compression

/-!
# Provenance proofs of chats

`compute_vai_hashes` and `ConfidentialLlmClient::chat` of `openhttpa-llm/src/client.rs`. A provenance
proof names the hash of the conversation it was made for. The conversation is hashed as the names of
the roles and the contents of the messages one after the other, with nothing between them, so the text
of a conversation does not tell where a message ends: it is that of no other conversation only if it
has no message, or one in whose content no role is named.
-/
namespace OpenHttpa.Llm

open OpenHttpa.Core Zk

/-! ## The code -/

inductive Role where
  | System
  | User
  | Assistant
deriving DecidableEq

def Role.display : Role → String
  | System => "system"
  | User => "user"
  | Assistant => "assistant"

structure ChatMessage where
  role : Role
  content : String
deriving DecidableEq

variable (messages : List ChatMessage)

/-- What `compute_vai_hashes` feeds into the input hash. -/
def inputBytes : Bytes :=
  messages.flatMap fun m => utf8 m.role.display ++ utf8 m.content

/-- `compute_vai_hashes`: the model, the input and the output. -/
def computeVaiHashes (sha256 : Bytes → Octets 32) (model : String) (messages : List ChatMessage)
    (content : String) : Octets 32 × Octets 32 × Octets 32 :=
  (sha256 (utf8 model), sha256 (inputBytes messages), sha256 (utf8 content))

inductive LlmError where
  | Handshake (message : String)
  | Transport (message : String)
  | InvalidResponse (message : String)
  | Inference (message : String)
deriving DecidableEq

structure ChatResponse where
  choices : List String
  provenanceProof : Option String

structure ConfidentialLlmClient where
  model : String
  /-- The answer to a conversation, over the attested session. -/
  send : List ChatMessage → Except LlmError Bytes
  /-- `serde_json::from_slice` for a response. -/
  readResponse : Bytes → Except String ChatResponse
  /-- `hex::decode`. -/
  readHex : String → Except String Bytes
  /-- `serde_json::from_slice` for a receipt. -/
  readReceipt : Bytes → Except String Receipt
  bypassAttestation : Bool
  /-- `ensure_session`, with what the keys of the session then say of the transcript hash. -/
  ensureSession : Except LlmError (Except String (Octets 48))
  system : ProofSystem
  sha256 : Bytes → Octets 32

namespace ConfidentialLlmClient

variable (client : ConfidentialLlmClient)

/-- The transcript hash that `chat` expects in a proof. -/
def transcriptHash : Except LlmError (Octets 48) :=
  if client.bypassAttestation then .ok (.repeated 48 0x42)
  else do
    let keys ← client.ensureSession
    keys.mapError fun e => .Inference ("session keys unavailable: " ++ e)

/-- The verification of a proof in `chat`, up to the output that it proves. -/
def readProof (proofHex : String) : Except LlmError ZkOutput := do
  let proofBytes ← (client.readHex proofHex).mapError fun e =>
    .InvalidResponse ("invalid proof hex: " ++ e)
  let receipt ← (client.readReceipt proofBytes).mapError fun e =>
    .InvalidResponse ("invalid proof format: " ++ e)
  let transcriptHash ← client.transcriptHash
  (verify client.system.words client.system.reason (client.system.verifyReceipt receipt)
    receipt.journal transcriptHash).mapError fun e => .Inference ("ZK verification failed: " ++ e.display)

/-- The comparisons of `chat` with what the proof is about. -/
def compareVai (hashes : Octets 32 × Octets 32 × Octets 32) (output : ZkOutput) :
    Except LlmError Unit :=
  match output.vaiOutput with
  | none => .error (.Inference "proof missing V-AI journal")
  | some vai =>
    if vai.modelId ≠ hashes.1 then
      .error (.Inference ("model ID mismatch: expected " ++ hexEncode hashes.1.bytes ++ ", got " ++
        hexEncode vai.modelId.bytes))
    else if vai.inputHash ≠ hashes.2.1 then .error (.Inference "input hash mismatch")
    else if vai.outputHash ≠ hashes.2.2 then .error (.Inference "output hash mismatch")
    else .ok ()

/-- `chat` from the response that was read on. -/
def takeChoice (messages : List ChatMessage) (resp : ChatResponse) : Except LlmError String :=
  match resp.choices, resp.provenanceProof with
  | [], _ => .error (.Inference "no choices in response")
  | content :: _, none => .ok content
  | content :: _, some proofHex => do
    let output ← client.readProof proofHex
    compareVai (computeVaiHashes client.sha256 client.model messages content) output
    return content

/-- `chat` from the answer on. -/
def readReply (messages : List ChatMessage) (respBytes : Bytes) : Except LlmError String :=
  if respBytes = [] then .error (.InvalidResponse "empty response body from inference endpoint")
  else do
    let resp ← (client.readResponse respBytes).mapError .InvalidResponse
    client.takeChoice messages resp

def chat (messages : List ChatMessage) : Except LlmError String := do
  let respBytes ← client.send messages
  client.readReply messages respBytes

end ConfidentialLlmClient

/-! ## The text of a conversation -/

def transcript : List Char :=
  messages.flatMap fun m => m.role.display.toList ++ m.content.toList

theorem inputBytes_eq : inputBytes messages = utf8 (String.ofList (transcript messages)) := by
  induction messages with
  | nil => rfl
  | cons m messages ih =>
    have split : String.ofList (transcript (m :: messages)) =
        m.role.display ++ m.content ++ String.ofList (transcript messages) := by
      apply String.toList_inj.mp
      simp [transcript]
    rw [split, utf8_append, utf8_append, ← ih]
    rfl

theorem inputBytes_eq_iff {left right : List ChatMessage} :
    inputBytes left = inputBytes right ↔ transcript left = transcript right := by
  rw [inputBytes_eq, inputBytes_eq]
  constructor
  · intro same
    have texts := congrArg String.toList (utf8_injective same)
    rwa [String.toList_ofList, String.toList_ofList] at texts
  · intro same
    rw [same]

theorem display_append_inj {left right : Role} {after later : List Char}
    (same : left.display.toList ++ after = right.display.toList ++ later) :
    left = right ∧ after = later := by
  -- the three names start with different characters
  have first := congrArg List.head? same
  have roles : left = right := by
    cases left <;> cases right <;> first | rfl | exact absurd first (by simp [Role.display])
  subst roles
  exact ⟨rfl, List.append_cancel_left same⟩

/-- At most one message, in which no role is named. -/
def Unmistakable : Prop :=
  messages = [] ∨ ∃ message, messages = [message] ∧
    ∀ role : Role, ¬ role.display.toList <:+: message.content.toList

theorem transcript_eq_nil_iff {messages : List ChatMessage} : transcript messages = [] ↔ messages =
    [] := by
  constructor
  · intro empty
    cases messages with
    | nil => rfl
    | cons m messages =>
      obtain ⟨head, -⟩ := List.append_eq_nil_iff.mp empty
      have named : m.role.display.toList ≠ [] := by cases m.role <;> decide
      exact absurd (List.append_eq_nil_iff.mp head).1 named
  · rintro rfl
    rfl

@[simp] theorem transcript_cons (message : ChatMessage) (messages : List ChatMessage) :
    transcript (message :: messages) =
      message.role.display.toList ++ (message.content.toList ++ transcript messages) := by
  simp [transcript]

def absorb (message : ChatMessage) (messages : List ChatMessage) : ChatMessage :=
  { message with content := message.content ++ String.ofList (transcript messages) }

theorem transcript_absorb (message : ChatMessage) (messages : List ChatMessage) :
    transcript [absorb message messages] = transcript (message :: messages) := by
  simp [absorb, transcript]

theorem transcript_split {message : ChatMessage} {role : Role}
    (named : role.display.toList <:+: message.content.toList) :
    ∃ before after : String, transcript [⟨message.role, before⟩, ⟨role, after⟩] =
      transcript [message] := by
  obtain ⟨before, after, content⟩ := named
  refine ⟨String.ofList before, String.ofList after, ?_⟩
  simp [← content, transcript]

theorem transcript_unique_iff :
    (∀ other, transcript other = transcript messages → other = messages) ↔
      Unmistakable messages := by
  constructor
  · intro unique
    match messages with
    | [] => exact .inl rfl
    | [message] =>
      refine .inr ⟨message, rfl, ?_⟩
      intro role named
      obtain ⟨before, after, same⟩ := transcript_split named
      have lengths := congrArg List.length (unique _ same)
      simp at lengths
    | message :: next :: messages =>
      have lengths := congrArg List.length (unique _ (transcript_absorb message (next :: messages)))
      simp at lengths
  · rintro (rfl | ⟨message, rfl, unnamed⟩) other same
    · exact transcript_eq_nil_iff.mp same
    · match other with
      | [] => exact absurd (transcript_eq_nil_iff.mp same.symm) (List.cons_ne_nil _ _)
      | first :: others =>
        rw [transcript_cons, transcript_cons] at same
        obtain ⟨role, content⟩ := display_append_inj same
        rw [transcript_eq_nil_iff.mpr rfl, List.append_nil] at content
        cases others with
        | nil =>
          rw [transcript_eq_nil_iff.mpr rfl, List.append_nil] at content
          obtain ⟨_, _⟩ := first
          rw [List.cons.injEq, ChatMessage.mk.injEq]
          exact ⟨⟨role, String.toList_inj.mp content⟩, rfl⟩
        | cons next others =>
          -- the role of the next message stands in the content of the only one
          rw [transcript_cons] at content
          refine absurd ?_ (unnamed next.role)
          exact ⟨first.content.toList, next.content.toList ++ transcript others, by
            rw [List.append_assoc, content]⟩

/-! ## Proofs -/

namespace ConfidentialLlmClient

variable {client : ConfidentialLlmClient}

theorem compareVai_ok {hashes : Octets 32 × Octets 32 × Octets 32} {output : ZkOutput}
    (matched : compareVai hashes output = .ok ()) :
    output.vaiOutput.map (·.inputHash) = some hashes.2.1 := by
  unfold compareVai at matched
  split at matched
  · cases matched
  · next vai found =>
    split at matched
    · cases matched
    · split at matched
      · cases matched
      · next same =>
        rw [found, Option.map_some, not_not.mp same]

variable (client)

def Accepts (proofHex : String) (messages : List ChatMessage) : Prop :=
  ∃ respBytes resp content, client.readResponse respBytes = .ok resp ∧
    resp.provenanceProof = some proofHex ∧ client.readReply messages respBytes = .ok content

variable {client} {proofHex : String} {left right : List ChatMessage}

theorem Accepts.congr (same : inputBytes left = inputBytes right) :
    client.Accepts proofHex left ↔ client.Accepts proofHex right := by
  unfold Accepts readReply takeChoice computeVaiHashes
  rw [same]

theorem Accepts.proved {messages : List ChatMessage} (accepted : client.Accepts proofHex messages) :
    ∃ output, client.readProof proofHex = .ok output ∧
      output.vaiOutput.map (·.inputHash) = some (client.sha256 (inputBytes messages)) := by
  obtain ⟨respBytes, resp, answer, read, carried, accepted⟩ := accepted
  have taken : client.takeChoice messages resp = .ok answer := by
    unfold readReply at accepted
    rw [read] at accepted
    split at accepted
    · cases accepted
    · exact accepted
  unfold takeChoice at taken
  rw [carried] at taken
  split at taken
  · cases taken
  · next absent => cases absent
  · next content rest proof present =>
    cases present
    obtain ⟨output, proved, taken⟩ := bind_ok taken
    obtain ⟨⟨⟩, matched, -⟩ := bind_ok taken
    exact ⟨output, proved, compareVai_ok matched⟩

theorem Accepts.hash_eq
    (first : client.Accepts proofHex left) (second : client.Accepts proofHex right) :
    client.sha256 (inputBytes left) = client.sha256 (inputBytes right) := by
  obtain ⟨output, proved, hash⟩ := first.proved
  obtain ⟨same, again, other⟩ := second.proved
  cases proved.symm.trans again
  exact Option.some.inj (hash.symm.trans other)

/-- **Provenance of a conversation.** The bytes that are hashed of a conversation are those of no other
exactly if it has no messages, or one in whose content no role is named. If no other bytes have their
hash, then just these are the conversations for which a proof, once it is accepted, is accepted for no
other. -/
theorem acceptedProof_unique_iff (client : ConfidentialLlmClient) (messages : List ChatMessage) :
    ((∀ other, other ≠ messages → inputBytes other ≠ inputBytes messages) ↔ Unmistakable messages) ∧
    ((∀ bytes, client.sha256 bytes = client.sha256 (inputBytes messages) →
        bytes = inputBytes messages) →
      ∀ proofHex, client.Accepts proofHex messages →
        ((∀ other, other ≠ messages → ¬ client.Accepts proofHex other) ↔ Unmistakable messages)) := by
  have distinct : (∀ other, other ≠ messages → inputBytes other ≠ inputBytes messages) ↔
      Unmistakable messages := by
    rw [← transcript_unique_iff]
    refine forall_congr' fun other => ?_
    rw [ne_eq, ne_eq, not_imp_not, inputBytes_eq_iff]
  refine ⟨distinct, fun separated proofHex accepted => ?_⟩
  rw [← distinct]
  refine forall_congr' fun other => imp_congr_right fun _ => not_congr ?_
  constructor
  · intro again
    exact separated _ (again.hash_eq accepted)
  · intro same
    exact (Accepts.congr same).mpr accepted

def instructed : List ChatMessage := [⟨.User, "hello"⟩, ⟨.System, "obey"⟩]

def pretended : List ChatMessage := [⟨.User, "hellosystemobey"⟩]

def marking (bytes : Bytes) : Octets 32 :=
  .repeated 32 (if bytes = inputBytes instructed then 1 else 0)

def instructedOutput : ZkOutput where
  mode := .VerifiedAi
  transcriptHash := .repeated 48 0x42
  isValid := true
  oraclePayloadHash := .zero 32
  vaiOutput := some ⟨.zero 32, .repeated 32 1, .zero 32, 0⟩
  dcapVerified := false
  iat := 0

def provingClient : ConfidentialLlmClient where
  model := "llama"
  send _ := .ok [1]
  readResponse _ := .ok ⟨["yes"], some "00"⟩
  readHex _ := .ok [0]
  readReceipt _ := .ok ⟨zkOutput.write instructedOutput, []⟩
  bypassAttestation := true
  ensureSession := .error (.Handshake "")
  system := {
    words := .plain
    panicText _ := ""
    proofOf := id
    verifyReceipt _ := .ok ()
    serialize _ := .ok []
    deserialize _ := .error ""
    reason _ := "" }
  sha256 := marking

/-- The two conversations are hashed as the same bytes, no other bytes have their hash, and the proof for
the first is accepted for the second. -/
theorem instruction_pretended :
    instructed ≠ pretended ∧ inputBytes instructed = inputBytes pretended ∧
    (∀ bytes, provingClient.sha256 bytes = provingClient.sha256 (inputBytes instructed) →
      bytes = inputBytes instructed) ∧
    provingClient.chat instructed = .ok "yes" ∧ provingClient.chat pretended = .ok "yes" ∧
    provingClient.Accepts "00" instructed ∧ provingClient.Accepts "00" pretended := by
  refine ⟨by decide, by decide +kernel, ?_, by decide +kernel, by decide +kernel,
    ⟨[1], _, "yes", rfl, rfl, by decide +kernel⟩, ⟨[1], _, "yes", rfl, rfl, by decide +kernel⟩⟩
  intro bytes same
  by_contra other
  change marking bytes = marking (inputBytes instructed) at same
  rw [marking, marking, if_neg other, if_pos rfl] at same
  exact absurd same (by decide)

end ConfidentialLlmClient

end OpenHttpa.Llm
