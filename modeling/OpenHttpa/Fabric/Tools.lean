import OpenHttpa.Core.Handshake
import OpenHttpa.Fabric.Versions
import OpenHttpa.Lib.Rego

/-!
# The tools of the memory fabric

`openhttpa-fabric/src/mcp_tools.rs`: `fabric_read` and `fabric_write`, which agents call with JSON
arguments. A write is put under the clock `mcp_agent`, with the time in whole seconds, and the
answer of the store is dropped: the tool says success whether the value was stored or not. The store
refuses a value whose clock is not ahead of the one it holds, so a value that is written in the
second of the one before, or after a replicated entry with a later clock, is not the one that is
read (`write_read_iff`).
-/
namespace OpenHttpa.Fabric

open OpenHttpa.Core Crypto Proto
open Rego (Value)

def fromUtf8 (bytes : Bytes) : Option String := String.fromUTF8? ⟨bytes.toArray⟩

theorem fromUtf8_utf8 (text : String) : fromUtf8 (utf8 text) = some text := dif_pos text.isValidUTF8

/-- A text among the arguments: `arguments.get(name).and_then(Value::as_str)`. -/
def textArgument (arguments : Value) (name : String) : Except String String :=
  match arguments.member name with
  | some (.string text) => .ok text
  | _ => .error ("Missing " ++ name)

def cellArgument (arguments : Value) : Except String (String × String) := do
  let nspace ← textArgument arguments "namespace"
  let key ← textArgument arguments "key"
  return (nspace, key)

variable (seconds : Int64)

/-- The time since the epoch in whole seconds; a time before it counts as none. -/
def timestamp : UInt64 := if seconds < 0 then 0 else seconds.toUInt64

/-- `json!({ "value": text })`. -/
def valueAnswer (text : String) : Value := .object [("value", .string text)]

/-- `json!({ "status": "success" })`. -/
def successAnswer : Value := .object [("status", .string "success")]

/-- A call of `fabric_write`: its arguments, the seconds of the clock, and the nonce its put draws. -/
structure WriteCall where
  arguments : Value
  seconds : Int64
  nonce : AeadNonce

def WriteCall.put (write : WriteCall) : Except String Put := do
  let (nspace, key) ← cellArgument write.arguments
  let value ← textArgument write.arguments "value"
  return ⟨nspace, key, utf8 value, .single "mcp_agent" (timestamp write.seconds), none, write.nonce⟩

def writeTool (enclave : Enclave) (store : KvStore) (write : WriteCall) :
    Except String Value × KvStore :=
  match write.put with
  | .error missing => (.error missing, store)
  | .ok call => (.ok successAnswer, (store.put enclave call).2)

def readTool (enclave : Enclave) (store : KvStore) (arguments : Value) : Except String Value := do
  let (nspace, key) ← cellArgument arguments
  match store.get enclave nspace key with
  | some data => .ok (valueAnswer ((fromUtf8 data).getD "[Binary Data]"))
  | none => .error "Key not found"

/-- A call of one of the two tools. -/
inductive ToolCall where
  | read (arguments : Value)
  | write (write : WriteCall)

namespace ToolCall

def after (enclave : Enclave) (store : KvStore) : ToolCall → KvStore
  | read _ => store
  | write call => (writeTool enclave store call).2

/-- The call writes the cell. -/
def Writes (tool : ToolCall) (cell : String × String) : Prop :=
  ∃ writeCall call, tool = write writeCall ∧ writeCall.put = .ok call ∧ call.cell = cell

end ToolCall

/-- No namespace is full. -/
def HasRoom (store : KvStore) (_ : ToolCall) : Prop :=
  ∀ nspace, (store.openNamespace nspace).size < 1000

/-- The clock is ahead of the stored one. -/
def Ahead (store : KvStore) (cell : String × String) (clock : UInt64) : Prop :=
  ∀ existing, store.entry cell = some existing → existing.version.get "mcp_agent" < clock

/-- No cell was written with a later clock of the tool. -/
def Behind (store : KvStore) (last : UInt64) : Prop :=
  ∀ cell existing, store.entry cell = some existing → existing.version.get "mcp_agent" ≤ last

def Ticking : UInt64 → List ToolCall → Prop
  | _, [] => True
  | last, .read _ :: rest => Ticking last rest
  | last, .write write :: rest =>
    last < timestamp write.seconds ∧ Ticking (timestamp write.seconds) rest

theorem VersionVector.get_single (node : String) (clock : UInt64) :
    (single node clock).get node = clock := by simp [get, single]

theorem VersionVector.single_le_iff {node : String} {clock : UInt64} {version : VersionVector} :
    (single node clock).Le version ↔ clock ≤ version.get node := by
  constructor
  · intro under
    have here := under node
    rw [get_single] at here
    exact here
  · intro under other
    by_cases same : other = node
    · rw [same, get_single]
      exact under
    · have absent : (single node clock).get other = 0 := by
        rw [get, single, Assoc.lookup_cons_of_ne same]
        rfl
      rw [absent]
      exact UInt64.zero_le

variable {write : WriteCall} {store : KvStore}

theorem WriteCall.put_eq {cell : String × String} {value : String}
    (addressed : cellArgument write.arguments = .ok cell)
    (valued : textArgument write.arguments "value" = .ok value) :
    write.put = .ok ⟨cell.1, cell.2, utf8 value, .single "mcp_agent" (timestamp write.seconds), none,
      write.nonce⟩ := by
  unfold WriteCall.put
  rw [addressed, valued]
  rfl

theorem ahead_iff {call : Put} {clock : UInt64} (version : call.version = .single "mcp_agent" clock) :
    Ahead store call.cell clock ↔ ¬ store.Dominated call := by
  unfold Ahead KvStore.Dominated
  rw [version]
  simp only [VersionVector.single_le_iff, not_exists, not_and, UInt64.not_le]
  rfl

theorem writeTool_ok {enclave : Enclave} {call : Put} (given : write.put = .ok call) :
    writeTool enclave store write = (.ok successAnswer, (store.put enclave call).2) := by
  unfold writeTool
  rw [given]

theorem writeTool_missing {enclave : Enclave}
    {missing : String} (lacking : write.put = .error missing) :
    writeTool enclave store write = (.error missing, store) := by
  unfold writeTool
  rw [lacking]

section Working

variable {enclave : Enclave} {limit : Nat} (works : enclave.Works limit) {masterKey : Octets 32}
  (derived : enclave.deriveMasterKey = .ok masterKey) {store : KvStore} {arguments : Value}
  {cell : String × String} {write : WriteCall}

theorem readTool_eq (asked : cellArgument arguments = .ok cell) :
    readTool enclave store arguments =
      match store.get enclave cell.1 cell.2 with
      | some data => .ok (valueAnswer ((fromUtf8 data).getD "[Binary Data]"))
      | none => .error "Key not found" := by
  unfold readTool
  rw [asked]
  rfl

theorem readTool_congr {other : KvStore}
    (asked : cellArgument arguments = .ok cell) (same : other.entry cell = store.entry cell) :
    readTool enclave other arguments = readTool enclave store arguments := by
  rw [readTool_eq asked, readTool_eq asked, KvStore.get_eq_bind, KvStore.get_eq_bind, same]

include works derived

theorem ToolCall.entry_after {tool : ToolCall}
    (room : HasRoom store tool) (other : ¬ tool.Writes cell) :
    (tool.after enclave store).entry cell = store.entry cell := by
  cases tool with
  | read arguments => rfl
  | write write =>
    change (writeTool enclave store write).2.entry cell = store.entry cell
    cases given : write.put with
    | error missing => rw [writeTool_missing given]
    | ok call =>
      rw [writeTool_ok given]
      dsimp only
      have apart : cell ≠ (call.nspace, call.key) :=
        fun same => other ⟨write, call, rfl, given, same.symm⟩
      have outcome := KvStore.put_outcome works derived (room call.nspace)
      generalize (store.put enclave call).1 = answer at outcome
      generalize (store.put enclave call).2.entry = entries at outcome ⊢
      cases outcome with
      | refused why => rfl
      | stored newer can sealed opened => exact Function.update_of_ne apart ..

theorem ToolCall.entry_run {tools : List ToolCall}
    (room : Along (ToolCall.after enclave) HasRoom store tools)
    (others : ∀ tool ∈ tools, ¬ tool.Writes cell) :
    (run (ToolCall.after enclave) store tools).entry cell =
      store.entry cell := by
  induction tools generalizing store with
  | nil => rfl
  | cons tool rest ih =>
    rw [run_cons, ih room.2 fun later member => others later (List.mem_cons_of_mem _ member)]
    exact ToolCall.entry_after works derived room.1 (others tool List.mem_cons_self)

theorem readTool_write {value : String} (addressed : cellArgument write.arguments = .ok cell)
    (valued : textArgument write.arguments "value" = .ok value) (room : HasRoom store (.write write))
    (asked : cellArgument arguments = .ok cell) :
    (Ahead store cell (timestamp write.seconds) ∧ (utf8 value).length ≤ limit) ∧
      readTool enclave (writeTool enclave store write).2 arguments = .ok (valueAnswer value) ∨
    ¬ (Ahead store cell (timestamp write.seconds) ∧ (utf8 value).length ≤ limit) ∧
      readTool enclave (writeTool enclave store write).2 arguments =
        readTool enclave store arguments := by
  have given := WriteCall.put_eq addressed valued
  rw [writeTool_ok given]
  dsimp only
  generalize shape : (⟨cell.1, cell.2, utf8 value, .single "mcp_agent" (timestamp write.seconds), none,
    write.nonce⟩ : Put) = call
  have data : call.data = utf8 value := by rw [← shape]
  have here : cell = call.cell := by rw [← shape]; rfl
  have version : call.version = .single "mcp_agent" (timestamp write.seconds) := by rw [← shape]
  have outcome := KvStore.put_outcome works derived (room call.nspace)
  rw [here, ahead_iff version, ← data]
  rw [here] at asked
  generalize (store.put enclave call).1 = answer at outcome
  generalize afterwards : (store.put enclave call).2 = after at outcome
  generalize entries : after.entry = found at outcome
  cases outcome with
  | refused why =>
    refine .inr ⟨fun can => why.elim can.1 fun long => long can.2, ?_⟩
    exact readTool_congr asked (congrFun entries _)
  | stored newer can sealed opened =>
    refine .inl ⟨⟨?_, can⟩, ?_⟩
    · rintro ⟨existing, held, under⟩
      exact newer existing held under
    · have found : after.entry (call.nspace, call.key) =
          some ⟨call.version, sealed, call.provenance⟩ := by
        rw [entries, Function.update_self]
      have read : after.get enclave call.cell.1 call.cell.2 = some (utf8 value) := by
        rw [← data, KvStore.get_eq derived]
        exact (congrArg (Option.bind · _) found).trans opened
      rw [readTool_eq asked, read]
      dsimp only
      rw [fromUtf8_utf8]
      rfl

theorem Behind.put {last : UInt64} {call : Put} (behind : Behind store last)
    (clock : call.version.get "mcp_agent" ≤ last)
    (room : (store.openNamespace call.nspace).size < 1000) :
    Behind (store.put enclave call).2 last := by
  have outcome := KvStore.put_outcome works derived room
  intro cell existing found
  generalize (store.put enclave call).1 = answer at outcome
  generalize (store.put enclave call).2.entry = entries at outcome found
  cases outcome with
  | refused why => exact behind cell existing found
  | stored newer can sealed opened =>
    by_cases same : cell = (call.nspace, call.key)
    · rw [same, Function.update_self] at found
      cases found
      exact clock
    · rw [Function.update_of_ne same] at found
      exact behind cell existing found

theorem Behind.after_write {last : UInt64} (behind : Behind store last)
    (ticks : last < timestamp write.seconds) (room : HasRoom store (.write write)) :
    Behind (writeTool enclave store write).2 (timestamp write.seconds) := by
  have before : Behind store (timestamp write.seconds) := fun cell existing found =>
    UInt64.le_trans (behind cell existing found) (UInt64.le_of_lt ticks)
  cases given : write.put with
  | error missing =>
    rw [writeTool_missing given]
    exact before
  | ok call =>
    have version : call.version = .single "mcp_agent" (timestamp write.seconds) := by
      unfold WriteCall.put at given
      obtain ⟨cell, -, given⟩ := bind_ok given
      obtain ⟨value, -, given⟩ := bind_ok given
      cases given
      rfl
    rw [writeTool_ok given]
    refine before.put works derived ?_ (room call.nspace)
    rw [version, VersionVector.get_single]
    exact UInt64.le_refl _

/-- **Read your writes.** Where every write is in a later second than the one before it, a value that
can be sealed is the one that is read until its cell is written again. -/
theorem read_your_writes {last : UInt64} (behind : Behind store last) {before middle : List ToolCall}
    (ticks : Ticking last (before ++ .write write :: middle)) {value : String}
    (addressed : cellArgument write.arguments = .ok cell)
    (valued : textArgument write.arguments "value" = .ok value) (fits : (utf8 value).length ≤ limit)
    (later : ∀ tool ∈ middle, ¬ tool.Writes cell)
    (room : Along (ToolCall.after enclave) HasRoom store (before ++ .write write :: middle))
    (asked : cellArgument arguments = .ok cell) :
    readTool enclave (run (ToolCall.after enclave) store (before ++ .write write :: middle)) arguments =
      .ok (valueAnswer value) := by
  induction before generalizing store last with
  | nil =>
    have ahead : Ahead store cell (timestamp write.seconds) := fun existing found =>
      UInt64.lt_of_le_of_lt (behind cell existing found) ticks.1
    rw [List.nil_append, run_cons, readTool_congr asked (ToolCall.entry_run works derived room.2 later)]
    rcases readTool_write works derived addressed valued room.1 asked with
      ⟨-, answer⟩ | ⟨cannot, -⟩
    · exact answer
    · exact absurd ⟨ahead, fits⟩ cannot
  | cons tool rest ih =>
    cases tool with
    | read arguments => exact ih behind ticks room.2
    | write earlier => exact ih (behind.after_write works derived ticks.1 room.1) ticks.2 room.2

/-- **Reading a write.** A write with all its arguments answers success. After it, and calls that do not
write to its cell, its value is read exactly if its clock was ahead and the value can be sealed, or if
that value was already read before it. -/
theorem write_read_iff (store : KvStore) (write : WriteCall) (cell : String × String) (value : String)
    (addressed : cellArgument write.arguments = .ok cell)
    (valued : textArgument write.arguments "value" = .ok value) (middle : List ToolCall)
    (later : ∀ tool ∈ middle, ¬ tool.Writes cell)
    (room : Along (ToolCall.after enclave) HasRoom store (.write write :: middle)) (arguments : Value)
    (asked : cellArgument arguments = .ok cell) :
    (writeTool enclave store write).1 = .ok successAnswer ∧
    (readTool enclave (run (ToolCall.after enclave) store (.write write :: middle)) arguments =
        .ok (valueAnswer value) ↔
      (Ahead store cell (timestamp write.seconds) ∧ (utf8 value).length ≤ limit) ∨
        readTool enclave store arguments = .ok (valueAnswer value)) := by
  refine ⟨by rw [writeTool_ok (WriteCall.put_eq addressed valued)], ?_⟩
  rw [run_cons, readTool_congr asked (ToolCall.entry_run works derived room.2 later)]
  change readTool enclave (writeTool enclave store write).2 arguments = _ ↔ _
  rcases readTool_write works derived addressed valued room.1 asked with
    ⟨can, answer⟩ | ⟨cannot, answer⟩
  · exact iff_of_true answer (.inl can)
  · rw [answer]
    exact ⟨.inr, fun either => either.resolve_left cannot⟩

end Working

def noteArguments (text : String) : Value :=
  .object [("key", .string "note"), ("namespace", .string "memory"), ("value", .string text)]

def noteWrite (text : String) : WriteCall := ⟨noteArguments text, 1, .zero 12⟩

/-- A write to another cell of the namespace. -/
def todoWrite : WriteCall where
  arguments :=
    .object [("key", .string "todo"), ("namespace", .string "memory"), ("value", .string "b")]
  seconds
  nonce := .zero 12

theorem todoWrite_other : ¬ (ToolCall.write (todoWrite seconds)).Writes ("memory", "note") := by
  rintro ⟨write, call, this, given, same⟩
  cases this
  cases given
  exact absurd (congrArg Prod.snd same) (show "todo" ≠ "note" by decide)

/-- The note came from another node, where it was written in the first second. -/
def replicatedPut : Put :=
  ⟨"memory", "note", utf8 "old", .single "mcp_agent" 1, none, .zero 12⟩

def replicatedStore : KvStore := (KvStore.new.put (.transparent 16) replicatedPut).2

theorem hasRoom_of_entries (roomy : ∀ ns ∈ store.namespaces.entries, ns.2.size < 1000) (tool : ToolCall) :
    HasRoom store tool := by
  intro nspace
  unfold KvStore.openNamespace
  cases found : store.namespaces.find nspace with
  | none => exact show 0 < 1000 by decide
  | some ns => exact roomy (nspace, ns) (Table.mem_entries.mpr found)

theorem replicatedStore_behind : Behind replicatedStore 1 := by
  have new : Behind .new 1 := by
    intro cell existing found
    cases found
  exact new.put (Enclave.transparent_works 16) rfl (by decide) (show 0 < 1000 by decide)

/-- The calls between a write of the note and the read of it. -/
def between : List ToolCall :=
  [.read (noteArguments ""), .write (todoWrite seconds)]

theorem between_others : ∀ tool ∈ between seconds, ¬ tool.Writes ("memory", "note") := by
  intro tool member
  rcases List.mem_pair.mp member with rfl | rfl
  · rintro ⟨write, call, same, -⟩
    cases same
  · exact todoWrite_other seconds

theorem newer_note_read :
    readTool (.transparent 16) (run (ToolCall.after (.transparent 16)) replicatedStore
      (.write { noteWrite "a" with seconds := 2 } :: between 2)) (noteArguments "") =
        .ok (valueAnswer "a") := by
  have ahead : Ahead replicatedStore ("memory", "note") 2 := fun existing found =>
    UInt64.lt_of_le_of_lt (replicatedStore_behind _ existing found) (by decide)
  have room : Along (ToolCall.after (.transparent 16)) HasRoom replicatedStore
      (.write { noteWrite "a" with seconds := 2 } :: between 2) :=
    ⟨hasRoom_of_entries (by decide +kernel) _, hasRoom_of_entries (by decide +kernel) _,
      hasRoom_of_entries (by decide +kernel) _, trivial⟩
  exact ((write_read_iff (Enclave.transparent_works 16) rfl replicatedStore
    { noteWrite "a" with seconds := 2 } ("memory", "note") "a" rfl rfl (between 2) (between_others 2)
    room (noteArguments "") rfl).2).mpr (.inl ⟨ahead, by decide +kernel⟩)

theorem note_read_back :
    readTool (.transparent 16) (run (ToolCall.after (.transparent 16)) replicatedStore
      (between 2 ++ .write { noteWrite "a" with seconds := 3 } :: between 4)) (noteArguments "") =
        .ok (valueAnswer "a") := by
  have ticks : Ticking 1 (between 2 ++ .write { noteWrite "a" with seconds := 3 } :: between 4) :=
    show 1 < timestamp 2 ∧ timestamp 2 < timestamp 3 ∧ timestamp 3 < timestamp 4 ∧ True by decide
  have room : Along (ToolCall.after (.transparent 16)) HasRoom replicatedStore
      (between 2 ++ .write { noteWrite "a" with seconds := 3 } :: between 4) :=
    ⟨hasRoom_of_entries (by decide +kernel) _, hasRoom_of_entries (by decide +kernel) _,
      hasRoom_of_entries (by decide +kernel) _, hasRoom_of_entries (by decide +kernel) _,
      hasRoom_of_entries (by decide +kernel) _, trivial⟩
  exact read_your_writes (Enclave.transparent_works 16) rfl replicatedStore_behind ticks rfl rfl
    (by decide +kernel) (between_others 4) room rfl

/-- A second text in the same second is answered with success, and the first is read. -/
theorem second_note_lost :
    (writeTool (.transparent 16) (writeTool (.transparent 16) .new (noteWrite "a")).2
      (noteWrite "b")).1 = .ok successAnswer ∧
    readTool (.transparent 16) (run (ToolCall.after (.transparent 16)) .new
      [.write (noteWrite "a"), .write (noteWrite "b")]) (noteArguments "") = .ok (valueAnswer "a") := by
  decide +kernel

end OpenHttpa.Fabric
