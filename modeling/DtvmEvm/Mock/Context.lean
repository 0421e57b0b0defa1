import DtvmEvm.Basic

/-!
# `DtvmEvm.Mock.Context`: the mock host's state

`MockContext` (`evm_example/src/mock_context.rs`) derives `Clone`, and five of its fields are
`Rc<RefCell<..>>`: storage, return data, execution status, events and the contract
registry. A clone copies the plain fields and shares the five cells. The mock host builds
every child frame as a clone of its parent, so all frames of one run share one copy of each
cell. `Cells` holds their contents, and a child frame gives its cells back to its parent.

Every write to a cell is one `Event`, and `Cells.record` applies it and appends it to
`history`. `history` is not a field of the Rust struct: it is the sequence of writes of the
whole run, across frames, in execution order, which the run theorems speak about. No method
reads it. `Event.frameStarted` changes no cell; it marks each frame the executor
instantiates, with the fields and gas budget it gets.

Storage keys are `format!("0x{}", hex::encode(key))` (`storageKey`), and a load copies at
most 32 bytes of the stored value into a zero word (`storageLoadValue`). The mock's
external-account queries return constants, copied here from the source.
-/

set_option autoImplicit false

namespace DtvmEvm

/-- `ContractInfo`: a registry entry. -/
structure ContractInfo where
  name : String
  code : Bytes
deriving DecidableEq

/-- `BlockInfo`. -/
structure BlockInfo where
  number : BitVec 64
  timestamp : BitVec 64
  gasLimit : BitVec 64
  coinbase : Address
  prevRandao : Word
  baseFee : Word
  blobBaseFee : Word
  hash : Word
deriving DecidableEq

/-- `TransactionInfo`. `gasLimit` is the budget the executor gives every instance. -/
structure TransactionInfo where
  origin : Address
  gasPrice : Word
  gasLimit : BitVec 64
deriving DecidableEq

/-- `n` zero bytes followed by `tail`, as a fixed-size array. -/
def FixedBytes.padLeft (n : Nat) (tail : List UInt8) (h : tail.length ≤ n) : FixedBytes n :=
  ⟨List.replicate (n - tail.length) 0 ++ tail, by simp; omega⟩

/-- `n` bytes that are zero except for `head` at the start. -/
def FixedBytes.withHead (n : Nat) (head : List UInt8) (h : head.length ≤ n) : FixedBytes n :=
  ⟨head ++ List.replicate (n - head.length) 0, by simp; omega⟩

/-- `BlockInfo::default()`. -/
def BlockInfo.default : BlockInfo where
  number := 12345
  timestamp := 1234567890
  gasLimit := 1000000
  coinbase := .withHead 20 [0x02] (by decide)
  prevRandao := .withHead 32 [0x01] (by decide)
  baseFee := .padLeft 32 [1] (by decide)
  blobBaseFee := .padLeft 32 [1] (by decide)
  hash := .withHead 32 [0x06] (by decide)

/-- `TransactionInfo::default()`. -/
def TransactionInfo.default : TransactionInfo where
  origin := .withHead 20 [0x03] (by decide)
  gasPrice := .padLeft 32 [2] (by decide)
  gasLimit := 100

/-- `hex::encode`: two lowercase hex digits per byte. -/
def hexEncode (bytes : List UInt8) : String :=
  String.mk (bytes.flatMap fun b => [Nat.digitChar (b.toNat / 16), Nat.digitChar (b.toNat % 16)])

/-- The storage key of the mock: `format!("0x{}", hex::encode(key))`. -/
def storageKey (key : Word) : String :=
  "0x" ++ hexEncode key.bytes

/-- `storage_load`'s result for a stored value: the first `min(len, 32)` bytes over a zero
word; the zero word when the key is absent. -/
def storageLoadValue (storage : String → Option Bytes) (key : Word) : Word :=
  let value := (storage (storageKey key)).getD (List.replicate 32 0)
  ⟨value.take (min value.length 32) ++ List.replicate (32 - min value.length 32) 0,
    by simp only [List.length_append, List.length_take, List.length_replicate]; omega⟩

/-- One write to the shared cells, or the start of a frame. -/
inductive Event where
  | frameStarted (address caller : Address) (callValue : Word) (callData code : Bytes)
      (gasBudget : Nat)
  | storageStored (key value : Word)
  | logEmitted (event : LogEvent)
  | finished (data : Bytes)
  | reverted (data : Bytes)
  | invalidated
  | returnDataSet (data : Bytes)
  | contractRegistered (address : Address) (info : ContractInfo)
deriving DecidableEq

/-- The contents of the `Rc<RefCell<..>>` fields, and the history of their writes. -/
structure Cells where
  storage : String → Option Bytes
  returnData : Bytes
  executionStatus : Option Bool
  events : List LogEvent
  contractRegistry : Address → Option ContractInfo
  history : List Event

/-- The effect of one event on the cells; `history` is left alone. -/
def Cells.apply (c : Cells) : Event → Cells
  | .frameStarted .. => c
  | .storageStored key value =>
    { c with storage := fun k => if k = storageKey key then some value.bytes else c.storage k }
  | .logEmitted event => { c with events := c.events ++ [event] }
  | .finished data => { c with returnData := data, executionStatus := some true }
  | .reverted data => { c with returnData := data, executionStatus := some false }
  | .invalidated => { c with executionStatus := some false }
  | .returnDataSet data => { c with returnData := data, executionStatus := some true }
  | .contractRegistered address info =>
    { c with contractRegistry := fun a => if a = address then some info else c.contractRegistry a }

/-- Apply an event and append it to the history. -/
def Cells.record (c : Cells) (e : Event) : Cells :=
  { c.apply e with history := c.history ++ [e] }

/-- `MockContext`: the fields a clone copies, and the shared cells. -/
structure MockContext where
  contractCode : Bytes
  callData : Bytes
  address : Address
  caller : Address
  callValue : Word
  chainId : Word
  blockInfo : BlockInfo
  txInfo : TransactionInfo
  cells : Cells

/-- Empty cells: what `MockContextBuilder::build` creates for storage, return data, status,
events and registry. -/
def Cells.empty : Cells where
  storage := fun _ => none
  returnData := []
  executionStatus := none
  events := []
  contractRegistry := fun _ => none
  history := []

/-- `MockContext::builder().with_code(code).build()`: the builder's default fields. -/
def MockContext.build (code : Bytes) : MockContext where
  contractCode := code
  callData := [0xf8, 0xa8, 0xfd, 0x6d]
  address := .withHead 20 [0x05] (by decide)
  caller := .withHead 20 [0x04] (by decide)
  callValue := .zero 32
  chainId := .withHead 32 [0x07] (by decide)
  blockInfo := .default
  txInfo := .default
  cells := .empty

namespace MockContext

variable (self : MockContext)

/-- Record a write to the shared cells. -/
def record (e : Event) : MockContext := { self with cells := self.cells.record e }

/-- The balance the mock reports for every account: 1000 in the low bytes. -/
def mockBalance : Word := .padLeft 32 [0x03, 0xe8] (by decide)

/-- The hash the mock reports for every block: `0xab`, zeros, `0xcd`. -/
def mockBlockHash : Word := ⟨0xab :: List.replicate 30 0 ++ [0xcd], by simp⟩

/-- The code hash the mock reports for every account: `0xde`, zeros, `0xad`. -/
def mockCodeHash : Word := ⟨0xde :: List.replicate 30 0 ++ [0xad], by simp⟩

/-- `EvmHost::finish`. -/
def finish (data : Bytes) : MockContext := self.record (.finished data)

/-- `EvmHost::revert`. -/
def revert (data : Bytes) : MockContext := self.record (.reverted data)

/-- `EvmHost::invalid`: marks the status `Some(false)` and keeps the return data. -/
def invalid : MockContext := self.record .invalidated

/-- `MockContext::set_return_data`: the data, and the status `Some(true)`. -/
def setReturnData (data : Bytes) : MockContext := self.record (.returnDataSet data)

/-- `EvmHost::emit_log_event`. -/
def emitLogEvent (event : LogEvent) : MockContext := self.record (.logEmitted event)

/-- `EvmHost::storage_store`. -/
def storageStore (key value : Word) : MockContext := self.record (.storageStored key value)

/-- `EvmHost::storage_load`. -/
def storageLoad (key : Word) : Word := storageLoadValue self.cells.storage key

/-- `MockContext::register_contract`, through a clone: the registry is shared. -/
def registerContract (address : Address) (name : String) (code : Bytes) : MockContext :=
  self.record (.contractRegistered address { name, code })

/-- `MockContext::get_contract_info`. -/
def getContractInfo (address : Address) : Option ContractInfo :=
  self.cells.contractRegistry address

/-- `MockContext::is_reverted`: the status is `Some(false)`. -/
def isReverted : Bool := self.cells.executionStatus == some false

/-- `MockContext::has_return_data`. -/
def hasReturnData : Bool := !self.cells.returnData.isEmpty

/-- `MockContext::get_gas_limit`. -/
def getGasLimit : BitVec 64 := self.txInfo.gasLimit

/-- `MockContext::generate_create_address`: a constant placeholder. -/
def generateCreateAddress : Address := .padLeft 20 [9] (by decide)

/-- `MockContext::generate_create2_address`: a constant placeholder. -/
def generateCreate2Address : Address := .padLeft 20 [99] (by decide)

end MockContext

end DtvmEvm
