import DtvmEvm.Host
import DtvmEvm.Instance

/-!
# `DtvmEvm.HostFunctions.Environment`: the query primitives

The primitives of `account.rs`, `block.rs`, `fee.rs`, `crypto.rs` and `math.rs`, and the
gas and gas-price queries of `transaction.rs`. Each validates its offsets, reads its inputs
from guest memory, asks the host, and writes a fixed-size result.

Ten of them have one shape, `writeHostValue`: validate the result offset for an address or
a word, then write the host's value there. Each keeps its own definition, `writeHostValue`
applied to its getter and the type name of its validator (`validate_address_param` checks
20 bytes under the name `"address"`, `validate_bytes32_param` 32 bytes under `"bytes32"`).
`sha256` and `keccak256` share `hashPrimitive`, and the three modular operations share
`modPrimitive`.
-/

set_option autoImplicit false

namespace DtvmEvm

variable {σ : Type}

/-- `let evmhost = &instance.extra_ctx`: the host's current state. -/
def hostState : HostFn σ σ :=
  return (← get).extraCtx

/-- The host's state after one of its `&self` methods mutated it. -/
def setHostState (s : σ) : HostFn σ Unit :=
  modify fun i => { i with extraCtx := s }

namespace HostFunctions

open MemoryAccessor

variable (host : EvmHost σ)

/-- Validate `resultOffset` for an `n`-byte value under `typeName`, then write the host's
value there. -/
def writeHostValue {n : Nat} (typeName : String) (value : σ → FixedBytes n)
    (resultOffset : BitVec 32) : HostFn σ Unit := do
  let offset ← validateOffsetForType resultOffset n typeName
  writeBytes offset (value (← hostState)).bytes

/-- `account::get_address`. -/
def getAddress (resultOffset : BitVec 32) : HostFn σ Unit :=
  writeHostValue "address" host.getAddress resultOffset

/-- `account::get_caller`. -/
def getCaller (resultOffset : BitVec 32) : HostFn σ Unit :=
  writeHostValue "address" host.getCaller resultOffset

/-- `account::get_tx_origin`. -/
def getTxOrigin (resultOffset : BitVec 32) : HostFn σ Unit :=
  writeHostValue "address" host.getTxOrigin resultOffset

/-- `account::get_call_value`. -/
def getCallValue (resultOffset : BitVec 32) : HostFn σ Unit :=
  writeHostValue "bytes32" host.getCallValue resultOffset

/-- `account::get_chain_id`. -/
def getChainId (resultOffset : BitVec 32) : HostFn σ Unit :=
  writeHostValue "bytes32" host.getChainId resultOffset

/-- `block::get_block_coinbase`. -/
def getBlockCoinbase (resultOffset : BitVec 32) : HostFn σ Unit :=
  writeHostValue "address" host.getBlockCoinbase resultOffset

/-- `block::get_block_prev_randao`. -/
def getBlockPrevRandao (resultOffset : BitVec 32) : HostFn σ Unit :=
  writeHostValue "bytes32" host.getBlockPrevRandao resultOffset

/-- `fee::get_base_fee`. -/
def getBaseFee (resultOffset : BitVec 32) : HostFn σ Unit :=
  writeHostValue "bytes32" host.getBaseFee resultOffset

/-- `fee::get_blob_base_fee`. -/
def getBlobBaseFee (resultOffset : BitVec 32) : HostFn σ Unit :=
  writeHostValue "bytes32" host.getBlobBaseFee resultOffset

/-- `transaction::get_tx_gas_price`. -/
def getTxGasPrice (resultOffset : BitVec 32) : HostFn σ Unit :=
  writeHostValue "bytes32" host.getTxGasPrice resultOffset

/-- `account::get_external_balance`: both offsets are validated before the address is read. -/
def getExternalBalance (addrOffset resultOffset : BitVec 32) : HostFn σ Unit := do
  let addrOffsetU32 ← validateAddressParam addrOffset
  let resultOffsetU32 ← validateBytes32Param resultOffset
  let address ← readAddress addrOffsetU32
  writeBytes32 resultOffsetU32 (host.getExternalBalance (← hostState) address)

/-- `block::get_block_number`. -/
def getBlockNumber : HostFn σ (BitVec 64) :=
  return host.getBlockNumber (← hostState)

/-- `block::get_block_timestamp`. -/
def getBlockTimestamp : HostFn σ (BitVec 64) :=
  return host.getBlockTimestamp (← hostState)

/-- `block::get_block_gas_limit`. -/
def getBlockGasLimit : HostFn σ (BitVec 64) :=
  return host.getBlockGasLimit (← hostState)

/-- `block::get_block_hash`: the zero word and `0` for a block number outside
`[0, current_block)` or unknown to the host, the hash and `1` otherwise. -/
def getBlockHash (blockNum : BitVec 64) (resultOffset : BitVec 32) : HostFn σ (BitVec 32) := do
  let offset ← validateBytes32Param resultOffset
  let currentBlock := host.getBlockNumber (← hostState)
  if blockNum.toInt < 0 ∨ blockNum.toInt ≥ currentBlock.toInt then
    writeBytes32 offset (FixedBytes.zero 32)
    return 0
  match host.getBlockHash (← hostState) blockNum with
  | some hash =>
    writeBytes32 offset hash
    return 1
  | none =>
    writeBytes32 offset (FixedBytes.zero 32)
    return 0

/-- `transaction::get_gas_left`: the engine's counter, passed through the host. -/
def getGasLeft : HostFn σ (BitVec 64) := do
  let gasLeft := (← get).gasLeft
  return host.getGasLeft (← hostState) (BitVec.ofNat 64 gasLeft)

/-- `sha256` and `keccak256`: validate the input range and the result offset, read, hash,
write. -/
def hashPrimitive (name : String) (hash : σ → Bytes → Word)
    (inputOffset inputLength resultOffset : BitVec 32) : HostFn σ Unit := do
  let (inputOffsetU32, inputLengthU32) ← validateDataParam inputOffset inputLength (some name)
  let resultOffsetU32 ← validateBytes32Param resultOffset
  let inputData ← readBytesVec inputOffsetU32 inputLengthU32
  writeBytes32 resultOffsetU32 (hash (← hostState) inputData)

/-- `crypto::sha256`. -/
def sha256 (inputOffset inputLength resultOffset : BitVec 32) : HostFn σ Unit :=
  hashPrimitive "sha256" host.sha256 inputOffset inputLength resultOffset

/-- `crypto::keccak256`. -/
def keccak256 (inputOffset inputLength resultOffset : BitVec 32) : HostFn σ Unit :=
  hashPrimitive "keccak256" host.keccak256 inputOffset inputLength resultOffset

/-- `addmod`, `mulmod` and `expmod`: validate all four offsets, read three words, write the
host's result. -/
def modPrimitive (op : σ → Word → Word → Word → Word)
    (aOffset bOffset nOffset resultOffset : BitVec 32) : HostFn σ Unit := do
  let aOffsetU32 ← validateBytes32Param aOffset
  let bOffsetU32 ← validateBytes32Param bOffset
  let nOffsetU32 ← validateBytes32Param nOffset
  let resultOffsetU32 ← validateBytes32Param resultOffset
  let aBytes ← readBytes32 aOffsetU32
  let bBytes ← readBytes32 bOffsetU32
  let nBytes ← readBytes32 nOffsetU32
  writeBytes32 resultOffsetU32 (op (← hostState) aBytes bBytes nBytes)

/-- `math::addmod`. -/
def addmod (aOffset bOffset nOffset resultOffset : BitVec 32) : HostFn σ Unit :=
  modPrimitive host.addmod aOffset bOffset nOffset resultOffset

/-- `math::mulmod`. -/
def mulmod (aOffset bOffset nOffset resultOffset : BitVec 32) : HostFn σ Unit :=
  modPrimitive host.mulmod aOffset bOffset nOffset resultOffset

/-- `math::expmod`. -/
def expmod (baseOffset expOffset modOffset resultOffset : BitVec 32) : HostFn σ Unit :=
  modPrimitive host.expmod baseOffset expOffset modOffset resultOffset

end HostFunctions

end DtvmEvm
