import DtvmEvm.HostFunctions.Data
import DtvmEvm.HostFunctions.State
import DtvmEvm.HostFunctions.Contract

/-!
# `DtvmEvm.Bridge`: the primitive catalogue and its `extern "C"` wrappers

`create_complete_evm_host_functions` (`mock_evm_bridge.rs`) registers 42 primitives in
the import module `env`. A `HostCall` is a call of one of them by the guest, with the arguments
the engine passes for the declared parameter types; `HostCall.name` is the registered name.
`HostCall.run` is the `host_functions` function behind each one.

Each registered pointer is an `extern "C"` wrapper around that function, and the wrappers
come in four shapes:

* `abortOnError`: `if let Err(_) = f(..) { inst.set_exception_by_hostapi(9) }`. The wrapper
  returns nothing, also when `f` returns a value (`get_block_hash`).
* `returnScalar`: the functions that return a plain value, passed through.
* `statusCode`: `match f(..) { Ok(_) => 0, Err(_) => 1 }`, for the four sub-calls and
  `create_contract`. The value inside `Ok` is dropped.
* `get_external_code_size` returns `f(..).unwrap_or_default()`.

A wrapper returns `none` when the function panicked: the panic unwinds out of the
`extern "C"` function, which aborts the process.

`getBlockHash` is declared `(I64, I32) -> I32`, but its wrapper takes
`number_offset: i32` and returns nothing. The engine hands the `i64` over in a 64-bit
argument register, of which an `i32` parameter reads the low 32 bits (`truncate 32`); the
wrapper sign-extends them back (`number_offset as i64`).
-/

set_option autoImplicit false

namespace DtvmEvm

/-- A WASM value returned to the guest. -/
inductive HostValue where
  | i32 (v : BitVec 32)
  | i64 (v : BitVec 64)
deriving DecidableEq

/-- A guest call of a registered primitive. -/
inductive HostCall where
  | getAddress (resultOffset : BitVec 32)
  | getCaller (resultOffset : BitVec 32)
  | getCallValue (resultOffset : BitVec 32)
  | getChainId (resultOffset : BitVec 32)
  | getTxOrigin (resultOffset : BitVec 32)
  | getExternalBalance (addrOffset resultOffset : BitVec 32)
  | getBlockNumber
  | getBlockTimestamp
  | getBlockGasLimit
  | getBlockCoinbase (resultOffset : BitVec 32)
  | getBlobBaseFee (resultOffset : BitVec 32)
  | getBaseFee (resultOffset : BitVec 32)
  | getTxGasPrice (resultOffset : BitVec 32)
  | getBlockPrevRandao (resultOffset : BitVec 32)
  | getBlockHash (blockNumber : BitVec 64) (resultOffset : BitVec 32)
  | storageStore (keyOffset valueOffset : BitVec 32)
  | storageLoad (keyOffset resultOffset : BitVec 32)
  | getCallDataSize
  | callDataCopy (resultOffset dataOffset length : BitVec 32)
  | getCodeSize
  | codeCopy (resultOffset codeOffset length : BitVec 32)
  | getExternalCodeSize (addrOffset : BitVec 32)
  | getExternalCodeHash (addrOffset resultOffset : BitVec 32)
  | externalCodeCopy (addrOffset resultOffset codeOffset length : BitVec 32)
  | sha256 (dataOffset length resultOffset : BitVec 32)
  | keccak256 (dataOffset length resultOffset : BitVec 32)
  | addmod (aOffset bOffset nOffset resultOffset : BitVec 32)
  | mulmod (aOffset bOffset nOffset resultOffset : BitVec 32)
  | expmod (baseOffset expOffset modOffset resultOffset : BitVec 32)
  | callContract (gas : BitVec 64) (addrOffset valueOffset dataOffset dataLength : BitVec 32)
  | callCode (gas : BitVec 64) (addrOffset valueOffset dataOffset dataLength : BitVec 32)
  | callDelegate (gas : BitVec 64) (addrOffset dataOffset dataLength : BitVec 32)
  | callStatic (gas : BitVec 64) (addrOffset dataOffset dataLength : BitVec 32)
  | createContract (valueOffset codeOffset codeLength dataOffset dataLength saltOffset
      isCreate2 resultOffset : BitVec 32)
  | finish (dataOffset length : BitVec 32)
  | revert (dataOffset length : BitVec 32)
  | invalid
  | selfDestruct (beneficiaryOffset : BitVec 32)
  | getReturnDataSize
  | returnDataCopy (resultOffset dataOffset length : BitVec 32)
  | emitLogEvent (dataOffset length numTopics topic1Offset topic2Offset topic3Offset
      topic4Offset : BitVec 32)
  | getGasLeft

/-- The name under which the primitive is registered. -/
def HostCall.name : HostCall → String
  | .getAddress .. => "getAddress"
  | .getCaller .. => "getCaller"
  | .getCallValue .. => "getCallValue"
  | .getChainId .. => "getChainId"
  | .getTxOrigin .. => "getTxOrigin"
  | .getExternalBalance .. => "getExternalBalance"
  | .getBlockNumber => "getBlockNumber"
  | .getBlockTimestamp => "getBlockTimestamp"
  | .getBlockGasLimit => "getBlockGasLimit"
  | .getBlockCoinbase .. => "getBlockCoinbase"
  | .getBlobBaseFee .. => "getBlobBaseFee"
  | .getBaseFee .. => "getBaseFee"
  | .getTxGasPrice .. => "getTxGasPrice"
  | .getBlockPrevRandao .. => "getBlockPrevRandao"
  | .getBlockHash .. => "getBlockHash"
  | .storageStore .. => "storageStore"
  | .storageLoad .. => "storageLoad"
  | .getCallDataSize => "getCallDataSize"
  | .callDataCopy .. => "callDataCopy"
  | .getCodeSize => "getCodeSize"
  | .codeCopy .. => "codeCopy"
  | .getExternalCodeSize .. => "getExternalCodeSize"
  | .getExternalCodeHash .. => "getExternalCodeHash"
  | .externalCodeCopy .. => "externalCodeCopy"
  | .sha256 .. => "sha256"
  | .keccak256 .. => "keccak256"
  | .addmod .. => "addmod"
  | .mulmod .. => "mulmod"
  | .expmod .. => "expmod"
  | .callContract .. => "callContract"
  | .callCode .. => "callCode"
  | .callDelegate .. => "callDelegate"
  | .callStatic .. => "callStatic"
  | .createContract .. => "createContract"
  | .finish .. => "finish"
  | .revert .. => "revert"
  | .invalid => "invalid"
  | .selfDestruct .. => "selfDestruct"
  | .getReturnDataSize => "getReturnDataSize"
  | .returnDataCopy .. => "returnDataCopy"
  | .emitLogEvent .. => "emitLogEvent"
  | .getGasLeft => "getGasLeft"

variable {σ : Type} (host : EvmHost σ)

/-- The `host_functions` function behind each primitive, with its result as a WASM value
(`none` for `()`). -/
def HostCall.run : HostCall → HostFn σ (Option HostValue)
  | .getAddress r => (fun _ => none) <$> HostFunctions.getAddress host r
  | .getCaller r => (fun _ => none) <$> HostFunctions.getCaller host r
  | .getCallValue r => (fun _ => none) <$> HostFunctions.getCallValue host r
  | .getChainId r => (fun _ => none) <$> HostFunctions.getChainId host r
  | .getTxOrigin r => (fun _ => none) <$> HostFunctions.getTxOrigin host r
  | .getExternalBalance a r => (fun _ => none) <$> HostFunctions.getExternalBalance host a r
  | .getBlockNumber => (some ∘ .i64) <$> HostFunctions.getBlockNumber host
  | .getBlockTimestamp => (some ∘ .i64) <$> HostFunctions.getBlockTimestamp host
  | .getBlockGasLimit => (some ∘ .i64) <$> HostFunctions.getBlockGasLimit host
  | .getBlockCoinbase r => (fun _ => none) <$> HostFunctions.getBlockCoinbase host r
  | .getBlobBaseFee r => (fun _ => none) <$> HostFunctions.getBlobBaseFee host r
  | .getBaseFee r => (fun _ => none) <$> HostFunctions.getBaseFee host r
  | .getTxGasPrice r => (fun _ => none) <$> HostFunctions.getTxGasPrice host r
  | .getBlockPrevRandao r => (fun _ => none) <$> HostFunctions.getBlockPrevRandao host r
  | .getBlockHash n r => (some ∘ .i32) <$> HostFunctions.getBlockHash host n r
  | .storageStore k v => (fun _ => none) <$> HostFunctions.storageStore host k v
  | .storageLoad k r => (fun _ => none) <$> HostFunctions.storageLoad host k r
  | .getCallDataSize => (some ∘ .i32) <$> HostFunctions.getCallDataSize host
  | .callDataCopy r d l => (fun _ => none) <$> HostFunctions.callDataCopy host r d l
  | .getCodeSize => (some ∘ .i32) <$> HostFunctions.getCodeSize host
  | .codeCopy r c l => (fun _ => none) <$> HostFunctions.codeCopy host r c l
  | .getExternalCodeSize a => (some ∘ .i32) <$> HostFunctions.getExternalCodeSize host a
  | .getExternalCodeHash a r => (fun _ => none) <$> HostFunctions.getExternalCodeHash host a r
  | .externalCodeCopy a r c l => (fun _ => none) <$> HostFunctions.externalCodeCopy host a r c l
  | .sha256 d l r => (fun _ => none) <$> HostFunctions.sha256 host d l r
  | .keccak256 d l r => (fun _ => none) <$> HostFunctions.keccak256 host d l r
  | .addmod a b n r => (fun _ => none) <$> HostFunctions.addmod host a b n r
  | .mulmod a b n r => (fun _ => none) <$> HostFunctions.mulmod host a b n r
  | .expmod a b n r => (fun _ => none) <$> HostFunctions.expmod host a b n r
  | .callContract g a v d l => (some ∘ .i32) <$> HostFunctions.callContract host g a v d l
  | .callCode g a v d l => (some ∘ .i32) <$> HostFunctions.callCode host g a v d l
  | .callDelegate g a d l => (some ∘ .i32) <$> HostFunctions.callDelegate host g a d l
  | .callStatic g a d l => (some ∘ .i32) <$> HostFunctions.callStatic host g a d l
  | .createContract v c cl d dl s c2 r =>
    (some ∘ .i32) <$> HostFunctions.createContract host v c cl d dl s c2 r
  | .finish d l => (fun _ => none) <$> HostFunctions.finish host d l
  | .revert d l => (fun _ => none) <$> HostFunctions.revert host d l
  | .invalid => (fun _ => none) <$> HostFunctions.invalid host
  | .selfDestruct b => (fun _ => none) <$> HostFunctions.selfDestruct host b
  | .getReturnDataSize => (some ∘ .i32) <$> HostFunctions.getReturnDataSize host
  | .returnDataCopy r d l => (fun _ => none) <$> HostFunctions.returnDataCopy host r d l
  | .emitLogEvent d l n t1 t2 t3 t4 =>
    (fun _ => none) <$> HostFunctions.emitLogEvent host d l n t1 t2 t3 t4
  | .getGasLeft => (some ∘ .i64) <$> HostFunctions.getGasLeft host

namespace Extern

/-- What a wrapper leaves: its return value and the instance, or `none` when the function
panicked. -/
abbrev ExternResult (σ : Type) := Option (Option HostValue × Instance σ)

variable {α : Type}

/-- `if let Err(_) = f(..) { inst.set_exception_by_hostapi(9) }`. -/
def abortOnError (f : HostFn σ α) (inst : Instance σ) : ExternResult σ :=
  match f inst with
  | .ok _ inst' => some (none, inst')
  | .error (.error _) inst' => some (none, { inst' with exception := some 9 })
  | .error .panicked _ => none

/-- A function without a `Result`, passed through. -/
def returnScalar (f : HostFn σ α) (toValue : α → HostValue) (inst : Instance σ) :
    ExternResult σ :=
  match f inst with
  | .ok v inst' => some (some (toValue v), inst')
  | .error _ _ => none

/-- `match f(..) { Ok(_) => 0, Err(_) => 1 }`. -/
def statusCode (f : HostFn σ (BitVec 32)) (inst : Instance σ) : ExternResult σ :=
  match f inst with
  | .ok _ inst' => some (some (.i32 0), inst')
  | .error (.error _) inst' => some (some (.i32 1), inst')
  | .error .panicked _ => none

/-- `extern "C" fn storage_store`. -/
def storageStore (keyOffset valueOffset : BitVec 32) : Instance σ → ExternResult σ :=
  abortOnError (HostFunctions.storageStore host keyOffset valueOffset)

/-- `extern "C" fn storage_load`. -/
def storageLoad (keyOffset resultOffset : BitVec 32) : Instance σ → ExternResult σ :=
  abortOnError (HostFunctions.storageLoad host keyOffset resultOffset)

/-- `extern "C" fn get_address`. -/
def getAddress (resultOffset : BitVec 32) : Instance σ → ExternResult σ :=
  abortOnError (HostFunctions.getAddress host resultOffset)

/-- `extern "C" fn get_caller`. -/
def getCaller (resultOffset : BitVec 32) : Instance σ → ExternResult σ :=
  abortOnError (HostFunctions.getCaller host resultOffset)

/-- `extern "C" fn get_call_value`. -/
def getCallValue (resultOffset : BitVec 32) : Instance σ → ExternResult σ :=
  abortOnError (HostFunctions.getCallValue host resultOffset)

/-- `extern "C" fn get_chain_id`. -/
def getChainId (resultOffset : BitVec 32) : Instance σ → ExternResult σ :=
  abortOnError (HostFunctions.getChainId host resultOffset)

/-- `extern "C" fn get_tx_origin`. -/
def getTxOrigin (resultOffset : BitVec 32) : Instance σ → ExternResult σ :=
  abortOnError (HostFunctions.getTxOrigin host resultOffset)

/-- `extern "C" fn get_external_balance`. -/
def getExternalBalance (addrOffset resultOffset : BitVec 32) : Instance σ → ExternResult σ :=
  abortOnError (HostFunctions.getExternalBalance host addrOffset resultOffset)

/-- `extern "C" fn get_block_number`. -/
def getBlockNumber : Instance σ → ExternResult σ :=
  returnScalar (HostFunctions.getBlockNumber host) .i64

/-- `extern "C" fn get_block_timestamp`. -/
def getBlockTimestamp : Instance σ → ExternResult σ :=
  returnScalar (HostFunctions.getBlockTimestamp host) .i64

/-- `extern "C" fn get_block_gas_limit`. -/
def getBlockGasLimit : Instance σ → ExternResult σ :=
  returnScalar (HostFunctions.getBlockGasLimit host) .i64

/-- `extern "C" fn get_block_coinbase`. -/
def getBlockCoinbase (resultOffset : BitVec 32) : Instance σ → ExternResult σ :=
  abortOnError (HostFunctions.getBlockCoinbase host resultOffset)

/-- `extern "C" fn get_blob_base_fee`. -/
def getBlobBaseFee (resultOffset : BitVec 32) : Instance σ → ExternResult σ :=
  abortOnError (HostFunctions.getBlobBaseFee host resultOffset)

/-- `extern "C" fn get_base_fee`. -/
def getBaseFee (resultOffset : BitVec 32) : Instance σ → ExternResult σ :=
  abortOnError (HostFunctions.getBaseFee host resultOffset)

/-- `extern "C" fn get_tx_gas_price`. -/
def getTxGasPrice (resultOffset : BitVec 32) : Instance σ → ExternResult σ :=
  abortOnError (HostFunctions.getTxGasPrice host resultOffset)

/-- `extern "C" fn get_block_prev_randao`. -/
def getBlockPrevRandao (resultOffset : BitVec 32) : Instance σ → ExternResult σ :=
  abortOnError (HostFunctions.getBlockPrevRandao host resultOffset)

/-- `extern "C" fn get_block_hash(wasm_inst, number_offset: i32, result_offset: i32)`:
the block number is `number_offset as i64`, and the `i32` result is dropped. -/
def getBlockHash (numberOffset resultOffset : BitVec 32) : Instance σ → ExternResult σ :=
  abortOnError (HostFunctions.getBlockHash host (numberOffset.signExtend 64) resultOffset)

/-- `extern "C" fn get_call_data_size`. -/
def getCallDataSize : Instance σ → ExternResult σ :=
  returnScalar (HostFunctions.getCallDataSize host) .i32

/-- `extern "C" fn call_data_copy`. -/
def callDataCopy (resultOffset dataOffset length : BitVec 32) : Instance σ → ExternResult σ :=
  abortOnError (HostFunctions.callDataCopy host resultOffset dataOffset length)

/-- `extern "C" fn get_code_size`. -/
def getCodeSize : Instance σ → ExternResult σ :=
  returnScalar (HostFunctions.getCodeSize host) .i32

/-- `extern "C" fn code_copy`. -/
def codeCopy (resultOffset codeOffset length : BitVec 32) : Instance σ → ExternResult σ :=
  abortOnError (HostFunctions.codeCopy host resultOffset codeOffset length)

/-- `extern "C" fn get_external_code_size`: `.unwrap_or_default()`, so an error gives `0`. -/
def getExternalCodeSize (addrOffset : BitVec 32) (inst : Instance σ) : ExternResult σ :=
  match HostFunctions.getExternalCodeSize host addrOffset inst with
  | .ok size inst' => some (some (.i32 size), inst')
  | .error (.error _) inst' => some (some (.i32 0), inst')
  | .error .panicked _ => none

/-- `extern "C" fn get_external_code_hash`. -/
def getExternalCodeHash (addrOffset resultOffset : BitVec 32) : Instance σ → ExternResult σ :=
  abortOnError (HostFunctions.getExternalCodeHash host addrOffset resultOffset)

/-- `extern "C" fn external_code_copy`. -/
def externalCodeCopy (addrOffset resultOffset codeOffset length : BitVec 32) : Instance σ → ExternResult σ :=
  abortOnError (HostFunctions.externalCodeCopy host addrOffset resultOffset codeOffset length)

/-- `extern "C" fn sha256`. -/
def sha256 (dataOffset length resultOffset : BitVec 32) : Instance σ → ExternResult σ :=
  abortOnError (HostFunctions.sha256 host dataOffset length resultOffset)

/-- `extern "C" fn keccak256`. -/
def keccak256 (dataOffset length resultOffset : BitVec 32) : Instance σ → ExternResult σ :=
  abortOnError (HostFunctions.keccak256 host dataOffset length resultOffset)

/-- `extern "C" fn addmod`. -/
def addmod (aOffset bOffset nOffset resultOffset : BitVec 32) : Instance σ → ExternResult σ :=
  abortOnError (HostFunctions.addmod host aOffset bOffset nOffset resultOffset)

/-- `extern "C" fn mulmod`. -/
def mulmod (aOffset bOffset nOffset resultOffset : BitVec 32) : Instance σ → ExternResult σ :=
  abortOnError (HostFunctions.mulmod host aOffset bOffset nOffset resultOffset)

/-- `extern "C" fn expmod`. -/
def expmod (aOffset bOffset nOffset resultOffset : BitVec 32) : Instance σ → ExternResult σ :=
  abortOnError (HostFunctions.expmod host aOffset bOffset nOffset resultOffset)

/-- `extern "C" fn call_contract`. -/
def callContract (gas : BitVec 64) (addrOffset valueOffset dataOffset dataLength : BitVec 32) : Instance σ → ExternResult σ :=
  statusCode (HostFunctions.callContract host gas addrOffset valueOffset dataOffset dataLength)

/-- `extern "C" fn call_code`. -/
def callCode (gas : BitVec 64) (addrOffset valueOffset dataOffset dataLength : BitVec 32) : Instance σ → ExternResult σ :=
  statusCode (HostFunctions.callCode host gas addrOffset valueOffset dataOffset dataLength)

/-- `extern "C" fn call_delegate`. -/
def callDelegate (gas : BitVec 64) (addrOffset dataOffset dataLength : BitVec 32) : Instance σ → ExternResult σ :=
  statusCode (HostFunctions.callDelegate host gas addrOffset dataOffset dataLength)

/-- `extern "C" fn call_static`. -/
def callStatic (gas : BitVec 64) (addrOffset dataOffset dataLength : BitVec 32) : Instance σ → ExternResult σ :=
  statusCode (HostFunctions.callStatic host gas addrOffset dataOffset dataLength)

/-- `extern "C" fn create_contract`. -/
def createContract (valueOffset codeOffset codeLength dataOffset dataLength saltOffset isCreate2
    resultOffset : BitVec 32) : Instance σ → ExternResult σ :=
  statusCode (HostFunctions.createContract host valueOffset codeOffset codeLength dataOffset dataLength
    saltOffset isCreate2 resultOffset)

/-- `extern "C" fn finish`. -/
def finish (dataOffset length : BitVec 32) : Instance σ → ExternResult σ :=
  abortOnError (HostFunctions.finish host dataOffset length)

/-- `extern "C" fn revert`. -/
def revert (dataOffset length : BitVec 32) : Instance σ → ExternResult σ :=
  abortOnError (HostFunctions.revert host dataOffset length)

/-- `extern "C" fn invalid`. -/
def invalid : Instance σ → ExternResult σ :=
  abortOnError (HostFunctions.invalid host)

/-- `extern "C" fn self_destruct`. -/
def selfDestruct (beneficiaryOffset : BitVec 32) : Instance σ → ExternResult σ :=
  abortOnError (HostFunctions.selfDestruct host beneficiaryOffset)

/-- `extern "C" fn get_return_data_size`. -/
def getReturnDataSize : Instance σ → ExternResult σ :=
  returnScalar (HostFunctions.getReturnDataSize host) .i32

/-- `extern "C" fn return_data_copy`. -/
def returnDataCopy (resultOffset dataOffset length : BitVec 32) : Instance σ → ExternResult σ :=
  abortOnError (HostFunctions.returnDataCopy host resultOffset dataOffset length)

/-- `extern "C" fn emit_log_event`. -/
def emitLogEvent (dataOffset length numTopics topic1Offset topic2Offset topic3Offset
    topic4Offset : BitVec 32) : Instance σ → ExternResult σ :=
  abortOnError (HostFunctions.emitLogEvent host dataOffset length numTopics topic1Offset topic2Offset
    topic3Offset topic4Offset)

/-- `extern "C" fn get_gas_left`. -/
def getGasLeft : Instance σ → ExternResult σ :=
  returnScalar (HostFunctions.getGasLeft host) .i64

/-- The registered pointer of each primitive: the engine calls the wrapper with the guest's
arguments. -/
def dispatch : HostCall → Instance σ → ExternResult σ
  | .getAddress r => getAddress host r
  | .getCaller r => getCaller host r
  | .getCallValue r => getCallValue host r
  | .getChainId r => getChainId host r
  | .getTxOrigin r => getTxOrigin host r
  | .getExternalBalance a r => getExternalBalance host a r
  | .getBlockNumber => getBlockNumber host
  | .getBlockTimestamp => getBlockTimestamp host
  | .getBlockGasLimit => getBlockGasLimit host
  | .getBlockCoinbase r => getBlockCoinbase host r
  | .getBlobBaseFee r => getBlobBaseFee host r
  | .getBaseFee r => getBaseFee host r
  | .getTxGasPrice r => getTxGasPrice host r
  | .getBlockPrevRandao r => getBlockPrevRandao host r
  | .getBlockHash n r => getBlockHash host (n.truncate 32) r
  | .storageStore k v => storageStore host k v
  | .storageLoad k r => storageLoad host k r
  | .getCallDataSize => getCallDataSize host
  | .callDataCopy r d l => callDataCopy host r d l
  | .getCodeSize => getCodeSize host
  | .codeCopy r c l => codeCopy host r c l
  | .getExternalCodeSize a => getExternalCodeSize host a
  | .getExternalCodeHash a r => getExternalCodeHash host a r
  | .externalCodeCopy a r c l => externalCodeCopy host a r c l
  | .sha256 d l r => sha256 host d l r
  | .keccak256 d l r => keccak256 host d l r
  | .addmod a b n r => addmod host a b n r
  | .mulmod a b n r => mulmod host a b n r
  | .expmod a b n r => expmod host a b n r
  | .callContract g a v d l => callContract host g a v d l
  | .callCode g a v d l => callCode host g a v d l
  | .callDelegate g a d l => callDelegate host g a d l
  | .callStatic g a d l => callStatic host g a d l
  | .createContract v c cl d dl s c2 r => createContract host v c cl d dl s c2 r
  | .finish d l => finish host d l
  | .revert d l => revert host d l
  | .invalid => invalid host
  | .selfDestruct b => selfDestruct host b
  | .getReturnDataSize => getReturnDataSize host
  | .returnDataCopy r d l => returnDataCopy host r d l
  | .emitLogEvent d l n t1 t2 t3 t4 => emitLogEvent host d l n t1 t2 t3 t4
  | .getGasLeft => getGasLeft host

end Extern

end DtvmEvm
