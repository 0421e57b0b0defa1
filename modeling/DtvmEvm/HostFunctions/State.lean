import DtvmEvm.HostFunctions.Environment

/-!
# `DtvmEvm.HostFunctions.State`: storage, logs and control transfer

The primitives of `storage.rs`, `log.rs` and `control.rs` (`return_data_copy` is with the
other copy primitives in `Data.lean`). These are the primitives that change the host: a
store, a log event, and the four ways a frame ends.

`storage_store` and `storage_load` do not go through `validate_bytes32_param`: they cast
their offsets with `as u32` and leave the bounds check to `read_bytes32` and
`write_bytes32`. `finish` and `revert` have one shape, `terminate`: validate and read the
data, hand it to the host, and call `instance.exit` with the exit code.

`emit_log_event` reads its topics in a loop over the first `num_topics` of the four topic
offsets; `List.mapM` over those offsets is the loop, stopping at the first error.
-/

set_option autoImplicit false

namespace DtvmEvm

namespace HostFunctions

open MemoryAccessor

variable {σ : Type} (host : EvmHost σ)

/-- `instance.exit(code)`. -/
def exit (code : Int) : HostFn σ Unit :=
  modify fun i => { i with exitCode := some code }

/-- `storage::storage_store`. -/
def storageStore (keyBytesOffset valueBytesOffset : BitVec 32) : HostFn σ Unit := do
  let keyBytes ← readBytes32 keyBytesOffset.toNat
  let valueBytes ← readBytes32 valueBytesOffset.toNat
  setHostState (host.storageStore (← hostState) keyBytes valueBytes)

/-- `storage::storage_load`. -/
def storageLoad (keyBytesOffset resultOffset : BitVec 32) : HostFn σ Unit := do
  let keyBytes ← readBytes32 keyBytesOffset.toNat
  let valueBytes := host.storageLoad (← hostState) keyBytes
  writeBytes32 resultOffset.toNat valueBytes

/-- One pass of the topic loop of `emit_log_event`: the zero word for offset `0`, otherwise
the validated word at the offset. -/
def readTopic (topicOffset : BitVec 32) : HostFn σ Word := do
  if topicOffset ≠ 0 then
    let topicOffsetU32 ← validateBytes32Param topicOffset
    readBytes32 topicOffsetU32
  else
    return FixedBytes.zero 32

/-- `log::emit_log_event`. -/
def emitLogEvent (dataOffset length numTopics topic1Offset topic2Offset topic3Offset
    topic4Offset : BitVec 32) : HostFn σ Unit := do
  if numTopics.toInt < 0 ∨ numTopics.toInt > 4 then
    throw (.error (invalidParameterError "num_topics" (toString numTopics.toInt)
      "emit_log_event"))
  let (dataOffsetU32, lengthU32) ← validateDataParam dataOffset length (some "emit_log_event")
  let logData ← readBytesVec dataOffsetU32 lengthU32
  let topicOffsets := [topic1Offset, topic2Offset, topic3Offset, topic4Offset]
  let topics ← (topicOffsets.take numTopics.toNat).mapM readTopic
  let contractAddress := host.getAddress (← hostState)
  setHostState (host.emitLogEvent (← hostState) { contractAddress, data := logData, topics })

/-- `log::emit_log0`. -/
def emitLog0 (dataOffset length : BitVec 32) : HostFn σ Unit :=
  emitLogEvent host dataOffset length 0 0 0 0 0

/-- `log::emit_log1`. -/
def emitLog1 (dataOffset length topic1Offset : BitVec 32) : HostFn σ Unit :=
  emitLogEvent host dataOffset length 1 topic1Offset 0 0 0

/-- `log::emit_log2`. -/
def emitLog2 (dataOffset length topic1Offset topic2Offset : BitVec 32) : HostFn σ Unit :=
  emitLogEvent host dataOffset length 2 topic1Offset topic2Offset 0 0

/-- `log::emit_log3`. -/
def emitLog3 (dataOffset length topic1Offset topic2Offset topic3Offset : BitVec 32) :
    HostFn σ Unit :=
  emitLogEvent host dataOffset length 3 topic1Offset topic2Offset topic3Offset 0

/-- `log::emit_log4`. -/
def emitLog4 (dataOffset length topic1Offset topic2Offset topic3Offset topic4Offset :
    BitVec 32) : HostFn σ Unit :=
  emitLogEvent host dataOffset length 4 topic1Offset topic2Offset topic3Offset topic4Offset

/-- `finish` and `revert`: validate and read the data, pass it to the host, exit. -/
def terminate (name : String) (method : σ → Bytes → σ) (code : Int)
    (dataOffset length : BitVec 32) : HostFn σ Unit := do
  let (dataOffsetU32, lengthU32) ← validateDataParam dataOffset length (some name)
  let data ← readBytesVec dataOffsetU32 lengthU32
  setHostState (method (← hostState) data)
  exit code

/-- `control::finish`: exit code 0. -/
def finish (dataOffset length : BitVec 32) : HostFn σ Unit :=
  terminate "finish" host.finish 0 dataOffset length

/-- `control::revert`: exit code 1. -/
def revert (dataOffset length : BitVec 32) : HostFn σ Unit :=
  terminate "revert" host.revert 1 dataOffset length

/-- `control::invalid`: exit code 2. -/
def invalid : HostFn σ Unit := do
  setHostState (host.invalid (← hostState))
  exit 2

/-- `control::self_destruct`: the transferred balance is dropped; exit code 3. -/
def selfDestruct (addrOffset : BitVec 32) : HostFn σ Unit := do
  let addrOffsetU32 ← validateAddressParam addrOffset
  let recipientAddress ← readAddress addrOffsetU32
  let (s, _transferredBalance) := host.selfDestruct (← hostState) recipientAddress
  setHostState s
  exit 3

/-- `control::get_return_data_size`: the host's `usize` cast `as i32`. -/
def getReturnDataSize : HostFn σ (BitVec 32) :=
  return BitVec.ofNat 32 (host.getReturnDataSize (← hostState))

end HostFunctions

end DtvmEvm
