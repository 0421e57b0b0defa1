import DtvmEvm.HostFunctions.Environment

/-!
# `DtvmEvm.HostFunctions.Data`: call data, code and the copy primitives

`get_call_data_size`, `call_data_copy` (`transaction.rs`), the code primitives of `code.rs`,
and `return_data_copy` (`control.rs`), which belongs to the same family.

The four copy primitives build the same buffer, `copyBuffer`: `length` bytes, of which the
first `min(available, length)` come from the source at `offset` and the rest are zero.
`call_data_copy` and `code_copy` spell the count as `min(min(length, available), dest_len)`
with `dest_len = length` and then zero-fill a buffer that is already zero; the result is the
same buffer. The primitives differ in what they write. `call_data_copy` and
`return_data_copy` write the whole buffer (`copyFrom`). `external_code_copy` validates an
address first and writes zeros for an unknown account. `code_copy` writes only the first
`copied_bytes` bytes of the buffer, so it keeps its own body.
-/

set_option autoImplicit false

namespace DtvmEvm

/-- The bytes a copy primitive has in its buffer: `length` bytes, the source from `offset`
on first and then zeros. -/
def copyBuffer (source : Bytes) (offset length : Nat) : Bytes :=
  let available := if offset < source.length then source.length - offset else 0
  let copyLen := min available length
  (source.drop offset).take copyLen ++ List.replicate (length - copyLen) 0

namespace HostFunctions

open MemoryAccessor

variable {σ : Type} (host : EvmHost σ)

/-- `transaction::get_call_data_size`. -/
def getCallDataSize : HostFn σ (BitVec 32) :=
  return host.getCallDataSize (← hostState)

/-- `code::get_code_size`. -/
def getCodeSize : HostFn σ (BitVec 32) :=
  return host.getCodeSize (← hostState)

/-- `call_data_copy` and `return_data_copy`: validate the destination, reject a negative
source offset, write the whole buffer. -/
def copyFrom (name negativeContext : String) (source : σ → Bytes)
    (resultOffset dataOffset length : BitVec 32) : HostFn σ Unit := do
  let (resultOffsetU32, lengthU32) ← validateDataParam resultOffset length (some name)
  if dataOffset.toInt < 0 then
    throw (.error (outOfBoundsError dataOffset.toNat lengthU32 negativeContext))
  writeBytes resultOffsetU32 (copyBuffer (source (← hostState)) dataOffset.toNat lengthU32)

/-- `transaction::call_data_copy`. -/
def callDataCopy (resultOffset dataOffset length : BitVec 32) : HostFn σ Unit :=
  copyFrom "call_data_copy" "negative call data offset" host.callDataCopy
    resultOffset dataOffset length

/-- `control::return_data_copy`. -/
def returnDataCopy (resultOffset dataOffset length : BitVec 32) : HostFn σ Unit :=
  copyFrom "return_data_copy" "negative return data offset" host.returnDataCopy
    resultOffset dataOffset length

/-- `code::code_copy`. Unlike the other three it writes `buffer[..copied_bytes]`, the part
taken from the code, and not the zero tail. -/
def codeCopy (resultOffset codeOffset length : BitVec 32) : HostFn σ Unit := do
  let (resultOffsetU32, lengthU32) ← validateDataParam resultOffset length (some "code_copy")
  if codeOffset.toInt < 0 then
    throw (.error (outOfBoundsError codeOffset.toNat lengthU32 "negative code offset"))
  let code := host.codeCopy (← hostState)
  let buffer := copyBuffer code codeOffset.toNat lengthU32
  let availableFromOffset :=
    if codeOffset.toNat < code.length then code.length - codeOffset.toNat else 0
  let copiedBytes := min (min lengthU32 availableFromOffset) buffer.length
  writeBytes resultOffsetU32 (buffer.take copiedBytes)

/-- `code::get_external_code_size`: `0` for an account the host does not know. -/
def getExternalCodeSize (addrOffset : BitVec 32) : HostFn σ (BitVec 32) := do
  let addrOffsetU32 ← validateAddressParam addrOffset
  let address ← readAddress addrOffsetU32
  match host.getExternalCodeSize (← hostState) address with
  | some size => return size
  | none => return 0

/-- `code::get_external_code_hash`: the zero word for an account the host does not know. -/
def getExternalCodeHash (addrOffset resultOffset : BitVec 32) : HostFn σ Unit := do
  let addrOffsetU32 ← validateAddressParam addrOffset
  let resultOffsetU32 ← validateBytes32Param resultOffset
  let address ← readAddress addrOffsetU32
  match host.getExternalCodeHash (← hostState) address with
  | some hash => writeBytes32 resultOffsetU32 hash
  | none => writeBytes32 resultOffsetU32 (FixedBytes.zero 32)

/-- `code::external_code_copy`: zeros for an account the host does not know. -/
def externalCodeCopy (addrOffset resultOffset codeOffset length : BitVec 32) :
    HostFn σ Unit := do
  let addrOffsetU32 ← validateAddressParam addrOffset
  let (resultOffsetU32, lengthU32) ←
    validateDataParam resultOffset length (some "external_code_copy")
  if codeOffset.toInt < 0 then
    throw (.error (outOfBoundsError codeOffset.toNat lengthU32 "negative external code offset"))
  let address ← readAddress addrOffsetU32
  match host.externalCodeCopy (← hostState) address with
  | some externalCode =>
    writeBytes resultOffsetU32 (copyBuffer externalCode codeOffset.toNat lengthU32)
  | none => writeBytes resultOffsetU32 (List.replicate lengthU32 0)

end HostFunctions

end DtvmEvm
