import DtvmEvm.HostFunctions.Environment

/-!
# `DtvmEvm.HostFunctions.Contract`: sub-calls and creation

The primitives of `contract.rs`. Each validates and reads its arguments, takes the caller
or creator from the host, and hands the request to the host's sub-call method, which runs
the child frame. The primitive then returns `1` when the host reports success and `0`
otherwise; `create_contract` first writes the new address, or the zero address, at its
result offset.

`call_contract` and `call_code` have one body, `callWithValue`, and differ in the host method
and the name given to `validate_data_param`; `call_delegate` and `call_static` likewise share
`callWithoutValue`. All four pass `evmhost.get_caller()` as the caller of the child, the
caller of the current frame, and not the current frame's address. `create_contract` passes
`evmhost.get_address()` as the creator.
-/

set_option autoImplicit false

namespace DtvmEvm

namespace HostFunctions

open MemoryAccessor

variable {σ : Type} (host : EvmHost σ)

/-- Hand a sub-call result back: a host that panicked makes the primitive panic; otherwise
the host's new state stays and the primitive returns `1` for success and `0` for failure. -/
def finishCall (outcome : Option (σ × ContractCallResult)) : HostFn σ (BitVec 32) :=
  match outcome with
  | none => throw .panicked
  | some (s, result) => do
    setHostState s
    return if result.success then 1 else 0

/-- `call_contract` and `call_code`: address, value and data are validated, then read. -/
def callWithValue (name : String)
    (method : σ → Address → Address → Word → Bytes → Option (σ × ContractCallResult))
    (addrOffset valueOffset dataOffset dataLength : BitVec 32) : HostFn σ (BitVec 32) := do
  let addrOffsetU32 ← validateAddressParam addrOffset
  let valueOffsetU32 ← validateBytes32Param valueOffset
  let (dataOffsetU32, dataLengthU32) ← validateDataParam dataOffset dataLength (some name)
  let targetAddress ← readAddress addrOffsetU32
  let callValue ← readBytes32 valueOffsetU32
  let callData ← readBytesVec dataOffsetU32 dataLengthU32
  let callerAddress := host.getCaller (← hostState)
  finishCall (method (← hostState) targetAddress callerAddress callValue callData)

/-- `call_delegate` and `call_static`: address and data are validated, then read. -/
def callWithoutValue (name : String)
    (method : σ → Address → Address → Bytes → Option (σ × ContractCallResult))
    (addrOffset dataOffset dataLength : BitVec 32) : HostFn σ (BitVec 32) := do
  let addrOffsetU32 ← validateAddressParam addrOffset
  let (dataOffsetU32, dataLengthU32) ← validateDataParam dataOffset dataLength (some name)
  let targetAddress ← readAddress addrOffsetU32
  let callData ← readBytesVec dataOffsetU32 dataLengthU32
  let callerAddress := host.getCaller (← hostState)
  finishCall (method (← hostState) targetAddress callerAddress callData)

/-- `contract::call_contract`. -/
def callContract (gas : BitVec 64) (addrOffset valueOffset dataOffset dataLength : BitVec 32) :
    HostFn σ (BitVec 32) :=
  callWithValue host "call_contract" (fun s t c v d => host.callContract s t c v d gas)
    addrOffset valueOffset dataOffset dataLength

/-- `contract::call_code`. -/
def callCode (gas : BitVec 64) (addrOffset valueOffset dataOffset dataLength : BitVec 32) :
    HostFn σ (BitVec 32) :=
  callWithValue host "call_code" (fun s t c v d => host.callCode s t c v d gas)
    addrOffset valueOffset dataOffset dataLength

/-- `contract::call_delegate`. -/
def callDelegate (gas : BitVec 64) (addrOffset dataOffset dataLength : BitVec 32) :
    HostFn σ (BitVec 32) :=
  callWithoutValue host "call_delegate" (fun s t c d => host.callDelegate s t c d gas)
    addrOffset dataOffset dataLength

/-- `contract::call_static`. -/
def callStatic (gas : BitVec 64) (addrOffset dataOffset dataLength : BitVec 32) :
    HostFn σ (BitVec 32) :=
  callWithoutValue host "call_static" (fun s t c d => host.callStatic s t c d gas)
    addrOffset dataOffset dataLength

/-- `contract::create_contract`. The salt is validated and read only for CREATE2; the gas
passed to the host is the instance's remaining gas. -/
def createContract (valueOffset codeOffset codeLength dataOffset dataLength saltOffset
    isCreate2 resultOffset : BitVec 32) : HostFn σ (BitVec 32) := do
  let valueOffsetU32 ← validateBytes32Param valueOffset
  let (codeOffsetU32, codeLengthU32) ←
    validateDataParam codeOffset codeLength (some "create_contract_code")
  let (dataOffsetU32, dataLengthU32) ←
    validateDataParam dataOffset dataLength (some "create_contract_data")
  let saltOffsetU32 ←
    (if isCreate2 ≠ 0 then some <$> validateBytes32Param saltOffset else pure none)
  let resultOffsetU32 ← validateAddressParam resultOffset
  let value ← readBytes32 valueOffsetU32
  let creationCode ← readBytesVec codeOffsetU32 codeLengthU32
  let constructorData ← readBytesVec dataOffsetU32 dataLengthU32
  let salt ← saltOffsetU32.mapM readBytes32
  let creatorAddress := host.getAddress (← hostState)
  let gas := BitVec.ofNat 64 (← get).gasLeft
  match host.createContract (← hostState) creatorAddress value creationCode constructorData gas
      salt (isCreate2 ≠ 0) with
  | none => throw .panicked
  | some (s, result) =>
    setHostState s
    writeAddress resultOffsetU32 (result.contractAddress.getD (FixedBytes.zero 20))
    return if result.success then 1 else 0

end HostFunctions

end DtvmEvm
