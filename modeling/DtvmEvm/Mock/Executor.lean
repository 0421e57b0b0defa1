import DtvmEvm.Engine
import DtvmEvm.Mock.Context

/-!
# `DtvmEvm.Mock.Executor`: nested frames of the mock host

`ContractExecutor` (`contract_executor.rs`) loads a frame's code, instantiates it with the
gas budget `context.get_gas_limit()` and a clone of the context, and calls the exported
function `call` or `deploy`. The mock host's sub-call methods (`mock_context.rs`) build the
child context as a clone of the parent with new identity fields and hand it to a fresh
executor. The child runs the full bridge again, so the mock host and the executor are
defined together: `mockHost env run` is the mock's `EvmHost`, whose sub-calls run their child
frames with `run`, and `runEntry env depth` ties the knot with `run := runEntry env (depth - 1)`.

`depth` bounds the nesting. A frame that would run below depth zero is instantiated and then
traps at once, as a native stack exhausted by the recursion makes it. Every theorem about
runs holds at every depth.

`Env` collects what the mock runs on but this repository does not define: the engine's
instantiation and the behaviour of each exported function, `create_host_module`, and the
`sha2` and `sha3` crates behind the trait's default hashes.

A frame's outcome is an `Option`: `none` when the frame, or one of its children, panicked.
The mock can panic in one place, the slice `code[4..]` of `execute_contract_deployment`.
-/

set_option autoImplicit false

namespace DtvmEvm

/-- The collaborators of the mock host that are not part of this repository. -/
structure Env where
  /-- `load_module_from_bytes`, `new_isolation` and `new_instance_with_context` with the
  given gas budget: the instance's linear memory, or the executor's error message. -/
  instantiate : Bytes → Nat → Except String Memory
  /-- What the exported function of the given name does under the given gas budget; a
  missing export traps. -/
  entry : Bytes → String → Nat → Guest
  /-- `create_host_module("env", ..)` in `ContractExecutor::new`. -/
  createHostModule : Except String Unit
  sha256 : Bytes → Word
  keccak256 : Bytes → Word

/-- `ContractExecutionResult`, without `error_message`, which nothing reads. -/
structure ContractExecutionResult where
  success : Bool
  returnData : Bytes
  isReverted : Bool
deriving DecidableEq

/-- A frame run: the outcome of `call_wasm_func` on the named export, or the executor's
error, with the shared cells afterwards; `none` when it panicked. -/
abbrev EntryRun := String → MockContext → Option (Except String Halt × Cells)

/-- `i64::min`. -/
def i64Min (a b : BitVec 64) : BitVec 64 := if a.sle b then a else b

namespace ContractExecutor

/-- `ContractExecutor::call_contract_function`. After `Ok` from `call_wasm_func` the result
is read from the shared cells: reverted when the status is `Some(false)`, and the return
data when there is any. -/
def callContractFunction (run : EntryRun) (context : MockContext) :
    Option (Except String ContractExecutionResult × Cells) := do
  let (outcome, cells) ← run "call" context
  let context := { context with cells }
  match outcome with
  | .error e => return (.error e, cells)
  | .ok halt =>
    if halt.callOk then
      let returnData := if context.hasReturnData then context.cells.returnData else []
      if context.isReverted then
        return (.ok { success := false, returnData, isReverted := true }, cells)
      else
        return (.ok { success := true, returnData, isReverted := false }, cells)
    else
      return (.ok { success := false, returnData := [], isReverted := context.isReverted },
        cells)

/-- `ContractExecutor::deploy_contract`: `Ok(())` whenever `call_wasm_func("deploy")`
returns `Ok`. -/
def deployContract (run : EntryRun) (context : MockContext) :
    Option (Except String Unit × Cells) := do
  let (outcome, cells) ← run "deploy" context
  match outcome with
  | .error e => return (.error e, cells)
  | .ok halt =>
    if halt.callOk then return (.ok (), cells)
    else return (.error "Failed to deploy contract", cells)

end ContractExecutor

namespace MockContext

variable (run : EntryRun) (env : Env) (self : MockContext)

/-- The context `execute_contract_call` sets up: a clone of `self` with new identity. -/
def callContext (targetCode callData : Bytes) (caller target : Address) (value : Word) :
    MockContext :=
  { self with
    caller := caller, address := target, callValue := value, callData := callData,
    contractCode := targetCode }

/-- `MockContext::execute_contract_call`. -/
def executeContractCall (targetCode callData : Bytes) (caller target : Address)
    (value : Word) : Option (Except String ContractExecutionResult × Cells) :=
  match env.createHostModule with
  | .error e => some (.error e, self.cells)
  | .ok () =>
    ContractExecutor.callContractFunction run
      (self.callContext targetCode callData caller target value)

/-- `code[4..]`: `none` is the slice panic. -/
def stripPrefix (code : Bytes) : Option Bytes :=
  if 4 ≤ code.length then some (code.drop 4) else none

/-- `MockContext::execute_contract_deployment`. The constructor runs `code[4..]`. A
deployment that `deploy_contract` accepts counts as a success with the shared return data,
whatever the constructor's status. -/
def executeContractDeployment (code data : Bytes) (creator newAddress : Address)
    (value : Word) : Option (Except String ContractExecutionResult × Cells) := do
  let strippedCode ← stripPrefix code
  let deployContext := self.callContext strippedCode data creator newAddress value
  match env.createHostModule with
  | .error e => return (.error e, self.cells)
  | .ok () =>
    let (outcome, cells) ← ContractExecutor.deployContract run deployContext
    match outcome with
    | .ok () =>
      return (.ok { success := true, returnData := cells.returnData, isReverted := false },
        cells)
    | .error _ => return (.ok { success := false, returnData := [], isReverted := false }, cells)

/-- The code a sub-call runs: the target's registered code, or the caller's own code for an
unknown target. -/
def targetCode (target : Address) : Bytes :=
  match self.getContractInfo target with
  | some info => info.code
  | none => self.contractCode

/-- The four sub-call methods: look up the target's code, run the child with the given
identity, record its return data. -/
def callVariant (target caller childAddress : Address) (childValue : Word) (data : Bytes)
    (gas : BitVec 64) : Option (MockContext × ContractCallResult) := do
  let (outcome, cells) ← executeContractCall run env self (self.targetCode target) data caller
    childAddress childValue
  let self := { self with cells }
  match outcome with
  | .ok result =>
    let gasUsed := i64Min gas 50000
    let self := self.setReturnData result.returnData
    if result.success && !result.isReverted then
      return (self, .ofSuccess result.returnData gasUsed)
    else
      return (self, .ofFailure result.returnData gasUsed)
  | .error _ => return (self, .ofFailure [] (i64Min gas 21000))

/-- `EvmHost::call_contract`: the child runs at the target with the given value. -/
def callContract (target caller : Address) (value : Word) (data : Bytes) (gas : BitVec 64) :
    Option (MockContext × ContractCallResult) :=
  callVariant run env self target caller target value data gas

/-- `EvmHost::call_code`: the child keeps the current address. -/
def callCode (target caller : Address) (value : Word) (data : Bytes) (gas : BitVec 64) :
    Option (MockContext × ContractCallResult) :=
  callVariant run env self target caller self.address value data gas

/-- `EvmHost::call_delegate`: the child keeps the current address and value. -/
def callDelegate (target caller : Address) (data : Bytes) (gas : BitVec 64) :
    Option (MockContext × ContractCallResult) :=
  callVariant run env self target caller self.address self.callValue data gas

/-- `EvmHost::call_static`: the child runs at the target with zero value. -/
def callStatic (target caller : Address) (data : Bytes) (gas : BitVec 64) :
    Option (MockContext × ContractCallResult) :=
  callVariant run env self target caller target (FixedBytes.zero 32) data gas

/-- The registry name of a created contract: the prefix and the hex of the address's last
four bytes. -/
def createdName (isCreate2 : Bool) (newAddress : Address) : String :=
  (if isCreate2 then "CREATE2_Contract_0x" else "CREATE_Contract_0x") ++
    hexEncode (newAddress.bytes.drop 16)

/-- `EvmHost::create_contract`. Empty code fails; the constructor runs only for non-empty
constructor data; the new contract is registered with the code as given. The registration
after the `if` of the source is written out in both branches that reach it. -/
def createContract (creator : Address) (value : Word) (code data : Bytes) (_gas : BitVec 64)
    (_salt : Option Word) (isCreate2 : Bool) : Option (MockContext × ContractCreateResult) := do
  let newAddress := if isCreate2 then generateCreate2Address else generateCreateAddress
  let gasUsed := BitVec.ofInt 64 (21000 + code.length * 200 + data.length * 68)
  let register (self : MockContext) :=
    self.registerContract newAddress (createdName isCreate2 newAddress) code
  if code.isEmpty then some (self, .ofFailure [] gasUsed)
  else if data.isEmpty then some (register self, .ofSuccess newAddress [] gasUsed)
  else do
    let (outcome, cells) ←
      executeContractDeployment run env self code data creator newAddress value
    let self := { self with cells }
    match outcome with
    | .error _ => return (self, .ofFailure [] gasUsed)
    | .ok result =>
      let self := self.setReturnData result.returnData
      if result.success then
        return (register self, .ofSuccess newAddress result.returnData gasUsed)
      else return (self, .ofFailure result.returnData gasUsed)

end MockContext

/-- The mock host, `impl EvmHost for MockContext`, whose sub-calls run their child frames
with `run`. The mock keeps the trait's default sizes and arithmetic. -/
def mockHost (env : Env) (run : EntryRun) : EvmHost MockContext where
  getAddress s := s.address
  getBlockHash _ _ := some MockContext.mockBlockHash
  callDataCopy s := s.callData
  getCaller s := s.caller
  getCallValue s := s.callValue
  getChainId s := s.chainId
  getGasLeft _ gasLeft := gasLeft
  getBlockGasLimit s := s.blockInfo.gasLimit
  getBlockNumber s := s.blockInfo.number
  getTxOrigin s := s.txInfo.origin
  getBlockTimestamp s := s.blockInfo.timestamp
  storageStore s key value := s.storageStore key value
  storageLoad s key := s.storageLoad key
  emitLogEvent s event := s.emitLogEvent event
  codeCopy s := s.contractCode
  getBaseFee s := s.blockInfo.baseFee
  getBlobBaseFee s := s.blockInfo.blobBaseFee
  getBlockCoinbase s := s.blockInfo.coinbase
  getTxGasPrice s := s.txInfo.gasPrice
  getExternalBalance _ _ := MockContext.mockBalance
  getExternalCodeSize _ _ := some 100
  getExternalCodeHash _ _ := some MockContext.mockCodeHash
  externalCodeCopy _ _ := some [0x60, 0x00, 0x60, 0x00, 0xf3]
  getBlockPrevRandao s := s.blockInfo.prevRandao
  selfDestruct s _ := (s, MockContext.mockBalance)
  callContract s := s.callContract run env
  callCode s := s.callCode run env
  callDelegate s := s.callDelegate run env
  callStatic s := s.callStatic run env
  createContract s := s.createContract run env
  returnDataCopy s := s.cells.returnData
  finish s data := s.finish data
  revert s data := s.revert data
  invalid s := s.invalid
  sha256 _ := env.sha256
  keccak256 _ := env.keccak256

/-- The start of a frame on `context`, with the budget `get_gas_limit() as u64`. -/
def MockContext.startEvent (context : MockContext) : Event :=
  .frameStarted context.address context.caller context.callValue context.callData
    context.contractCode context.getGasLimit.toNat

/-- The first half of a frame: instantiate the context's code with the budget
`get_gas_limit() as u64`, and record the frame's start. -/
def startFrame (env : Env) (context : MockContext) : Except String (Memory × MockContext) :=
  match env.instantiate context.contractCode context.getGasLimit.toNat with
  | .error e => .error e
  | .ok memory => .ok (memory, context.record context.startEvent)

/-- A frame at nesting depth `depth`: instantiate, then run the export on an instance that
holds a clone of the context, with the mock host one level down for its sub-calls. -/
def runEntry (env : Env) : Nat → EntryRun
  | depth, name, context =>
    match startFrame env context with
    | .error e => some (.error e, context.cells)
    | .ok (memory, context) =>
      match depth with
      | 0 => some (.ok .trapped, context.cells)
      | depth + 1 =>
        let budget := context.getGasLimit.toNat
        let (halt, inst) := runGuest (mockHost env (runEntry env depth))
          (env.entry context.contractCode name budget)
          (.start memory context budget)
        if halt = .panicked then none else some (.ok halt, inst.extraCtx.cells)

end DtvmEvm
