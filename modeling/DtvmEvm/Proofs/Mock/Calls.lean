import DtvmEvm.Proofs.Mock.Storage

/-!
# `DtvmEvm.Proofs.Mock.Calls`: what a sub-call does to its caller

A guest's `callContract`, `callCode`, `callDelegate` or `callStatic` goes through
`call_with_value` or `call_without_value` of the bridge (`callWithValue_ok`,
`callWithoutValue_ok`) to the mock's `call_*` method, `callVariant`. That method runs the
child frame through the executor on a clone of the caller's context. Its result has three
cases, by what the child's run returned (`callVariant_of_none`, `callVariant_of_error`,
`callVariant_of_ok`). On the mock host with `runEntry` it has two
(`callVariant_runEntry`): the child's code was not instantiated and nothing changed, or
the child ran on the shared cells, and then `set_return_data` wrote the caller's return
data and status.

The return data and the status are cells shared by all frames. So after a sub-call, the
caller sees the latest return data of the whole run, `returnDataAfter`, whichever frame
wrote it, and its status reads `Some(true)`, whatever the child did. `returnDataAfter` and
`statusAfter` fold the history's writes to these two cells, as `Cells.record` applies them.

The main results:

* `callContract_childStarted` and its three siblings: the child frame of each variant, as
  the bridge and the mock derive it; the child's caller is always the current frame's
  caller;
* `MockContext.callVariant_callerCells`: the caller's status and return data after a
  sub-call;
* `subCall_child_caller_is_frame_caller`, `subCall_rewrites_caller_status` and
  `subCall_return_data_is_latest_write`: the same, each with a run of the scenario below;
* `frameBudgets_are_gas_limit`: every frame of a run gets the root's gas limit as budget,
  and the sub-call and create primitives leave the caller's remaining gas alone.

The scenario at the end runs a frame that calls two registered contracts: the first
finishes with one byte, the second calls `invalid`.
-/

set_option autoImplicit false

namespace DtvmEvm

/-! ### The return-data and status cells -/

/-- What `e` writes to the return-data cell. -/
def Event.returnDataWritten : Event → Option Bytes
  | .finished data | .reverted data | .returnDataSet data => some data
  | _ => none

/-- What `e` writes to the status cell: `Some(true)` for finished, `Some(false)` for
reverted or invalid. -/
def Event.statusWritten : Event → Option Bool
  | .finished _ | .returnDataSet _ => some true
  | .reverted _ | .invalidated => some false
  | _ => none

/-- The return-data cell after the writes of `es`, from `init`. -/
def returnDataAfter (init : Bytes) (es : List Event) : Bytes :=
  es.foldl (fun d e => e.returnDataWritten.getD d) init

/-- The status cell after the writes of `es`, from `init`. -/
def statusAfter (init : Option Bool) (es : List Event) : Option Bool :=
  es.foldl (fun st e => e.statusWritten.or st) init

namespace Cells

variable (c : Cells) (e : Event) (es : List Event)

@[simp] theorem returnData_record : (c.record e).returnData = e.returnDataWritten.getD c.returnData := by
  cases e <;> rfl

@[simp] theorem executionStatus_record :
    (c.record e).executionStatus = e.statusWritten.or c.executionStatus := by
  cases e <;> rfl

theorem returnData_recordAll : (c.recordAll es).returnData = returnDataAfter c.returnData es := by
  induction es generalizing c with
  | nil => rfl
  | cons e es ih => exact (ih (c.record e)).trans (by rw [returnData_record]; rfl)

theorem executionStatus_recordAll :
    (c.recordAll es).executionStatus = statusAfter c.executionStatus es := by
  induction es generalizing c with
  | nil => rfl
  | cons e es ih => exact (ih (c.record e)).trans (by rw [executionStatus_record]; rfl)

end Cells

namespace MockContext

variable (self : MockContext) (e : Event) (data code : Bytes) (caller target : Address)
  (value : Word)

@[simp] theorem cells_record : (self.record e).cells = self.cells.record e := rfl

@[simp] theorem setReturnData_cells :
    (self.setReturnData data).cells = self.cells.record (.returnDataSet data) := rfl

@[simp] theorem startEvent_callContext :
    (self.callContext code data caller target value).startEvent =
      .frameStarted target caller value data code self.getGasLimit.toNat := rfl

end MockContext

/-! ### The sub-call primitives of the bridge -/

namespace HostFunctions

open HostFn MemoryAccessor

variable {σ : Type} {host : EvmHost σ} {s s' : Instance σ} {r : BitVec 32} {name : String}

/-- `finish_call`: a host that did not panic leaves its new state and the success code. -/
theorem finishCall_ok {outcome : Option (σ × ContractCallResult)}
    (h : finishCall outcome s = .ok r s') :
    ∃ (st : σ) (result : ContractCallResult), outcome = some (st, result) ∧
      s' = { s with extraCtx := st } ∧ r = if result.success then 1 else 0 := by
  rcases outcome with _ | ⟨st, result⟩
  · cases h
  · cases h; exact ⟨st, result, rfl, rfl, rfl⟩

/-- A `call_contract` or `call_code` that succeeds read a validated address, value and data,
asked the host's method with the current frame's caller, kept the host's new state and
returned `1` for success. -/
theorem callWithValue_ok
    {method : σ → Address → Address → Word → Bytes → Option (σ × ContractCallResult)}
    {addrOffset valueOffset dataOffset dataLength : BitVec 32}
    (h : callWithValue host name method addrOffset valueOffset dataOffset dataLength s = .ok r s') :
    ∃ (target : Address) (value : Word) (st : σ) (result : ContractCallResult),
      target.bytes = (s.memory.bytes.drop addrOffset.toNat).take 20 ∧
      value.bytes = (s.memory.bytes.drop valueOffset.toNat).take 32 ∧
      method s.extraCtx target (host.getCaller s.extraCtx) value
        ((s.memory.bytes.drop dataOffset.toNat).take dataLength.toNat) = some (st, result) ∧
      s' = { s with extraCtx := st } ∧ r = if result.success then 1 else 0 := by
  obtain ⟨-, hav, h⟩ := validateOffsetForType_bind_ok h
  obtain ⟨-, hvv, h⟩ := validateOffsetForType_bind_ok h
  obtain ⟨-, -, hdv, h⟩ := validateDataParam_bind_ok h
  simp only [readAddress, readBytes32, readBytesVec, bind_of_ok (readFixed_of_valid _ hav),
    bind_of_ok (readFixed_of_valid _ hvv), bind_of_ok (readBytes_of_valid _ hdv),
    hostState_bind] at h
  obtain ⟨st, result, hm, rfl, rfl⟩ := finishCall_ok h
  exact ⟨_, _, st, result, rfl, rfl, hm, rfl, rfl⟩

/-- A `call_delegate` or `call_static` that succeeds read a validated address and data, and
asked the host's method with the current frame's caller. -/
theorem callWithoutValue_ok
    {method : σ → Address → Address → Bytes → Option (σ × ContractCallResult)}
    {addrOffset dataOffset dataLength : BitVec 32}
    (h : callWithoutValue host name method addrOffset dataOffset dataLength s = .ok r s') :
    ∃ (target : Address) (st : σ) (result : ContractCallResult),
      target.bytes = (s.memory.bytes.drop addrOffset.toNat).take 20 ∧
      method s.extraCtx target (host.getCaller s.extraCtx)
        ((s.memory.bytes.drop dataOffset.toNat).take dataLength.toNat) = some (st, result) ∧
      s' = { s with extraCtx := st } ∧ r = if result.success then 1 else 0 := by
  obtain ⟨-, hav, h⟩ := validateOffsetForType_bind_ok h
  obtain ⟨-, -, hdv, h⟩ := validateDataParam_bind_ok h
  simp only [readAddress, readBytesVec, bind_of_ok (readFixed_of_valid _ hav),
    bind_of_ok (readBytes_of_valid _ hdv), hostState_bind] at h
  obtain ⟨st, result, hm, rfl, rfl⟩ := finishCall_ok h
  exact ⟨_, st, result, rfl, hm, rfl, rfl⟩

/-- A `create_contract` that succeeds read a validated value, code and data, asked the host
with the current address as creator and the instance's remaining gas, kept the host's new
state and wrote the new address, or the zero address, at the result offset. -/
theorem createContract_ok {valueOffset codeOffset codeLength dataOffset dataLength saltOffset
      isCreate2 resultOffset : BitVec 32}
    (h : createContract host valueOffset codeOffset codeLength dataOffset dataLength saltOffset
      isCreate2 resultOffset s = .ok r s') :
    ∃ (value : Word) (salt : Option Word) (st : σ) (result : ContractCreateResult),
      value.bytes = (s.memory.bytes.drop valueOffset.toNat).take 32 ∧
      host.createContract s.extraCtx (host.getAddress s.extraCtx) value
        ((s.memory.bytes.drop codeOffset.toNat).take codeLength.toNat)
        ((s.memory.bytes.drop dataOffset.toNat).take dataLength.toNat)
        (BitVec.ofNat 64 s.gasLeft) salt (isCreate2 ≠ 0) = some (st, result) ∧
      s.memory.validateWasmAddr resultOffset.toNat 20 = true ∧
      s' = { s with extraCtx := st, memory := (s.memory.overwrite resultOffset.toNat
        (result.contractAddress.getD (.zero 20)).bytes) } ∧
      r = if result.success then 1 else 0 := by
  obtain ⟨-, hvv, h⟩ := validateOffsetForType_bind_ok h
  obtain ⟨-, -, hcv, h⟩ := validateDataParam_bind_ok h
  obtain ⟨-, -, hdv, h⟩ := validateDataParam_bind_ok h
  dsimp only at h
  -- the salt is read only for CREATE2; both branches keep the instance
  obtain ⟨_, _, hsalt, h₁⟩ := bind_eq_ok h
  obtain rfl := ((readOnly_validateBytes32Param _).map _ |>.ite _ (readOnly_pure _)).eq_of_ok hsalt
  obtain ⟨-, hrv, h₂⟩ := validateOffsetForType_bind_ok h₁
  simp only [readBytes32, readBytesVec, bind_of_ok (readFixed_of_valid _ hvv),
    bind_of_ok (readBytes_of_valid _ hcv), bind_of_ok (readBytes_of_valid _ hdv)] at h₂
  obtain ⟨salt, _, hs, h₃⟩ := bind_eq_ok h₂
  obtain rfl := (ReadOnly.optionMapM readOnly_readBytes32 _).eq_of_ok hs
  simp only [hostState_bind, bind_of_ok (get_apply _)] at h₃
  revert h₃
  generalize hm : host.createContract _ _ _ _ _ _ _ _ = outcome
  rcases outcome with _ | ⟨st, result⟩ <;> intro h
  · cases h
  · simp only [bind_of_ok (setHostState_apply _ _), writeAddress, bind_apply, writeBytes_apply,
      FixedBytes.length_eq, Nat.reducePow, Nat.reduceMod, hrv, if_true] at h
    cases h
    exact ⟨_, salt, st, result, rfl, hm, hrv, rfl, rfl⟩

end HostFunctions

/-! ### A frame run -/

section Frame

variable {env : Env} {depth : Nat} {name : String} {ctx : MockContext}

/-- A frame whose code cannot be instantiated fails at once and changes nothing. -/
theorem runEntry_of_error {e : String}
    (hinst : env.instantiate ctx.contractCode ctx.getGasLimit.toNat = .error e) :
    runEntry env depth name ctx = some (.error e, ctx.cells) := by
  cases depth <;> simp only [runEntry, startFrame, hinst]

/-- A frame whose code is instantiated reaches a halt, and its cells are the caller's with
its start and its run's events recorded. -/
theorem runEntry_ok {outcome : Except String Halt} {cells : Cells} {memory : Memory}
    (hinst : env.instantiate ctx.contractCode ctx.getGasLimit.toNat = .ok memory)
    (h : runEntry env depth name ctx = some (outcome, cells)) :
    ∃ halt es, outcome = .ok halt ∧ cells = (ctx.cells.record ctx.startEvent).recordAll es := by
  have hstart : startFrame env ctx = .ok (memory, ctx.record ctx.startEvent) := by
    simp only [startFrame, hinst]
  cases depth with
  | zero =>
    simp only [runEntry, hstart, Option.some.injEq, Prod.mk.injEq] at h
    obtain ⟨rfl, rfl⟩ := h
    exact ⟨_, [], rfl, rfl⟩
  | succ depth =>
    rw [runEntry, hstart] at h
    dsimp only at h
    split at h
    · cases h
    · cases h
      obtain ⟨-, es, hes, -⟩ := runGuest_mockHost_evolves (runEntry_evolves env depth) _ _
      exact ⟨_, es, rfl, hes⟩

end Frame

/-! ### The mock's sub-call -/

namespace MockContext

variable {run : EntryRun} {env : Env} {self : MockContext} {target caller childAddress : Address}
  {childValue : Word} {data : Bytes} {gas : BitVec 64}

/-- A child that panicked makes the sub-call panic. -/
theorem callVariant_of_none (hmod : env.createHostModule = .ok ())
    (hrun : run "call" (self.callContext (self.targetCode target) data caller childAddress
      childValue) = none) :
    callVariant run env self target caller childAddress childValue data gas = none := by
  unfold callVariant executeContractCall
  rw [hmod]
  simp only [ContractExecutor.callContractFunction_eq, hrun, Option.map_none', Option.bind_eq_bind,
    Option.none_bind]

/-- A child the executor could not start: the cells it hands back, no return data, failure. -/
theorem callVariant_of_error (hmod : env.createHostModule = .ok ()) {e : String} {cells : Cells}
    (hrun : run "call" (self.callContext (self.targetCode target) data caller childAddress
      childValue) = some (.error e, cells)) :
    callVariant run env self target caller childAddress childValue data gas =
      some ({ self with cells }, .ofFailure [] (i64Min gas 21000)) := by
  unfold callVariant executeContractCall
  rw [hmod]
  simp only [ContractExecutor.callContractFunction_eq, hrun, Option.map_some', Except.map]
  rfl

/-- A child that halted: `set_return_data` with the shared return data if it returned or
exited, and success unless the shared status reads `Some(false)`. -/
theorem callVariant_of_ok (hmod : env.createHostModule = .ok ()) {halt : Halt} {cells : Cells}
    (hrun : run "call" (self.callContext (self.targetCode target) data caller childAddress
      childValue) = some (.ok halt, cells)) :
    callVariant run env self target caller childAddress childValue data gas =
      some (({ self with cells }).setReturnData (if halt.callOk then cells.returnData else []),
        { success := halt.callOk && !(cells.executionStatus == some false)
          returnData := if halt.callOk then cells.returnData else []
          gasUsed := i64Min gas 50000 }) := by
  unfold callVariant executeContractCall
  rw [hmod]
  simp only [ContractExecutor.callContractFunction_eq, hrun, Option.map_some', Except.map]
  cases halt.callOk <;> cases cells.executionStatus == some false <;> rfl

/-- A sub-call on the mock host: either the child's code was not instantiated and nothing
changed, or the child started on the caller's cells with the given identity, its run
recorded `es`, and `set_return_data` recorded what the caller sees. -/
theorem callVariant_runEntry (hmod : env.createHostModule = .ok ()) {depth : Nat}
    {s' : MockContext} {result : ContractCallResult}
    (h : callVariant (runEntry env depth) env self target caller childAddress childValue data
      gas = some (s', result)) :
    (∃ (halt : Halt) (es : List Event), s' = ({ self with cells := (self.cells.record (.frameStarted childAddress caller
        childValue data (self.targetCode target) self.getGasLimit.toNat)).recordAll es }).setReturnData
          (if halt.callOk then returnDataAfter self.cells.returnData es else []) ∧
      result.success = (halt.callOk && !(statusAfter self.cells.executionStatus es == some false))) ∨
    (s' = self ∧ result.success = false) := by
  cases hr : runEntry env depth "call"
      (self.callContext (self.targetCode target) data caller childAddress childValue) with
  | none => rw [callVariant_of_none hmod hr] at h; cases h
  | some p =>
    obtain ⟨outcome, cells⟩ := p
    cases hi : env.instantiate (self.targetCode target) self.getGasLimit.toNat with
    | error e =>
      rw [runEntry_of_error hi] at hr
      cases hr
      rw [callVariant_of_error hmod (runEntry_of_error hi)] at h
      cases h
      exact .inr ⟨rfl, rfl⟩
    | ok memory =>
      obtain ⟨halt, es, rfl, rfl⟩ := runEntry_ok hi hr
      rw [callVariant_of_ok hmod hr] at h
      cases h
      refine .inl ⟨halt, es, ?_, ?_⟩ <;>
        simp only [startEvent_callContext, Cells.returnData_recordAll, Cells.executionStatus_recordAll]
        <;> rfl

/-- After a sub-call from `s`: nothing changed, or the first event recorded was the start of
the child with address, caller, value, data and code, and the caller's budget. -/
def ChildStarted (s s' : MockContext) (address caller : Address) (value : Word)
    (data code : Bytes) : Prop :=
  s' = s ∨ ∃ es, s'.cells.history =
    s.cells.history ++ .frameStarted address caller value data code s.getGasLimit.toNat :: es

theorem callVariant_childStarted (hmod : env.createHostModule = .ok ()) {depth : Nat}
    {s' : MockContext} {result : ContractCallResult}
    (h : callVariant (runEntry env depth) env self target caller childAddress childValue data
      gas = some (s', result)) :
    self.ChildStarted s' childAddress caller childValue data (self.targetCode target) := by
  rcases callVariant_runEntry hmod h with ⟨halt, es, rfl, -⟩ | ⟨rfl, -⟩
  · exact .inr ⟨es ++ [.returnDataSet
      (if halt.callOk then returnDataAfter self.cells.returnData es else [])], by simp⟩
  · exact .inl rfl

/-- The caller's cells after a sub-call on the mock host: unchanged, or the child started
and its run recorded `es`, and then `set_return_data` set the caller's status to `Some(true)`
and its return data to the latest return data of the run if the child returned or exited. -/
theorem callVariant_callerCells (hmod : env.createHostModule = .ok ()) {depth : Nat}
    {s' : MockContext} {result : ContractCallResult}
    (h : callVariant (runEntry env depth) env self target caller childAddress childValue data
      gas = some (s', result)) :
    s' = self ∨ ∃ (halt : Halt) (es : List Event),
      s'.cells.executionStatus = some true ∧
      s'.cells.returnData = (if halt.callOk then returnDataAfter self.cells.returnData es else []) ∧
      result.success = (halt.callOk && !(statusAfter self.cells.executionStatus es == some false)) ∧
      s'.cells.history = self.cells.history ++ .frameStarted childAddress caller childValue data
        (self.targetCode target) self.getGasLimit.toNat :: es ++ [.returnDataSet s'.cells.returnData] := by
  rcases callVariant_runEntry hmod h with ⟨halt, es, rfl, hres⟩ | ⟨rfl, -⟩
  · exact .inr ⟨halt, es, rfl, rfl, hres, by simp [Event.returnDataWritten]⟩
  · exact .inl rfl

end MockContext

/-! ### The child frames of the bridge's sub-calls -/

section SubCalls

variable {env : Env} (hmod : env.createHostModule = .ok ()) {depth : Nat}
  {inst inst' : Instance MockContext} {r : BitVec 32} {gas : BitVec 64}
  {addrOffset valueOffset dataOffset dataLength : BitVec 32}

include hmod

/-- `call_contract`: the child runs at the target, with the value read, and with the current
frame's caller as its caller. -/
theorem callContract_childStarted
    (h : HostFunctions.callContract (mockHost env (runEntry env depth)) gas addrOffset valueOffset
      dataOffset dataLength inst = .ok r inst') :
    ∃ (target : Address) (value : Word),
      target.bytes = (inst.memory.bytes.drop addrOffset.toNat).take 20 ∧
      value.bytes = (inst.memory.bytes.drop valueOffset.toNat).take 32 ∧
      inst.extraCtx.ChildStarted inst'.extraCtx target inst.extraCtx.caller value
        ((inst.memory.bytes.drop dataOffset.toNat).take dataLength.toNat)
        (inst.extraCtx.targetCode target) := by
  obtain ⟨target, value, _, _, ht, hv, hm, rfl, -⟩ := HostFunctions.callWithValue_ok h
  exact ⟨target, value, ht, hv, MockContext.callVariant_childStarted hmod hm⟩

/-- `call_code`: the child runs at the current address, with the value read, and with the
current frame's caller as its caller. -/
theorem callCode_childStarted
    (h : HostFunctions.callCode (mockHost env (runEntry env depth)) gas addrOffset valueOffset
      dataOffset dataLength inst = .ok r inst') :
    ∃ (target : Address) (value : Word),
      target.bytes = (inst.memory.bytes.drop addrOffset.toNat).take 20 ∧
      value.bytes = (inst.memory.bytes.drop valueOffset.toNat).take 32 ∧
      inst.extraCtx.ChildStarted inst'.extraCtx inst.extraCtx.address inst.extraCtx.caller value
        ((inst.memory.bytes.drop dataOffset.toNat).take dataLength.toNat)
        (inst.extraCtx.targetCode target) := by
  obtain ⟨target, value, _, _, ht, hv, hm, rfl, -⟩ := HostFunctions.callWithValue_ok h
  exact ⟨target, value, ht, hv, MockContext.callVariant_childStarted hmod hm⟩

/-- `call_delegate`: the child runs at the current address, with the current value and the
current frame's caller. -/
theorem callDelegate_childStarted
    (h : HostFunctions.callDelegate (mockHost env (runEntry env depth)) gas addrOffset dataOffset
      dataLength inst = .ok r inst') :
    ∃ target : Address, target.bytes = (inst.memory.bytes.drop addrOffset.toNat).take 20 ∧
      inst.extraCtx.ChildStarted inst'.extraCtx inst.extraCtx.address inst.extraCtx.caller
        inst.extraCtx.callValue ((inst.memory.bytes.drop dataOffset.toNat).take dataLength.toNat)
        (inst.extraCtx.targetCode target) := by
  obtain ⟨target, _, _, ht, hm, rfl, -⟩ := HostFunctions.callWithoutValue_ok h
  exact ⟨target, ht, MockContext.callVariant_childStarted hmod hm⟩

/-- `call_static`: the child runs at the target, with zero value, and with the current
frame's caller as its caller. -/
theorem callStatic_childStarted
    (h : HostFunctions.callStatic (mockHost env (runEntry env depth)) gas addrOffset dataOffset
      dataLength inst = .ok r inst') :
    ∃ target : Address, target.bytes = (inst.memory.bytes.drop addrOffset.toNat).take 20 ∧
      inst.extraCtx.ChildStarted inst'.extraCtx target inst.extraCtx.caller (.zero 32)
        ((inst.memory.bytes.drop dataOffset.toNat).take dataLength.toNat)
        (inst.extraCtx.targetCode target) := by
  obtain ⟨target, _, _, ht, hm, rfl, -⟩ := HostFunctions.callWithoutValue_ok h
  exact ⟨target, ht, MockContext.callVariant_childStarted hmod hm⟩

end SubCalls

/-! ### A run with two sub-calls -/

/-- The memory every frame of the scenario starts with: the zero address at offset 0, the
address `scenarioTarget` at 20, and zeros from 40 on. -/
def scenarioMemory : Memory := .ofBytes (List.replicate 20 0 ++ 1 :: List.replicate 43 0)

/-- The address the second contract is registered at. -/
def scenarioTarget : Address := .withHead 20 [1] (by decide)

/-- The scenario's exported functions, by code. `[2]` calls the zero address and
`scenarioTarget` with gas `0`, copies one byte of the return data to offset 40 and finishes
with it; `[1]` finishes with the byte `1`; `[3]` calls `invalid`; `[4]` reverts. -/
def scenarioEnv : Env where
  instantiate _ _ := .ok scenarioMemory
  entry code _ _ :=
    if code = [1] then .call (.finish 20 1) fun _ => .ret
    else if code = [3] then .call .invalid fun _ => .ret
    else if code = [4] then .call (.revert 0 0) fun _ => .ret
    else .call (.callContract 0 0 32 0 0) fun _ => .call (.callContract 0 20 32 0 0) fun _ =>
      .call (.returnDataCopy 40 0 1) fun _ => .call (.finish 40 1) fun _ => .ret
  createHostModule := .ok ()
  sha256 _ := .zero 32
  keccak256 _ := .zero 32

/-- The builder's context for code `[2]`, with `[1]` registered at the zero address and
`[3]` at `scenarioTarget`. -/
def scenarioContext : MockContext :=
  ((MockContext.build [2]).registerContract (.zero 20) "first" [1]).registerContract
    scenarioTarget "second" [3]

/-- Each of the four sub-calls runs its child with the current frame's caller as the child's
caller, so `call_contract`, `call_code` and `call_static` do not pass the current address.
In the scenario the first child starts with the builder's caller `0x04..`, not with the
calling frame's address `0x05..`. -/
theorem subCall_child_caller_is_frame_caller :
    (∀ env : Env, env.createHostModule = .ok () → ∀ (depth : Nat) (inst inst' : Instance MockContext)
      (r : BitVec 32) (gas : BitVec 64) (addrOffset valueOffset dataOffset dataLength : BitVec 32),
      HostFunctions.callContract (mockHost env (runEntry env depth)) gas addrOffset valueOffset
        dataOffset dataLength inst = .ok r inst' →
      ∃ (target : Address) (value : Word),
        target.bytes = (inst.memory.bytes.drop addrOffset.toNat).take 20 ∧
        value.bytes = (inst.memory.bytes.drop valueOffset.toNat).take 32 ∧
        inst.extraCtx.ChildStarted inst'.extraCtx target inst.extraCtx.caller value
          ((inst.memory.bytes.drop dataOffset.toNat).take dataLength.toNat)
          (inst.extraCtx.targetCode target)) ∧
    (∀ env : Env, env.createHostModule = .ok () → ∀ (depth : Nat) (inst inst' : Instance MockContext)
      (r : BitVec 32) (gas : BitVec 64) (addrOffset valueOffset dataOffset dataLength : BitVec 32),
      HostFunctions.callCode (mockHost env (runEntry env depth)) gas addrOffset valueOffset
        dataOffset dataLength inst = .ok r inst' →
      ∃ (target : Address) (value : Word),
        target.bytes = (inst.memory.bytes.drop addrOffset.toNat).take 20 ∧
        value.bytes = (inst.memory.bytes.drop valueOffset.toNat).take 32 ∧
        inst.extraCtx.ChildStarted inst'.extraCtx inst.extraCtx.address inst.extraCtx.caller value
          ((inst.memory.bytes.drop dataOffset.toNat).take dataLength.toNat)
          (inst.extraCtx.targetCode target)) ∧
    (∀ env : Env, env.createHostModule = .ok () → ∀ (depth : Nat) (inst inst' : Instance MockContext)
      (r : BitVec 32) (gas : BitVec 64) (addrOffset dataOffset dataLength : BitVec 32),
      HostFunctions.callDelegate (mockHost env (runEntry env depth)) gas addrOffset dataOffset
        dataLength inst = .ok r inst' →
      ∃ target : Address, target.bytes = (inst.memory.bytes.drop addrOffset.toNat).take 20 ∧
        inst.extraCtx.ChildStarted inst'.extraCtx inst.extraCtx.address inst.extraCtx.caller
          inst.extraCtx.callValue ((inst.memory.bytes.drop dataOffset.toNat).take dataLength.toNat)
          (inst.extraCtx.targetCode target)) ∧
    (∀ env : Env, env.createHostModule = .ok () → ∀ (depth : Nat) (inst inst' : Instance MockContext)
      (r : BitVec 32) (gas : BitVec 64) (addrOffset dataOffset dataLength : BitVec 32),
      HostFunctions.callStatic (mockHost env (runEntry env depth)) gas addrOffset dataOffset
        dataLength inst = .ok r inst' →
      ∃ target : Address, target.bytes = (inst.memory.bytes.drop addrOffset.toNat).take 20 ∧
        inst.extraCtx.ChildStarted inst'.extraCtx target inst.extraCtx.caller (.zero 32)
          ((inst.memory.bytes.drop dataOffset.toNat).take dataLength.toNat)
          (inst.extraCtx.targetCode target)) ∧
    (runEntry scenarioEnv 2 "call" scenarioContext).map (fun r => r.2.history.get? 3) =
      some (some (.frameStarted (.zero 20) scenarioContext.caller (.zero 32) [] [1] 100)) ∧
    scenarioContext.caller ≠ scenarioContext.address :=
  ⟨fun _ hmod _ _ _ _ _ _ _ _ _ h => callContract_childStarted hmod h,
    fun _ hmod _ _ _ _ _ _ _ _ _ h => callCode_childStarted hmod h,
    fun _ hmod _ _ _ _ _ _ _ _ h => callDelegate_childStarted hmod h,
    fun _ hmod _ _ _ _ _ _ _ _ h => callStatic_childStarted hmod h, by decide, by decide⟩

/-- Every sub-call of the mock host whose child started leaves the caller's shared status
reading `Some(true)`, whatever the child did. In the scenario the running frame's status is
written four times by its two sub-calls, once with `Some(false)`, before the frame's own
`finish`. -/
theorem subCall_rewrites_caller_status :
    (∀ env : Env, env.createHostModule = .ok () → ∀ (depth : Nat) (s s' : MockContext)
      (target caller childAddress : Address) (childValue : Word) (data : Bytes) (gas : BitVec 64)
      (result : ContractCallResult),
      MockContext.callVariant (runEntry env depth) env s target caller childAddress childValue
        data gas = some (s', result) →
      s' = s ∨ s'.cells.executionStatus = some true) ∧
    (runEntry scenarioEnv 2 "call" scenarioContext).map
        (fun r => (r.2.history.drop 3).filterMap Event.statusWritten) =
      some [true, true, false, true, true] := by
  refine ⟨fun _ hmod _ _ _ _ _ _ _ _ _ _ h => ?_, by decide⟩
  rcases MockContext.callVariant_callerCells hmod h with rfl | ⟨_, _, hs, -⟩
  · exact .inl rfl
  · exact .inr hs

/-- After a sub-call whose child started, the caller's return data is the latest return data
of the whole run if the child returned or exited, and empty otherwise. A child that writes
none leaves an older frame's. In the scenario the second child calls `invalid`, and the
caller then copies and finishes with the first child's byte. -/
theorem subCall_return_data_is_latest_write :
    (∀ env : Env, env.createHostModule = .ok () → ∀ (depth : Nat) (s s' : MockContext)
      (target caller childAddress : Address) (childValue : Word) (data : Bytes) (gas : BitVec 64)
      (result : ContractCallResult),
      MockContext.callVariant (runEntry env depth) env s target caller childAddress childValue
        data gas = some (s', result) →
      s' = s ∨ ∃ (halt : Halt) (es : List Event),
        s'.cells.returnData = (if halt.callOk then returnDataAfter s.cells.returnData es else []) ∧
        s'.cells.history = s.cells.history ++ .frameStarted childAddress caller childValue data
          (s.targetCode target) s.getGasLimit.toNat :: es ++ [.returnDataSet s'.cells.returnData]) ∧
    (runEntry scenarioEnv 2 "call" scenarioContext).map (fun r => r.2.history.drop 6) =
      some [.frameStarted scenarioTarget scenarioContext.caller (.zero 32) [] [3] 100,
        .invalidated, .returnDataSet [1], .finished [1]] := by
  refine ⟨fun _ hmod _ _ _ _ _ _ _ _ _ _ h => ?_, by decide⟩
  rcases MockContext.callVariant_callerCells hmod h with rfl | ⟨halt, es, -, hd, -, hh⟩
  · exact .inl rfl
  · exact .inr ⟨halt, es, hd, hh⟩

/-- Every frame of a run, at every depth, is instantiated with the budget `get_gas_limit()`
of the context the run started from, whatever gas the guest passes; the bridge's sub-call
and create primitives leave the caller's remaining gas as it was. -/
theorem frameBudgets_are_gas_limit :
    (∀ (env : Env) (depth : Nat) (name : String) (ctx : MockContext) (outcome : Except String Halt)
      (cells : Cells), runEntry env depth name ctx = some (outcome, cells) →
      ∃ es, cells = ctx.cells.recordAll es ∧ ∀ e ∈ es, e.BudgetIs ctx.getGasLimit.toNat) ∧
    (∀ (σ : Type) (host : EvmHost σ) (gas : BitVec 64)
      (addrOffset valueOffset dataOffset dataLength r : BitVec 32) (inst inst' : Instance σ),
      HostFunctions.callContract host gas addrOffset valueOffset dataOffset dataLength inst =
        .ok r inst' → inst'.gasLeft = inst.gasLeft) ∧
    (∀ (σ : Type) (host : EvmHost σ) (gas : BitVec 64)
      (addrOffset valueOffset dataOffset dataLength r : BitVec 32) (inst inst' : Instance σ),
      HostFunctions.callCode host gas addrOffset valueOffset dataOffset dataLength inst =
        .ok r inst' → inst'.gasLeft = inst.gasLeft) ∧
    (∀ (σ : Type) (host : EvmHost σ) (gas : BitVec 64) (addrOffset dataOffset dataLength r : BitVec 32)
      (inst inst' : Instance σ),
      HostFunctions.callDelegate host gas addrOffset dataOffset dataLength inst = .ok r inst' →
        inst'.gasLeft = inst.gasLeft) ∧
    (∀ (σ : Type) (host : EvmHost σ) (gas : BitVec 64) (addrOffset dataOffset dataLength r : BitVec 32)
      (inst inst' : Instance σ),
      HostFunctions.callStatic host gas addrOffset dataOffset dataLength inst = .ok r inst' →
        inst'.gasLeft = inst.gasLeft) ∧
    (∀ (σ : Type) (host : EvmHost σ) (valueOffset codeOffset codeLength dataOffset dataLength
      saltOffset isCreate2 resultOffset r : BitVec 32) (inst inst' : Instance σ),
      HostFunctions.createContract host valueOffset codeOffset codeLength dataOffset dataLength
        saltOffset isCreate2 resultOffset inst = .ok r inst' → inst'.gasLeft = inst.gasLeft) := by
  refine ⟨fun env depth _ _ _ _ h => ?_, fun _ _ _ _ _ _ _ _ _ _ h => ?_,
    fun _ _ _ _ _ _ _ _ _ _ h => ?_, fun _ _ _ _ _ _ _ _ _ h => ?_,
    fun _ _ _ _ _ _ _ _ _ h => ?_, fun _ _ _ _ _ _ _ _ _ _ _ _ _ h => ?_⟩
  · obtain ⟨es, hes, hb⟩ := runEntry_evolves env depth _ _ _ _ h
    exact ⟨es, hes, hb⟩
  · obtain ⟨_, _, _, _, -, -, -, rfl, -⟩ := HostFunctions.callWithValue_ok h; rfl
  · obtain ⟨_, _, _, _, -, -, -, rfl, -⟩ := HostFunctions.callWithValue_ok h; rfl
  · obtain ⟨_, _, _, -, -, rfl, -⟩ := HostFunctions.callWithoutValue_ok h; rfl
  · obtain ⟨_, _, _, -, -, rfl, -⟩ := HostFunctions.callWithoutValue_ok h; rfl
  · obtain ⟨_, _, _, _, -, -, -, rfl, -⟩ := HostFunctions.createContract_ok h; rfl

/-- The child `callContract` runs with gas `0` gets the budget `100` of
`TransactionInfo::default()`. -/
theorem child_budget_exceeds_gas_argument :
    (runEntry scenarioEnv 2 "call" scenarioContext).map (fun r => r.2.history.get? 6) =
      some (some (.frameStarted scenarioTarget scenarioContext.caller (.zero 32) [] [3] 100)) ∧
    (0 : BitVec 64).toNat < 100 :=
  ⟨by decide, by decide⟩

end DtvmEvm
