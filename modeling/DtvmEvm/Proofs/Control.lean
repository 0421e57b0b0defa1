import DtvmEvm.Proofs.Runs

/-!
# `DtvmEvm.Proofs.Control`: how a guest is stopped, and that no primitive charges gas

`call_wasm_func` stops a guest when a wrapper has called `set_exception_by_hostapi` or a
primitive has called `instance.exit` (`runGuest`). Four primitives of `control.rs` call
`instance.exit`, each with its own code (`HostCall.exitCode`): `finish` 0, `revert` 1,
`invalid` 2 and `self_destruct` 3. No other primitive touches the exit code, and no primitive
touches the gas counter: the host functions charge nothing for a sub-call, a creation, a
hash or a copy, whatever its length. Gas is spent only by the guest's own instructions.

`SetsExit code x` says this of one computation: when `x` succeeds, the gas counter and the
exception are as they were, and the exit code is `code` if `x` calls `instance.exit`, and as
it was otherwise. It is proved for each primitive as `Atomic` is in `Proofs.Atomicity`, and
then for each wrapper (`dispatch_control`): a wrapper adds at most the exception, and a
failed primitive changed nothing. Over a run, a guest that started without an exit code
halts with one only right after the call that set it (`runGuest_exited`), and the spec
lemmas of the four control primitives say what that call did (`terminate_ok`, `invalid_ok`,
`selfDestruct_ok`).

The main results:

* `dispatch_control`: one call of a registered primitive keeps the gas counter and sets no
  exit code but its own;
* `guest_stops_only_by_control`: over every run, the counter only falls, and a run that
  halts with an exit code was stopped by the control primitive with that code.
-/

set_option autoImplicit false

namespace DtvmEvm

/-- The code a primitive passes to `instance.exit`; `none` for those that do not call it. -/
def HostCall.exitCode : HostCall → Option Int
  | .finish .. => some 0
  | .revert .. => some 1
  | .invalid => some 2
  | .selfDestruct _ => some 3
  | _ => none

@[simp] theorem HostCall.exitCode_callee (c : HostCall) : c.callee.exitCode = c.exitCode := by
  cases c <;> rfl

/-- The callee differs from the call only for `getBlockHash`, which sets no exit code. -/
theorem HostCall.callee_of_exitCode {c : HostCall} {code : Int} (h : c.exitCode = some code) :
    c.callee = c := by
  cases c <;> first | rfl | cases h

namespace HostFn

variable {σ α β : Type} {x : HostFn σ α} {f : α → HostFn σ β} {code : Option Int}

/-- When `x` succeeds, the gas counter and the exception are as they were, and the exit code
is `code` if that is `some`, and as it was otherwise. -/
def SetsExit (code : Option Int) (x : HostFn σ α) : Prop :=
  ∀ s a s', x s = .ok a s' →
    s'.gasLeft = s.gasLeft ∧ s'.exception = s.exception ∧ s'.exitCode = code.or s.exitCode

theorem ReadOnly.setsExit (hx : ReadOnly x) : SetsExit none x := fun _ _ _ h => by
  rw [hx.eq_of_ok h]
  exact ⟨rfl, rfl, rfl⟩

/-- Steps that set no exit code, then a step that may. -/
theorem SetsExit.bind (hx : SetsExit none x) (hf : ∀ a, SetsExit code (f a)) :
    SetsExit code (x >>= f) := by
  intro s b s' h
  obtain ⟨a, s₁, h₁, h₂⟩ := bind_eq_ok h
  obtain ⟨hg₁, he₁, hx₁⟩ := hx _ _ _ h₁
  obtain ⟨hg₂, he₂, hx₂⟩ := hf a _ _ _ h₂
  exact ⟨hg₂.trans hg₁, he₂.trans he₁, hx₂.trans (congrArg code.or hx₁)⟩

theorem SetsExit.map (g : α → β) (hx : SetsExit code x) : SetsExit code (g <$> x) := by
  intro s b s' h
  rw [map_apply] at h
  split at h
  · cases h; exact hx _ _ _ ‹_›
  · cases h

theorem setsExit_throw (e : HostFault) : SetsExit code (throw e : HostFn σ α) :=
  fun _ _ _ h => nomatch h

end HostFn

open HostFn MemoryAccessor

variable {σ : Type}

/-! ### The steps that change the instance -/

theorem setsExit_setHostState (st : σ) : SetsExit none (setHostState st) := by
  intro s _ s' h
  cases h
  exact ⟨rfl, rfl, rfl⟩

theorem setsExit_exit (k : Int) : SetsExit (some k) (HostFunctions.exit k : HostFn σ Unit) := by
  intro s _ s' h
  cases h
  exact ⟨rfl, rfl, rfl⟩

theorem setsExit_writeBytes (o : Nat) (d : Bytes) :
    SetsExit none (writeBytes o d : HostFn σ Unit) := by
  intro s _ s' h
  rw [writeBytes_apply] at h
  split at h
  · cases h; exact ⟨rfl, rfl, rfl⟩
  · cases h

/-- A write, then a result. -/
theorem setsExit_writeBytes_pure {γ : Type} (o : Nat) (d : Bytes) (r : γ) :
    SetsExit none (writeBytes o d >>= fun _ => (pure r : HostFn σ γ)) :=
  (setsExit_writeBytes o d).bind fun _ => (readOnly_pure r).setsExit

/-! ### Each primitive -/

namespace HostFunctions

variable (host : EvmHost σ)

theorem setsExit_writeHostValue {n : Nat} (typeName : String) (value : σ → FixedBytes n)
    (resultOffset : BitVec 32) : SetsExit none (writeHostValue typeName value resultOffset) :=
  (readOnly_validateOffsetForType _ _ _).setsExit.bind fun _ =>
    readOnly_hostState.setsExit.bind fun _ => setsExit_writeBytes _ _

theorem setsExit_getExternalBalance (addrOffset resultOffset : BitVec 32) :
    SetsExit none (getExternalBalance host addrOffset resultOffset) :=
  (readOnly_validateAddressParam _).setsExit.bind fun _ =>
    (readOnly_validateBytes32Param _).setsExit.bind fun _ =>
      (readOnly_readAddress _).setsExit.bind fun _ =>
        readOnly_hostState.setsExit.bind fun _ => setsExit_writeBytes _ _

theorem setsExit_getBlockHash (blockNum : BitVec 64) (resultOffset : BitVec 32) :
    SetsExit none (getBlockHash host blockNum resultOffset) := by
  refine (readOnly_validateBytes32Param _).setsExit.bind fun _ =>
    readOnly_hostState.setsExit.bind fun _ => ?_
  dsimp only
  split
  · exact setsExit_writeBytes_pure _ _ _
  · refine (readOnly_pure _).setsExit.bind fun _ => readOnly_hostState.setsExit.bind fun _ => ?_
    split <;> exact setsExit_writeBytes_pure _ _ _

theorem setsExit_hashPrimitive (name : String) (hash : σ → Bytes → Word)
    (inputOffset inputLength resultOffset : BitVec 32) :
    SetsExit none (hashPrimitive name hash inputOffset inputLength resultOffset) :=
  (readOnly_validateDataParam _ _ _).setsExit.bind fun _ =>
    (readOnly_validateBytes32Param _).setsExit.bind fun _ =>
      (readOnly_readBytesVec _ _).setsExit.bind fun _ =>
        readOnly_hostState.setsExit.bind fun _ => setsExit_writeBytes _ _

theorem setsExit_modPrimitive (op : σ → Word → Word → Word → Word)
    (aOffset bOffset nOffset resultOffset : BitVec 32) :
    SetsExit none (modPrimitive op aOffset bOffset nOffset resultOffset) :=
  (readOnly_validateBytes32Param _).setsExit.bind fun _ =>
    (readOnly_validateBytes32Param _).setsExit.bind fun _ =>
      (readOnly_validateBytes32Param _).setsExit.bind fun _ =>
        (readOnly_validateBytes32Param _).setsExit.bind fun _ =>
          (readOnly_readBytes32 _).setsExit.bind fun _ =>
            (readOnly_readBytes32 _).setsExit.bind fun _ =>
              (readOnly_readBytes32 _).setsExit.bind fun _ =>
                readOnly_hostState.setsExit.bind fun _ => setsExit_writeBytes _ _

theorem setsExit_storageStore (keyOffset valueOffset : BitVec 32) :
    SetsExit none (storageStore host keyOffset valueOffset) :=
  (readOnly_readBytes32 _).setsExit.bind fun _ =>
    (readOnly_readBytes32 _).setsExit.bind fun _ =>
      readOnly_hostState.setsExit.bind fun _ => setsExit_setHostState _

theorem setsExit_storageLoad (keyOffset resultOffset : BitVec 32) :
    SetsExit none (storageLoad host keyOffset resultOffset) :=
  (readOnly_readBytes32 _).setsExit.bind fun _ =>
    readOnly_hostState.setsExit.bind fun _ => setsExit_writeBytes _ _

theorem setsExit_copyFrom (name negativeContext : String) (source : σ → Bytes)
    (resultOffset dataOffset length : BitVec 32) :
    SetsExit none (copyFrom name negativeContext source resultOffset dataOffset length) := by
  refine (readOnly_validateDataParam _ _ _).setsExit.bind fun _ => ?_
  dsimp only
  split
  · exact setsExit_throw _
  · exact (readOnly_pure _).setsExit.bind fun _ =>
      readOnly_hostState.setsExit.bind fun _ => setsExit_writeBytes _ _

theorem setsExit_codeCopy (resultOffset codeOffset length : BitVec 32) :
    SetsExit none (codeCopy host resultOffset codeOffset length) := by
  refine (readOnly_validateDataParam _ _ _).setsExit.bind fun _ => ?_
  dsimp only
  split
  · exact setsExit_throw _
  · exact (readOnly_pure _).setsExit.bind fun _ =>
      readOnly_hostState.setsExit.bind fun _ => setsExit_writeBytes _ _

theorem setsExit_externalCodeCopy (addrOffset resultOffset codeOffset length : BitVec 32) :
    SetsExit none (externalCodeCopy host addrOffset resultOffset codeOffset length) := by
  refine (readOnly_validateAddressParam _).setsExit.bind fun _ =>
    (readOnly_validateDataParam _ _ _).setsExit.bind fun _ => ?_
  dsimp only
  split
  · exact setsExit_throw _
  · refine (readOnly_pure _).setsExit.bind fun _ => (readOnly_readAddress _).setsExit.bind fun _ =>
      readOnly_hostState.setsExit.bind fun _ => ?_
    split <;> exact setsExit_writeBytes _ _

theorem setsExit_getExternalCodeHash (addrOffset resultOffset : BitVec 32) :
    SetsExit none (getExternalCodeHash host addrOffset resultOffset) := by
  refine (readOnly_validateAddressParam _).setsExit.bind fun _ =>
    (readOnly_validateBytes32Param _).setsExit.bind fun _ =>
      (readOnly_readAddress _).setsExit.bind fun _ => readOnly_hostState.setsExit.bind fun _ => ?_
  split <;> exact setsExit_writeBytes _ _

theorem setsExit_emitLogEvent (dataOffset length numTopics t1 t2 t3 t4 : BitVec 32) :
    SetsExit none (emitLogEvent host dataOffset length numTopics t1 t2 t3 t4) := by
  unfold emitLogEvent
  split
  · exact setsExit_throw _
  · exact (readOnly_pure _).setsExit.bind fun _ =>
      (readOnly_validateDataParam _ _ _).setsExit.bind fun _ =>
        (readOnly_readBytesVec _ _).setsExit.bind fun _ =>
          (ReadOnly.listMapM readOnly_readTopic _).setsExit.bind fun _ =>
            readOnly_hostState.setsExit.bind fun _ =>
              readOnly_hostState.setsExit.bind fun _ => setsExit_setHostState _

theorem setsExit_finishCall (outcome : Option (σ × ContractCallResult)) :
    SetsExit none (finishCall outcome) := by
  unfold finishCall
  split
  · exact setsExit_throw _
  · exact (setsExit_setHostState _).bind fun _ => (readOnly_pure _).setsExit

theorem setsExit_callWithValue (name : String)
    (method : σ → Address → Address → Word → Bytes → Option (σ × ContractCallResult))
    (addrOffset valueOffset dataOffset dataLength : BitVec 32) :
    SetsExit none (callWithValue host name method addrOffset valueOffset dataOffset dataLength) :=
  (readOnly_validateAddressParam _).setsExit.bind fun _ =>
    (readOnly_validateBytes32Param _).setsExit.bind fun _ =>
      (readOnly_validateDataParam _ _ _).setsExit.bind fun _ =>
        (readOnly_readAddress _).setsExit.bind fun _ =>
          (readOnly_readBytes32 _).setsExit.bind fun _ =>
            (readOnly_readBytesVec _ _).setsExit.bind fun _ =>
              readOnly_hostState.setsExit.bind fun _ =>
                readOnly_hostState.setsExit.bind fun _ => setsExit_finishCall _

theorem setsExit_callWithoutValue (name : String)
    (method : σ → Address → Address → Bytes → Option (σ × ContractCallResult))
    (addrOffset dataOffset dataLength : BitVec 32) :
    SetsExit none (callWithoutValue host name method addrOffset dataOffset dataLength) :=
  (readOnly_validateAddressParam _).setsExit.bind fun _ =>
    (readOnly_validateDataParam _ _ _).setsExit.bind fun _ =>
      (readOnly_readAddress _).setsExit.bind fun _ =>
        (readOnly_readBytesVec _ _).setsExit.bind fun _ =>
          readOnly_hostState.setsExit.bind fun _ =>
            readOnly_hostState.setsExit.bind fun _ => setsExit_finishCall _

/-- `create_contract` reads the gas counter, to pass it to the host, and does not change it. -/
theorem setsExit_createContract (valueOffset codeOffset codeLength dataOffset dataLength
    saltOffset isCreate2 resultOffset : BitVec 32) :
    SetsExit none (createContract host valueOffset codeOffset codeLength dataOffset dataLength
      saltOffset isCreate2 resultOffset) := by
  refine (readOnly_validateBytes32Param _).setsExit.bind fun _ =>
    (readOnly_validateDataParam _ _ _).setsExit.bind fun _ =>
      (readOnly_validateDataParam _ _ _).setsExit.bind fun _ =>
        ((readOnly_validateBytes32Param _).map _ |>.ite _ (readOnly_pure _)).setsExit.bind fun _ =>
          (readOnly_validateAddressParam _).setsExit.bind fun _ =>
            (readOnly_readBytes32 _).setsExit.bind fun _ =>
              (readOnly_readBytesVec _ _).setsExit.bind fun _ =>
                (readOnly_readBytesVec _ _).setsExit.bind fun _ =>
                  (ReadOnly.optionMapM readOnly_readBytes32 _).setsExit.bind fun _ =>
                    readOnly_hostState.setsExit.bind fun _ => readOnly_get.setsExit.bind fun _ =>
                      readOnly_hostState.setsExit.bind fun _ => ?_
  split
  · exact setsExit_throw _
  · exact (setsExit_setHostState _).bind fun _ => setsExit_writeBytes_pure _ _ _

theorem setsExit_terminate (name : String) (method : σ → Bytes → σ) (code : Int)
    (dataOffset length : BitVec 32) :
    SetsExit (some code) (terminate name method code dataOffset length) :=
  (readOnly_validateDataParam _ _ _).setsExit.bind fun _ =>
    (readOnly_readBytesVec _ _).setsExit.bind fun _ =>
      readOnly_hostState.setsExit.bind fun _ =>
        (setsExit_setHostState _).bind fun _ => setsExit_exit code

theorem setsExit_invalid : SetsExit (some 2) (invalid host) :=
  readOnly_hostState.setsExit.bind fun _ => (setsExit_setHostState _).bind fun _ => setsExit_exit 2

theorem setsExit_selfDestruct (addrOffset : BitVec 32) :
    SetsExit (some 3) (selfDestruct host addrOffset) :=
  (readOnly_validateAddressParam _).setsExit.bind fun _ =>
    (readOnly_readAddress _).setsExit.bind fun _ =>
      readOnly_hostState.setsExit.bind fun _ =>
        (setsExit_setHostState _).bind fun _ => setsExit_exit 3

end HostFunctions

open HostFunctions in
/-- Every registered primitive keeps the gas counter and the exception when it succeeds, and
sets its own exit code, if it has one. -/
theorem setsExit_run (host : EvmHost σ) (c : HostCall) : SetsExit c.exitCode (c.run host) := by
  cases c with
  | getAddress | getCaller | getCallValue | getChainId | getTxOrigin | getBlockCoinbase
  | getBlobBaseFee | getBaseFee | getTxGasPrice | getBlockPrevRandao =>
    exact (setsExit_writeHostValue _ _ _).map _
  | getExternalBalance => exact (setsExit_getExternalBalance host _ _).map _
  | getBlockNumber | getBlockTimestamp | getBlockGasLimit | getCallDataSize | getCodeSize
  | getReturnDataSize => exact (readOnly_query _).setsExit.map _
  | getGasLeft => exact (readOnly_getGasLeft host).setsExit.map _
  | getBlockHash => exact (setsExit_getBlockHash host _ _).map _
  | storageStore => exact (setsExit_storageStore host _ _).map _
  | storageLoad => exact (setsExit_storageLoad host _ _).map _
  | callDataCopy | returnDataCopy => exact (setsExit_copyFrom _ _ _ _ _ _).map _
  | codeCopy => exact (setsExit_codeCopy host _ _ _).map _
  | getExternalCodeSize => exact (readOnly_getExternalCodeSize host _).setsExit.map _
  | getExternalCodeHash => exact (setsExit_getExternalCodeHash host _ _).map _
  | externalCodeCopy => exact (setsExit_externalCodeCopy host _ _ _ _).map _
  | sha256 | keccak256 => exact (setsExit_hashPrimitive _ _ _ _ _).map _
  | addmod | mulmod | expmod => exact (setsExit_modPrimitive _ _ _ _ _).map _
  | callContract | callCode => exact (setsExit_callWithValue host _ _ _ _ _ _).map _
  | callDelegate | callStatic => exact (setsExit_callWithoutValue host _ _ _ _ _).map _
  | createContract => exact (setsExit_createContract host _ _ _ _ _ _ _ _).map _
  | finish | revert => exact (setsExit_terminate _ _ _ _ _).map _
  | invalid => exact (setsExit_invalid host).map _
  | selfDestruct => exact (setsExit_selfDestruct host _).map _
  | emitLogEvent => exact (setsExit_emitLogEvent host _ _ _ _ _ _ _).map _

/-! ### One call through its wrapper -/

namespace Extern

variable {host : EvmHost σ} {inst inst' : Instance σ} {v : Option HostValue}

/-- A wrapper hands on the state its function succeeded with, or the state it failed with,
with at most the exception set on top. -/
theorem wrap_state {k : WrapperKind} {f : HostFn σ (Option HostValue)}
    (h : wrap k f inst = some (v, inst')) :
    (∃ a, f inst = .ok a inst') ∨ ∃ e i, f inst = .error (.error e) i ∧
      (inst' = i ∨ inst' = { i with exception := some 9 }) := by
  cases hf : f inst with
  | ok a i =>
    cases k <;> simp only [wrap, hf, Option.some.injEq, Prod.mk.injEq] at h <;>
      exact .inl ⟨a, h.2 ▸ rfl⟩
  | error e i =>
    cases e with
    | panicked => cases k <;> simp only [wrap, hf, reduceCtorEq] at h
    | error e =>
      cases k <;> simp only [wrap, hf, Option.some.injEq, Prod.mk.injEq, reduceCtorEq] at h
      · exact .inr ⟨e, i, rfl, .inr h.2.symm⟩
      · exact .inr ⟨e, i, rfl, .inl h.2.symm⟩
      · exact .inr ⟨e, i, rfl, .inl h.2.symm⟩

/-- One call of a registered primitive keeps the gas counter, and leaves the exit code as it
was or sets the primitive's own. -/
theorem dispatch_control (c : HostCall) (h : dispatch host c inst = some (v, inst')) :
    inst'.gasLeft = inst.gasLeft ∧
      (inst'.exitCode = inst.exitCode ∨ inst'.exitCode = c.exitCode ∧ c.exitCode.isSome) := by
  rw [dispatch_eq_wrap] at h
  rcases wrap_state h with ⟨a, hok⟩ | ⟨e, i, herr, hi⟩
  · obtain ⟨hg, -, hx⟩ := setsExit_run host c.callee _ _ _ hok
    rw [HostCall.exitCode_callee] at hx
    refine ⟨hg, ?_⟩
    cases hc : c.exitCode <;> rw [hc] at hx
    · exact .inl hx
    · exact .inr ⟨hx, rfl⟩
  · obtain rfl := (atomic_run host c.callee inst).error_eq _ _ herr
    rcases hi with rfl | rfl <;> exact ⟨rfl, .inl rfl⟩

/-- A call that sets an exit code the instance did not have is a successful call of the
control primitive with that code. -/
theorem dispatch_exit_ok (c : HostCall) (h : dispatch host c inst = some (v, inst'))
    (h0 : inst.exitCode = none) {code : Int} (hcode : inst'.exitCode = some code) :
    c.exitCode = some code ∧ ∃ a, c.run host inst = .ok a inst' := by
  have hc := dispatch_control c h
  rw [h0, hcode] at hc
  obtain ⟨-, hc | ⟨hc, -⟩⟩ := hc
  · cases hc
  refine ⟨hc.symm, ?_⟩
  rw [dispatch_eq_wrap] at h
  rcases wrap_state h with ⟨a, hok⟩ | ⟨e, i, herr, hi⟩
  · rw [HostCall.callee_of_exitCode hc.symm] at hok
    exact ⟨a, hok⟩
  · obtain rfl := (atomic_run host c.callee inst).error_eq _ _ herr
    rcases hi with rfl | rfl <;> simp only [h0, reduceCtorEq] at hcode

end Extern

/-! ### A whole run -/

variable {host : EvmHost σ}

/-- Along a run the gas counter only falls: instructions pay their cost, and calls keep it. -/
theorem runGuest_gasLeft_le (g : Guest) (inst : Instance σ) :
    (runGuest host g inst).2.gasLeft ≤ inst.gasLeft := by
  induction g generalizing inst with
  | ret => exact le_rfl
  | trap => exact le_rfl
  | exec f cost k ih =>
    unfold runGuest
    split
    · exact Nat.zero_le _
    · exact (ih _).trans (Nat.sub_le _ _)
  | read k ih => exact ih _ _
  | call c k ih =>
    unfold runGuest
    split
    · exact le_rfl
    · rename_i v inst' hd
      have hg := (Extern.dispatch_control c hd).1
      split
      · exact hg.le
      · exact hg.le
      · exact (ih v inst').trans hg.le

/-- A run from an instance without an exit code that halts with one was stopped by the call
that set it: the run reached that call, on an instance still without an exit code. -/
theorem runGuest_exited {g : Guest} {inst inst' : Instance σ} {code : Int}
    (h : runGuest host g inst = (.exited code, inst')) (h0 : inst.exitCode = none) :
    ∃ (c : HostCall) (inst₀ : Instance σ) (v : Option HostValue),
      g.Calls host c inst inst₀ ∧ inst₀.exitCode = none ∧
      Extern.dispatch host c inst₀ = some (v, inst') ∧ inst'.exception = none ∧
      inst'.exitCode = some code := by
  induction g generalizing inst with
  | ret => cases h
  | trap => cases h
  | exec f cost k ih =>
    unfold runGuest at h
    split at h
    · cases h
    · obtain ⟨c, inst₀, v, hc, hrest⟩ := ih h h0
      exact ⟨c, inst₀, v, .exec ‹_› hc, hrest⟩
  | read k ih =>
    obtain ⟨c, inst₀, v, hc, hrest⟩ := ih _ h h0
    exact ⟨c, inst₀, v, .read hc, hrest⟩
  | call c k ih =>
    unfold runGuest at h
    split at h
    · cases h
    · rename_i v inst₁ hd
      split at h
      · cases h
      · cases h
        exact ⟨c, inst, v, .here, h0, hd, ‹_›, ‹_›⟩
      · obtain ⟨c', inst₀, v', hc, hrest⟩ := ih v h ‹_›
        exact ⟨c', inst₀, v', .next hd ‹_› ‹_› hc, hrest⟩

/-- No primitive changes the gas counter, and only `finish`, `revert`, `invalid` and
`self_destruct` set an exit code, each its own. So along every run from a fresh instance the
counter only falls, and a run that halts with an exit code halts right after the control
primitive with that code succeeded. -/
theorem guest_stops_only_by_control :
    (∀ (σ : Type) (host : EvmHost σ) (c : HostCall) (inst inst' : Instance σ)
      (v : Option HostValue), Extern.dispatch host c inst = some (v, inst') →
      inst'.gasLeft = inst.gasLeft ∧
        (inst'.exitCode = inst.exitCode ∨ inst'.exitCode = c.exitCode ∧ c.exitCode.isSome)) ∧
    (∀ (σ : Type) (host : EvmHost σ) (g : Guest) (memory : Memory) (st : σ) (gas : Nat),
      (runGuest host g (.start memory st gas)).2.gasLeft ≤ gas ∧
      ∀ (code : Int) (inst' : Instance σ),
        runGuest host g (.start memory st gas) = (.exited code, inst') →
        ∃ (c : HostCall) (inst₀ : Instance σ) (v : Option HostValue),
          g.Calls host c (.start memory st gas) inst₀ ∧ c.exitCode = some code ∧
          Extern.dispatch host c inst₀ = some (v, inst') ∧ ∃ a, c.run host inst₀ = .ok a inst') := by
  refine ⟨fun _ _ c _ _ _ h => Extern.dispatch_control c h, fun _ _ g _ _ _ =>
    ⟨runGuest_gasLeft_le g _, fun _ _ h => ?_⟩⟩
  obtain ⟨c, inst₀, v, hc, h0, hd, -, hcode⟩ := runGuest_exited h rfl
  obtain ⟨hx, hok⟩ := Extern.dispatch_exit_ok c hd h0 hcode
  exact ⟨c, inst₀, v, hc, hx, hd, hok⟩

/-! ### The four control primitives -/

namespace HostFunctions

variable {s s' : Instance σ} {u : Unit}

/-- `finish` and `revert` that succeed handed the validated data to the host and set the exit
code. -/
theorem terminate_ok {name : String} {method : σ → Bytes → σ} {code : Int}
    {dataOffset length : BitVec 32} (h : terminate name method code dataOffset length s = .ok u s') :
    s' = { s with
      extraCtx := method s.extraCtx ((s.memory.bytes.drop dataOffset.toNat).take length.toNat)
      exitCode := some code } := by
  obtain ⟨-, -, hdv, h⟩ := validateDataParam_bind_ok h
  simp only [readBytesVec, bind_of_ok (readBytes_of_valid _ hdv), hostState_bind,
    bind_of_ok (setHostState_apply _ _)] at h
  cases h
  rfl

/-- A successful `invalid` told the host and set exit code `2`. -/
theorem invalid_ok (h : invalid host s = .ok u s') :
    s' = { s with extraCtx := host.invalid s.extraCtx, exitCode := some 2 } := by
  simp only [invalid, hostState_bind, bind_of_ok (setHostState_apply _ _)] at h
  cases h
  rfl

/-- A successful `self_destruct` kept the host's new state, dropped the balance, and set exit
code `3`. -/
theorem selfDestruct_ok {addrOffset : BitVec 32} (h : selfDestruct host addrOffset s = .ok u s') :
    ∃ recipient : Address,
      s' = { s with extraCtx := (host.selfDestruct s.extraCtx recipient).1, exitCode := some 3 } := by
  obtain ⟨-, hav, h⟩ := validateOffsetForType_bind_ok h
  simp only [readAddress, bind_of_ok (readFixed_of_valid _ hav), hostState_bind,
    bind_of_ok (setHostState_apply _ _)] at h
  cases h
  exact ⟨_, rfl⟩

end HostFunctions

end DtvmEvm
