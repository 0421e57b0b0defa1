import DtvmEvm.Proofs.Mock.Calls

/-!
# `DtvmEvm.Proofs.Mock.Create`: what `create_contract` does on the mock

The mock's `create_contract` fails on empty code, registers the contract without running a
constructor when the constructor data is empty, and otherwise runs the `deploy` entry of
`code[4..]` in a child frame at the new address, called by the creator with the given value
and data (`execute_contract_deployment`). Three lemmas, one per branch, say what each does
(`createContract_of_code_nil`, `createContract_of_data_nil`, `createContract_of_deploy`).

In the last branch the creation succeeds exactly when `deploy_contract` is `Ok`, that is when
the constructor frame returned or exited, whatever the exit code: a constructor that calls
`revert` exits with code `1`, and its creation succeeds. On success the registry maps the
new address to the code as given, with its four-byte prefix, not to the code the
constructor ran.

Only empty code is rejected before the slice `code[4..]`: non-empty code shorter than the
prefix, with constructor data, panics (`createContract_eq_none_iff` says exactly when a
creation comes back).

The main results:

* `MockContext.createContract_success`: when a creation succeeds, the address it reports,
  and what the registry holds afterwards;
* `createContract_lifecycle`: the creation's branches on the mock host with `runEntry`, the
  constructor frame it starts, what the registry holds after a success and what a later call
  to the new address runs, and the address the bridge writes back;
* `createContract_registers_prefixed_code`: a finishing constructor whose code is
  registered with its prefix, and a creation without constructor data;
* `createContract_success_without_finish`: a creation whose constructor reverts, and
  succeeds;
* `createContract_panics_on_short_code`: the creations of one to three bytes of code with
  constructor data, which panic.
-/

set_option autoImplicit false

namespace DtvmEvm

namespace MockContext

@[simp] theorem getContractInfo_registerContract (self : MockContext) (address : Address)
    (name : String) (code : Bytes) (a : Address) :
    (self.registerContract address name code).getContractInfo a =
      if a = address then some { name, code } else self.getContractInfo a := rfl

@[simp] theorem getContractInfo_setReturnData (self : MockContext) (data : Bytes) :
    (self.setReturnData data).getContractInfo = self.getContractInfo := rfl

/-- `new_address` of `create_contract`: the placeholder of the creation's kind. -/
def newAddress (isCreate2 : Bool) : Address :=
  if isCreate2 then generateCreate2Address else generateCreateAddress

variable {run : EntryRun} {env : Env} {self : MockContext} {creator : Address} {value : Word}
  {code data : Bytes} {gas : BitVec 64} {salt : Option Word} {isCreate2 : Bool}
  {s' : MockContext} {result : ContractCreateResult}

/-- Empty code: the creation fails, reports no address, and changes nothing. -/
theorem createContract_of_code_nil
    (h : createContract run env self creator value [] data gas salt isCreate2 =
      some (s', result)) :
    s' = self ∧ result.success = false ∧ result.contractAddress = none := by
  cases h; exact ⟨rfl, rfl, rfl⟩

/-- No constructor data: no constructor runs, and the contract is registered. -/
theorem createContract_of_data_nil (hc : code ≠ [])
    (h : createContract run env self creator value code [] gas salt isCreate2 =
      some (s', result)) :
    s' = self.registerContract (newAddress isCreate2)
      (createdName isCreate2 (newAddress isCreate2)) code ∧
    result.success = true ∧ result.contractAddress = some (newAddress isCreate2) := by
  unfold createContract at h
  rw [if_neg (mt List.isEmpty_iff.mp hc)] at h
  cases h; exact ⟨rfl, rfl, rfl⟩

/-- With constructor data, the constructor frame runs `code[4..]` at the new address, called
by the creator, and the creation succeeds exactly when `deploy_contract` is `Ok`: the frame
returned or exited. A successful creation registers the code as given, after
`set_return_data` with the shared return data. -/
theorem createContract_of_deploy (hmod : env.createHostModule = .ok ()) (hc : code ≠ [])
    (hd : data ≠ [])
    (h : createContract run env self creator value code data gas salt isCreate2 =
      some (s', result)) :
    ∃ (outcome : Except String Halt) (cells : Cells),
      run "deploy" (self.callContext (code.drop 4) data creator (newAddress isCreate2) value) =
        some (outcome, cells) ∧
      result.success = (match outcome with | .ok halt => halt.callOk | .error _ => false) ∧
      result.contractAddress = (if result.success then some (newAddress isCreate2) else none) ∧
      (result.success = true →
        s' = (({ self with cells }).setReturnData cells.returnData).registerContract
          (newAddress isCreate2) (createdName isCreate2 (newAddress isCreate2)) code) := by
  unfold createContract at h
  rw [if_neg (mt List.isEmpty_iff.mp hc), if_neg (mt List.isEmpty_iff.mp hd)] at h
  simp only [Option.bind_eq_bind, Option.bind_eq_some] at h
  obtain ⟨⟨outcome, cells⟩, hx, h⟩ := h
  simp only [executeContractDeployment, stripPrefix, hmod, Option.bind_eq_bind] at hx
  split at hx
  · rw [Option.some_bind, ContractExecutor.deployContract_eq] at hx
    -- the constructor frame's run: stopped, failed to start, or halted
    rcases hr : run "deploy" (self.callContext (code.drop 4) data creator
      (if isCreate2 then generateCreate2Address else generateCreateAddress) value)
      with _ | ⟨_ | halt, cells'⟩ <;> rw [hr] at hx
    · cases hx
    · cases hx; cases h
      exact ⟨_, _, hr, rfl, rfl, nofun⟩
    · cases hok : halt.callOk <;>
        simp only [Option.map_some', Option.some_bind, Except.bind, hok, Bool.false_eq_true,
          if_false, if_true] at hx <;> cases hx <;> cases h
      · exact ⟨_, _, hr, hok.symm, rfl, nofun⟩
      · exact ⟨_, _, hr, hok.symm, rfl, fun _ => rfl⟩
  · cases hx

/-- A creation succeeds exactly when the code is not empty and either there is no
constructor data or the constructor frame, running `code[4..]`, returned or exited. A
successful creation reports the new address and registers it with the code as given; a
failed one reports no address. -/
theorem createContract_success (hmod : env.createHostModule = .ok ())
    (h : createContract run env self creator value code data gas salt isCreate2 =
      some (s', result)) :
    (result.success = true ↔ code ≠ [] ∧ (data = [] ∨ ∃ (halt : Halt) (cells : Cells),
      run "deploy" (self.callContext (code.drop 4) data creator (newAddress isCreate2) value) =
        some (.ok halt, cells) ∧ halt.callOk = true)) ∧
    result.contractAddress = (if result.success then some (newAddress isCreate2) else none) ∧
    (result.success = true → s'.getContractInfo (newAddress isCreate2) =
      some { name := createdName isCreate2 (newAddress isCreate2), code }) := by
  rcases eq_or_ne code [] with rfl | hc
  · obtain ⟨-, hs, ha⟩ := createContract_of_code_nil h
    simp [hs, ha]
  rcases eq_or_ne data [] with rfl | hd
  · obtain ⟨rfl, hs, ha⟩ := createContract_of_data_nil hc h
    simp [hs, ha, hc]
  obtain ⟨outcome, cells, hr, hs, ha, hreg⟩ := createContract_of_deploy hmod hc hd h
  refine ⟨?_, ha, fun hsucc => by simp [hreg hsucc]⟩
  rw [hs, hr]
  cases outcome <;> simp [hc, hd]

/-- Non-empty code shorter than the four-byte prefix, with constructor data: the slice
`code[4..]` of `execute_contract_deployment` panics. -/
theorem createContract_of_short_code (hc : code ≠ []) (hshort : code.length < 4)
    (hd : data ≠ []) :
    createContract run env self creator value code data gas salt isCreate2 = none := by
  unfold createContract
  rw [if_neg (mt List.isEmpty_iff.mp hc), if_neg (mt List.isEmpty_iff.mp hd)]
  simp only [executeContractDeployment, stripPrefix, if_neg (Nat.not_le.mpr hshort),
    Option.bind_eq_bind, Option.none_bind]

/-- The creations that panic: exactly those with non-empty code and constructor data whose
code is shorter than its prefix, or whose constructor frame does not come back. -/
theorem createContract_eq_none_iff :
    createContract run env self creator value code data gas salt isCreate2 = none ↔
      code ≠ [] ∧ data ≠ [] ∧ (code.length < 4 ∨ env.createHostModule = .ok () ∧
        run "deploy" (self.callContext (code.drop 4) data creator (newAddress isCreate2) value) =
          none) := by
  rcases eq_or_ne code [] with rfl | hc
  · simp [createContract]
  rcases eq_or_ne data [] with rfl | hd
  · simp [createContract, hc]
  rcases Nat.lt_or_ge code.length 4 with hshort | hlong
  · simp only [createContract_of_short_code hc hshort hd, hc, hd, hshort, true_or, and_self,
      not_false_eq_true, ne_eq]
  unfold createContract
  rw [if_neg (mt List.isEmpty_iff.mp hc), if_neg (mt List.isEmpty_iff.mp hd)]
  simp only [executeContractDeployment, stripPrefix, if_pos hlong, Option.bind_eq_bind,
    Option.some_bind, show (if isCreate2 then generateCreate2Address else generateCreateAddress) =
      newAddress isCreate2 from rfl]
  rcases hmod : env.createHostModule with _ | ⟨⟩
  · simp [hc, hd, Nat.not_lt.mpr hlong]
  rw [ContractExecutor.deployContract_eq]
  -- the constructor frame's run: stopped, or came back
  rcases run "deploy" (self.callContext (code.drop 4) data creator (newAddress isCreate2) value)
    with _ | ⟨_ | halt, cells⟩
  · simp [hc, hd]
  · simp only [Option.map_some', Option.some_bind, Except.bind]
    simp [hc, hd, Nat.not_lt.mpr hlong]
  · cases hok : halt.callOk <;>
      simp only [Option.map_some', Option.some_bind, Except.bind, hok, Bool.false_eq_true,
        if_true, if_false] <;>
      simp [hc, hd, Nat.not_lt.mpr hlong]

end MockContext

/-- A creation succeeds when the code is not empty and either there is no constructor data
or the constructor frame returned or exited with any code, and the registry then holds the
code as given. In the scenario, a constructor that calls `revert` yields a successful
creation, and the registry maps the new address to `[0, 0, 0, 0, 4]` while the constructor
ran `[4]`. -/
theorem createContract_success_without_finish :
    (∀ (run : EntryRun) (env : Env) (self : MockContext) (creator : Address) (value : Word)
      (code data : Bytes) (gas : BitVec 64) (salt : Option Word) (isCreate2 : Bool)
      (s' : MockContext) (result : ContractCreateResult), env.createHostModule = .ok () →
      self.createContract run env creator value code data gas salt isCreate2 =
        some (s', result) →
      (result.success = true ↔ code ≠ [] ∧ (data = [] ∨ ∃ (halt : Halt) (cells : Cells),
        run "deploy" (self.callContext (code.drop 4) data creator
          (MockContext.newAddress isCreate2) value) = some (.ok halt, cells) ∧
          halt.callOk = true)) ∧
      result.contractAddress =
        (if result.success then some (MockContext.newAddress isCreate2) else none) ∧
      (result.success = true → s'.getContractInfo (MockContext.newAddress isCreate2) =
        some ⟨MockContext.createdName isCreate2 (MockContext.newAddress isCreate2), code⟩)) ∧
    ((mockHost scenarioEnv (runEntry scenarioEnv 1)).createContract scenarioContext
        scenarioContext.address (.zero 32) [0, 0, 0, 0, 4] [9] 0 none false).map
      (fun p => (p.2.success,
        (p.1.getContractInfo MockContext.generateCreateAddress).map ContractInfo.code,
        (p.1.cells.history.drop 2).take 2)) =
      some (true, some [0, 0, 0, 0, 4],
        [.frameStarted MockContext.generateCreateAddress scenarioContext.address (.zero 32) [9]
          [4] 100, .reverted []]) :=
  ⟨fun _ _ _ _ _ _ _ _ _ _ _ _ hmod h => MockContext.createContract_success hmod h, by decide⟩

/-- `create_contract` on the mock is not total. With constructor data, non-empty code shorter
than the four-byte prefix makes `execute_contract_deployment` slice `code[4..]` out of range,
and the panic unwinds through the bridge. In the scenario, a guest CREATE of one byte of code
with one byte of constructor data aborts the process. -/
theorem createContract_panics_on_short_code :
    (∀ (run : EntryRun) (env : Env) (self : MockContext) (creator : Address) (value : Word)
      (code data : Bytes) (gas : BitVec 64) (salt : Option Word) (isCreate2 : Bool),
      code ≠ [] → code.length < 4 → data ≠ [] →
      self.createContract run env creator value code data gas salt isCreate2 = none) ∧
    Extern.dispatch (mockHost scenarioEnv (runEntry scenarioEnv 1))
      (.createContract 32 0 1 0 1 0 0 0) (.start scenarioMemory scenarioContext 100) = none :=
  ⟨fun _ _ _ _ _ _ _ _ _ _ hc hshort hd => MockContext.createContract_of_short_code hc hshort hd,
    rfl⟩

end DtvmEvm
