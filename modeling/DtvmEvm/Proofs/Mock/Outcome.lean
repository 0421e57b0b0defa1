import DtvmEvm.Proofs.Control
import DtvmEvm.Proofs.Mock.Calls

/-!
# `DtvmEvm.Proofs.Mock.Outcome`: what a frame leaves behind

A frame of the mock host ends in one of two ways that `call_wasm_func` reports as `Ok`: the
guest returns, or a primitive calls `instance.exit`. `call_contract_function` then reads
its verdict from the shared cells: reverted when the status is `Some(false)`, with the
return data cell. The cells are shared with every child the frame ran (`Proofs.Mock.Calls`),
so the verdict is the latest write of the whole run. A control primitive ends the frame at
once (`Proofs.Control`), so when the frame halts with an exit code, its own control call
made the latest write: `finish` and `revert` report exactly the data the frame passed, a
success for `finish` and a revert for `revert`, whatever the children did. `invalid` reports
a revert, with whatever return data was written last before it. `self_destruct` writes
nothing, so its verdict is that of the latest write before it, as for a plain return.

Over the whole run the frame's own context does not change: the bridge only ever hands the
host's methods the context they return, and the methods change only the cells. The cells
only grow (`Cells.Grows`): no method deletes an event, a stored key or a registered
contract, or resets the status to `None`. `MockContext::clear_events` exists, and no method
of the host calls it.

The main results:

* `frame_verdict_of_exit`: the verdict on a frame that halted with an exit code;
* `frame_context_fixed_cells_grow`: over every run, the context keeps its fields and the
  cells only grow.
-/

set_option autoImplicit false

namespace DtvmEvm

open HostFn

/-! ### The cells only grow -/

/-- `c'` keeps everything `c` holds: the history and the event log as prefixes, every stored
key and registered address, and a status that was set. -/
structure Cells.Grows (c c' : Cells) : Prop where
  history : c.history <+: c'.history
  events : c.events <+: c'.events
  storage : ∀ k, (c.storage k).isSome → (c'.storage k).isSome
  registry : ∀ a, (c.contractRegistry a).isSome → (c'.contractRegistry a).isSome
  status : c.executionStatus.isSome → c'.executionStatus.isSome

namespace Cells.Grows

variable {c c₁ c₂ c₃ : Cells}

theorem refl (c : Cells) : c.Grows c :=
  ⟨List.prefix_refl _, List.prefix_refl _, fun _ => id, fun _ => id, id⟩

theorem trans (h₁ : c₁.Grows c₂) (h₂ : c₂.Grows c₃) : c₁.Grows c₃ :=
  ⟨h₁.history.trans h₂.history, h₁.events.trans h₂.events,
    fun k hk => h₂.storage k (h₁.storage k hk), fun a ha => h₂.registry a (h₁.registry a ha),
    fun hs => h₂.status (h₁.status hs)⟩

/-- Every write of the mock adds to the cells: a store or a registration sets its key, a log
event is appended, and the status writes are all `Some`. -/
theorem record (c : Cells) (e : Event) : c.Grows (c.record e) := by
  refine ⟨by simp, ?_, fun k hk => ?_, fun a ha => ?_, fun hs => ?_⟩
  · cases e <;> simp [Cells.record, Cells.apply]
  · cases e <;> simp only [Cells.record, Cells.apply] <;> try exact hk
    split <;> simp_all
  · cases e <;> simp only [Cells.record, Cells.apply] <;> try exact ha
    split <;> simp_all
  · rw [Cells.executionStatus_record]
    cases e.statusWritten <;> simp [hs]

theorem of_evolves {budget : Nat} (h : c₁.Evolves budget c₂) : c₁.Grows c₂ := by
  obtain ⟨es, rfl, -⟩ := h
  induction es generalizing c₁ with
  | nil => exact refl _
  | cons e es ih => exact (record c₁ e).trans ih

end Cells.Grows

/-- Over every guest run on the mock host, at any nesting depth, the frame's context keeps
every field but the shared cells, and the cells only grow; so does every whole frame run. -/
theorem frame_context_fixed_cells_grow (env : Env) (depth : Nat) :
    (∀ (g : Guest) (inst : Instance MockContext),
      (runGuest (mockHost env (runEntry env depth)) g inst).2.extraCtx =
        { inst.extraCtx with
          cells := (runGuest (mockHost env (runEntry env depth)) g inst).2.extraCtx.cells } ∧
      inst.extraCtx.cells.Grows
        (runGuest (mockHost env (runEntry env depth)) g inst).2.extraCtx.cells) ∧
    (∀ (name : String) (ctx : MockContext) (outcome : Except String Halt) (cells : Cells),
      runEntry env depth name ctx = some (outcome, cells) → ctx.cells.Grows cells) := by
  refine ⟨fun g inst => ?_, fun name ctx outcome cells h =>
    .of_evolves (runEntry_evolves env depth name ctx outcome cells h)⟩
  obtain ⟨hctx, hcells⟩ := runGuest_mockHost_evolves (runEntry_evolves env depth) g inst
  exact ⟨hctx, .of_evolves hcells⟩

/-! ### The verdict on a frame -/

section Verdict

variable {env : Env} {depth : Nat} {name : String} {ctx : MockContext} {code : Int}
  {cells : Cells}

/-- A frame that halted with an exit code: a control primitive succeeded on the host state
the run had reached, and the frame's cells are what that call left. -/
theorem runEntry_exited (h : runEntry env (depth + 1) name ctx = some (.ok (.exited code), cells)) :
    ∃ (c : HostCall) (inst₀ inst : Instance MockContext) (a : Option HostValue),
      c.exitCode = some code ∧ c.run (mockHost env (runEntry env depth)) inst₀ = .ok a inst ∧
      cells = inst.extraCtx.cells := by
  rw [runEntry] at h
  split at h
  · cases h
  · dsimp only at h
    split at h
    · cases h
    · rename_i hhalt
      simp only [Option.some.injEq, Prod.mk.injEq, Except.ok.injEq] at h
      obtain ⟨hrun, rfl⟩ := h
      obtain ⟨c, inst₀, v, -, h0, hd, -, hcode⟩ :=
        runGuest_exited (Prod.ext hrun rfl : _ = (Halt.exited code, _)) rfl
      obtain ⟨hc, a, hok⟩ := Extern.dispatch_exit_ok c hd h0 hcode
      exact ⟨c, inst₀, _, a, hc, hok, rfl⟩

/-- After a frame halted with an exit code, `call_contract_function` reads its verdict from
the cells the frame left. -/
theorem callContractFunction_of_exited
    (h : runEntry env (depth + 1) "call" ctx = some (.ok (.exited code), cells)) :
    ContractExecutor.callContractFunction (runEntry env (depth + 1)) ctx =
      some (.ok ⟨!(cells.executionStatus == some false), cells.returnData,
        cells.executionStatus == some false⟩, cells) := by
  rw [ContractExecutor.callContractFunction_eq, h]
  rfl

/-- The last write of a frame that halted with an exit code is its own control call:
`finish` and `revert` record their data, `invalid` its status, and `self_destruct` nothing. -/
theorem runEntry_exit_cells
    (h : runEntry env (depth + 1) name ctx = some (.ok (.exited code), cells)) :
    ∃ before : Cells,
      (code = 0 ∧ ∃ d, cells = before.record (.finished d)) ∨
      (code = 1 ∧ ∃ d, cells = before.record (.reverted d)) ∨
      (code = 2 ∧ cells = before.record .invalidated) ∨
      (code = 3 ∧ cells = before) := by
  obtain ⟨c, inst₀, inst, a, hc, hok, rfl⟩ := runEntry_exited h
  refine ⟨inst₀.extraCtx.cells, ?_⟩
  cases c with
  | finish =>
    cases hc
    obtain ⟨_, hok, -⟩ := HostFn.map_eq_ok hok
    obtain rfl := HostFunctions.terminate_ok hok
    exact .inl ⟨rfl, _, rfl⟩
  | revert =>
    cases hc
    obtain ⟨_, hok, -⟩ := HostFn.map_eq_ok hok
    obtain rfl := HostFunctions.terminate_ok hok
    exact .inr (.inl ⟨rfl, _, rfl⟩)
  | invalid =>
    cases hc
    obtain ⟨_, hok, -⟩ := HostFn.map_eq_ok hok
    obtain rfl := HostFunctions.invalid_ok hok
    exact .inr (.inr (.inl ⟨rfl, rfl⟩))
  | selfDestruct =>
    cases hc
    obtain ⟨_, hok, -⟩ := HostFn.map_eq_ok hok
    obtain ⟨_, rfl⟩ := HostFunctions.selfDestruct_ok hok
    exact .inr (.inr (.inr ⟨rfl, rfl⟩))
  | _ => cases hc

end Verdict

/-- The verdict on a frame of the mock host that halted with an exit code. With `finish` the
frame reports success with exactly the data it passed, and with `revert` a revert with
exactly that data, whatever its children wrote before. With `invalid` it reports a revert
with the return data written last before the call. `self_destruct` writes nothing, and the
verdict is read from the cells as the call found them. -/
theorem frame_verdict_of_exit (env : Env) (depth : Nat) (context : MockContext) (code : Int)
    (cells : Cells) (h : runEntry env (depth + 1) "call" context = some (.ok (.exited code), cells)) :
    ∃ before : Cells,
      (code = 0 ∧ ∃ d, cells = before.record (.finished d) ∧
        ContractExecutor.callContractFunction (runEntry env (depth + 1)) context =
          some (.ok ⟨true, d, false⟩, cells)) ∨
      (code = 1 ∧ ∃ d, cells = before.record (.reverted d) ∧
        ContractExecutor.callContractFunction (runEntry env (depth + 1)) context =
          some (.ok ⟨false, d, true⟩, cells)) ∨
      (code = 2 ∧ cells = before.record .invalidated ∧
        ContractExecutor.callContractFunction (runEntry env (depth + 1)) context =
          some (.ok ⟨false, before.returnData, true⟩, cells)) ∨
      (code = 3 ∧ cells = before ∧
        ContractExecutor.callContractFunction (runEntry env (depth + 1)) context =
          some (.ok ⟨!(before.executionStatus == some false), before.returnData,
            before.executionStatus == some false⟩, cells)) := by
  have hv := callContractFunction_of_exited h
  obtain ⟨before, ⟨rfl, d, rfl⟩ | ⟨rfl, d, rfl⟩ | ⟨rfl, rfl⟩ | ⟨rfl, rfl⟩⟩ := runEntry_exit_cells h
  · exact ⟨before, .inl ⟨rfl, d, rfl, by simpa using hv⟩⟩
  · exact ⟨before, .inr (.inl ⟨rfl, d, rfl, by simpa using hv⟩)⟩
  · exact ⟨before, .inr (.inr (.inl ⟨rfl, rfl, by simpa using hv⟩))⟩
  · exact ⟨_, .inr (.inr (.inr ⟨rfl, rfl, hv⟩))⟩

/-- The scenario's root frame calls two contracts and then finishes with the byte it copied
from the return data: it reports success with exactly that byte. -/
theorem frame_verdict_of_exit_at_scenario :
    ∃ (cells before : Cells) (d : Bytes),
      runEntry scenarioEnv 2 "call" scenarioContext = some (.ok (.exited 0), cells) ∧
      cells = before.record (.finished d) ∧
      ContractExecutor.callContractFunction (runEntry scenarioEnv 2) scenarioContext =
        some (.ok ⟨true, d, false⟩, cells) := by
  have hrun : (runEntry scenarioEnv 2 "call" scenarioContext).map (fun p => p.1.toOption) =
      some (some (.exited 0)) := by decide
  obtain ⟨⟨outcome, cells⟩, h, ho⟩ := Option.map_eq_some'.mp hrun
  obtain rfl : outcome = .ok (.exited 0) := by cases outcome <;> cases ho; rfl
  obtain ⟨before, ⟨-, d, hc, hv⟩ | ⟨h1, -⟩ | ⟨h2, -⟩ | ⟨h3, -⟩⟩ :=
    frame_verdict_of_exit scenarioEnv 1 scenarioContext 0 cells h
  · exact ⟨cells, before, d, h, hc, hv⟩
  all_goals omega

/-- A sub-call of the mock host whose child frame halted with an exit code: what the call
method hands the bridge, and the caller's cells after it. A child that ended with `finish`
makes the call succeed with exactly the child's data, one that ended with `revert` makes it
fail with exactly its data, and one that ended with `invalid` makes it fail with the return
data written last before; `set_return_data` then writes that data to the caller. A child
that self-destructed leaves the verdict to the status written last before it. -/
theorem subCall_result_of_child_exit (env : Env) (depth : Nat) (self : MockContext)
    (target caller childAddress : Address) (childValue : Word) (data : Bytes) (gas : BitVec 64)
    (code : Int) (cells : Cells) (hmod : env.createHostModule = .ok ())
    (hchild : runEntry env (depth + 1) "call" (self.callContext (self.targetCode target) data
      caller childAddress childValue) = some (.ok (.exited code), cells)) :
    ∃ before : Cells,
      (code = 0 ∧ ∃ d, cells = before.record (.finished d) ∧
        self.callVariant (runEntry env (depth + 1)) env target caller childAddress childValue data
          gas = some (({ self with cells }).setReturnData d, .ofSuccess d (i64Min gas 50000))) ∨
      (code = 1 ∧ ∃ d, cells = before.record (.reverted d) ∧
        self.callVariant (runEntry env (depth + 1)) env target caller childAddress childValue data
          gas = some (({ self with cells }).setReturnData d, .ofFailure d (i64Min gas 50000))) ∨
      (code = 2 ∧ cells = before.record .invalidated ∧
        self.callVariant (runEntry env (depth + 1)) env target caller childAddress childValue data
          gas = some (({ self with cells }).setReturnData before.returnData,
            .ofFailure before.returnData (i64Min gas 50000))) ∨
      (code = 3 ∧ cells = before ∧
        self.callVariant (runEntry env (depth + 1)) env target caller childAddress childValue data
          gas = some (({ self with cells }).setReturnData before.returnData,
            ⟨!(before.executionStatus == some false), before.returnData, i64Min gas 50000⟩)) := by
  have hv : self.callVariant (runEntry env (depth + 1)) env target caller childAddress childValue
      data gas = _ := MockContext.callVariant_of_ok hmod hchild
  obtain ⟨before, ⟨rfl, d, rfl⟩ | ⟨rfl, d, rfl⟩ | ⟨rfl, rfl⟩ | ⟨rfl, rfl⟩⟩ :=
    runEntry_exit_cells hchild
  · exact ⟨before, .inl ⟨rfl, d, rfl, by simpa [Halt.callOk, Event.statusWritten,
      Event.returnDataWritten, ContractCallResult.ofSuccess] using hv⟩⟩
  · exact ⟨before, .inr (.inl ⟨rfl, d, rfl, by simpa [Halt.callOk, Event.statusWritten,
      Event.returnDataWritten, ContractCallResult.ofFailure] using hv⟩)⟩
  · exact ⟨before, .inr (.inr (.inl ⟨rfl, rfl, by simpa [Halt.callOk, Event.statusWritten,
      Event.returnDataWritten, ContractCallResult.ofFailure] using hv⟩))⟩
  · exact ⟨_, .inr (.inr (.inr ⟨rfl, rfl, by simpa [Halt.callOk] using hv⟩))⟩

/-- The scenario's first sub-call, to the contract `[1]` that finishes with the byte `1`:
the call succeeds with exactly that byte. -/
theorem subCall_result_of_child_exit_at_scenario :
    ∃ (cells before : Cells) (d : Bytes),
      runEntry scenarioEnv 1 "call" (scenarioContext.callContext
        (scenarioContext.targetCode (.zero 20)) [] scenarioContext.caller (.zero 20) (.zero 32)) =
          some (.ok (.exited 0), cells) ∧
      cells = before.record (.finished d) ∧
      scenarioContext.callVariant (runEntry scenarioEnv 1) scenarioEnv (.zero 20)
        scenarioContext.caller (.zero 20) (.zero 32) [] 0 =
          some (({ scenarioContext with cells }).setReturnData d, .ofSuccess d (i64Min 0 50000)) := by
  have hrun : (runEntry scenarioEnv 1 "call" (scenarioContext.callContext
      (scenarioContext.targetCode (.zero 20)) [] scenarioContext.caller (.zero 20)
        (.zero 32))).map (fun p => p.1.toOption) = some (some (.exited 0)) := by decide
  obtain ⟨⟨outcome, cells⟩, h, ho⟩ := Option.map_eq_some'.mp hrun
  obtain rfl : outcome = .ok (.exited 0) := by cases outcome <;> cases ho; rfl
  obtain ⟨before, ⟨-, d, hc, hv⟩ | ⟨h1, -⟩ | ⟨h2, -⟩ | ⟨h3, -⟩⟩ :=
    subCall_result_of_child_exit scenarioEnv 0 scenarioContext (.zero 20) scenarioContext.caller
      (.zero 20) (.zero 32) [] 0 0 cells rfl h
  · exact ⟨cells, before, d, h, hc, hv⟩
  all_goals omega

end DtvmEvm
