import DtvmEvm.Proofs.Runs

/-!
# `DtvmEvm.Proofs.Mock.Frames`: how the shared cells evolve over nested frames

Every write of the mock host to its shared cells is a `Cells.record`, and a child frame runs
on the cells of its parent and hands them back. So over any run, at any nesting depth, the
cells after are the cells before with a list of events recorded (`Cells.Evolves`); the
plain fields of the frame's context stay as they were; and every frame the executor starts
gets the budget `get_gas_limit()` of the context, which every child copies from its parent.

`MockContext.Evolves` says all three for one frame's host state, `mockHost_effect_evolves`
proves it for each method with an effect, and `runEntry_evolves` for every frame run, by
induction on the nesting depth; the step from one primitive call to a whole guest run is
`runGuest_effects`. The executor's own logic is in the two spec equations
`callContractFunction_eq` and `deployContract_eq`.
-/

set_option autoImplicit false

namespace DtvmEvm

/-! ### Recording events -/

/-- The cells after recording `es`, in order. -/
def Cells.recordAll (c : Cells) (es : List Event) : Cells :=
  es.foldl Cells.record c

namespace Cells

variable (c : Cells) (e : Event) (es fs : List Event)

@[simp] theorem recordAll_nil : c.recordAll [] = c := rfl

@[simp] theorem recordAll_append : c.recordAll (es ++ fs) = (c.recordAll es).recordAll fs :=
  List.foldl_append _ _ _ _

@[simp] theorem history_empty : Cells.empty.history = [] := rfl

@[simp] theorem history_record : (c.record e).history = c.history ++ [e] := rfl

@[simp] theorem history_recordAll : (c.recordAll es).history = c.history ++ es := by
  induction es generalizing c with
  | nil => simp
  | cons e es ih => simp only [recordAll, List.foldl_cons] at ih ⊢; rw [ih]; simp

end Cells

/-- The budget condition on one event: a frame it starts gets `budget`. -/
def Event.BudgetIs (budget : Nat) : Event → Prop
  | .frameStarted _ _ _ _ _ gasBudget => gasBudget = budget
  | _ => True

/-- `c'` is `c` with events recorded, and each frame they start gets `budget`. -/
def Cells.Evolves (budget : Nat) (c c' : Cells) : Prop :=
  ∃ es, c' = c.recordAll es ∧ ∀ e ∈ es, e.BudgetIs budget

namespace Cells.Evolves

variable {budget : Nat} {c c₁ c₂ c₃ : Cells}

@[refl] theorem refl (budget : Nat) (c : Cells) : c.Evolves budget c := ⟨[], rfl, by simp⟩

theorem trans (h₁ : c₁.Evolves budget c₂) (h₂ : c₂.Evolves budget c₃) :
    c₁.Evolves budget c₃ := by
  obtain ⟨es, rfl, hes⟩ := h₁
  obtain ⟨fs, rfl, hfs⟩ := h₂
  exact ⟨es ++ fs, by simp, by simpa using fun e he => (List.mem_append.mp he).elim (hes e) (hfs e)⟩

theorem record {e : Event} (h : e.BudgetIs budget) : c.Evolves budget (c.record e) :=
  ⟨[e], rfl, by simpa using h⟩

end Cells.Evolves

/-- During a frame, the mock host's state keeps the fields of its context, and its cells
evolve with every frame started getting the context's budget. -/
def MockContext.Evolves (s s' : MockContext) : Prop :=
  s' = { s with cells := s'.cells } ∧ s.cells.Evolves s.getGasLimit.toNat s'.cells

namespace MockContext.Evolves

variable {s s₁ s₂ s₃ : MockContext}

theorem refl (s : MockContext) : s.Evolves s := ⟨rfl, .refl _ _⟩

theorem trans (h₁ : s₁.Evolves s₂) (h₂ : s₂.Evolves s₃) : s₁.Evolves s₃ := by
  obtain ⟨hs₂, hc₁⟩ := h₁
  obtain ⟨hs₃, hc₂⟩ := h₂
  have hgas : s₂.getGasLimit = s₁.getGasLimit := by rw [hs₂]; rfl
  refine ⟨by rw [hs₃, hs₂], hc₁.trans (hgas ▸ hc₂)⟩

theorem record {e : Event} (h : e.BudgetIs s.getGasLimit.toNat) : s.Evolves (s.record e) :=
  ⟨rfl, .record h⟩

/-- A step that swaps in cells evolved from the current ones. -/
theorem withCells {c : Cells} (h : s.cells.Evolves s.getGasLimit.toNat c) :
    s.Evolves { s with cells := c } :=
  ⟨rfl, h⟩

end MockContext.Evolves

/-- A frame run records events on the context's cells, and each frame it starts gets the
context's budget. -/
def EntryRun.Evolves (run : EntryRun) : Prop :=
  ∀ name ctx outcome cells, run name ctx = some (outcome, cells) →
    ctx.cells.Evolves ctx.getGasLimit.toNat cells

/-! ### The executor -/

namespace ContractExecutor

variable (run : EntryRun) (context : MockContext)

/-- `call_contract_function`: after `Ok`, success when the frame returned or exited and the
shared status is not `Some(false)`; the return data when it returned or exited. The
`has_return_data` test does not matter: without return data the cell is empty. -/
theorem callContractFunction_eq :
    callContractFunction run context = (run "call" context).map fun p =>
      (p.1.map fun halt =>
        { success := halt.callOk && !(p.2.executionStatus == some false)
          returnData := if halt.callOk then p.2.returnData else []
          isReverted := p.2.executionStatus == some false }, p.2) := by
  unfold callContractFunction
  rcases run "call" context with _ | ⟨_ | halt, cells⟩
  · rfl
  · rfl
  · -- without return data the cell is empty: the `has_return_data` test does not matter
    have hrd : (if ({ context with cells } : MockContext).hasReturnData then cells.returnData
        else []) = cells.returnData := by
      cases h : cells.returnData.isEmpty
      · simp only [MockContext.hasReturnData, h, Bool.not_false, if_true]
      · rw [List.isEmpty_iff.mp h, ite_self]
    cases hok : halt.callOk <;> cases hs : cells.executionStatus == some false <;>
      simp only [Option.bind_eq_bind, Option.some_bind, Option.map_some', Except.map, hrd,
        MockContext.isReverted, hok, hs, if_true, if_false, Bool.false_eq_true] <;> rfl

/-- `deploy_contract`: `Ok(())` exactly when the constructor frame returned or exited. -/
theorem deployContract_eq :
    deployContract run context = (run "deploy" context).map fun p =>
      (p.1.bind fun halt => if halt.callOk then .ok () else .error "Failed to deploy contract",
        p.2) := by
  unfold deployContract
  rcases run "deploy" context with _ | ⟨_ | halt, cells⟩
  · rfl
  · rfl
  · cases hok : halt.callOk <;> simp [hok, Except.bind]

end ContractExecutor

/-! ### The mock host's steps -/

namespace MockContext

variable {run : EntryRun} {env : Env} (self : MockContext)

@[simp] theorem callContext_cells (code data : Bytes) (caller target : Address) (value : Word) :
    (self.callContext code data caller target value).cells = self.cells := rfl

@[simp] theorem callContext_getGasLimit (code data : Bytes) (caller target : Address)
    (value : Word) : (self.callContext code data caller target value).getGasLimit =
      self.getGasLimit := rfl

variable {self}

/-- The child of a sub-call runs on the caller's cells, so its cells evolve from them. -/
theorem executeContractCall_evolves (hrun : run.Evolves) {code data : Bytes}
    {caller target : Address} {value : Word} {outcome : Except String ContractExecutionResult}
    {cells : Cells}
    (h : executeContractCall run env self code data caller target value = some (outcome, cells)) :
    self.cells.Evolves self.getGasLimit.toNat cells := by
  unfold executeContractCall at h
  split at h
  · cases h; exact .refl _ _
  · rw [ContractExecutor.callContractFunction_eq] at h
    obtain ⟨⟨_, _⟩, hr, he⟩ := Option.map_eq_some'.mp h
    cases he
    exact (hrun _ _ _ _ hr :)

theorem executeContractDeployment_evolves (hrun : run.Evolves) {code data : Bytes}
    {creator newAddress : Address} {value : Word}
    {outcome : Except String ContractExecutionResult} {cells : Cells}
    (h : executeContractDeployment run env self code data creator newAddress value =
      some (outcome, cells)) :
    self.cells.Evolves self.getGasLimit.toNat cells := by
  unfold executeContractDeployment at h
  simp only [Option.bind_eq_bind, Option.bind_eq_some] at h
  obtain ⟨_, _, h⟩ := h
  split at h
  · cases h; exact .refl _ _
  · rw [ContractExecutor.deployContract_eq] at h
    simp only [Option.map_eq_map, Option.bind_eq_bind, Option.bind_eq_some, Option.map_eq_some'] at h
    obtain ⟨_, ⟨⟨_, _⟩, hr, rfl⟩, h⟩ := h
    split at h <;> (cases h; exact (hrun _ _ _ _ hr :))

theorem callVariant_evolves (hrun : run.Evolves) {target caller childAddress : Address}
    {childValue : Word} {data : Bytes} {gas : BitVec 64} {s' : MockContext}
    {result : ContractCallResult}
    (h : callVariant run env self target caller childAddress childValue data gas =
      some (s', result)) : self.Evolves s' := by
  unfold callVariant at h
  simp only [Option.bind_eq_bind, Option.bind_eq_some] at h
  obtain ⟨⟨outcome, cells⟩, hx, h⟩ := h
  have hc := Evolves.withCells (executeContractCall_evolves hrun hx)
  split at h
  · split at h <;> (cases h; exact hc.trans (.record (by trivial)))
  · cases h; exact hc

theorem createContract_evolves (hrun : run.Evolves) {creator : Address} {value : Word}
    {code data : Bytes} (gas : BitVec 64) (salt : Option Word) {isCreate2 : Bool}
    {s' : MockContext} {result : ContractCreateResult}
    (h : createContract run env self creator value code data gas salt isCreate2 =
      some (s', result)) : self.Evolves s' := by
  unfold createContract at h
  by_cases hc : code.isEmpty
  · rw [if_pos hc] at h; cases h; exact .refl _
  rw [if_neg hc] at h
  by_cases hd : data.isEmpty
  · rw [if_pos hd] at h; cases h; exact .record (by trivial)
  rw [if_neg hd] at h
  simp only [Option.bind_eq_bind, Option.bind_eq_some] at h
  obtain ⟨⟨outcome, cells⟩, hx, h⟩ := h
  have hc := Evolves.withCells (executeContractDeployment_evolves hrun hx)
  cases outcome with
  | error => cases h; exact hc
  | ok result =>
    by_cases hs : result.success
    · simp only [hs, ↓reduceIte, Option.pure_def, Option.some.injEq] at h
      cases h; exact (hc.trans (.record (by trivial))).trans (.record (by trivial))
    · simp only [hs, Bool.false_eq_true, ↓reduceIte, Option.pure_def, Option.some.injEq] at h
      cases h; exact hc.trans (.record (by trivial))

end MockContext

/-- Every method of the mock host with an effect keeps the context's fields and records
events on the cells, as long as the child frames it runs do. -/
theorem mockHost_effect_evolves {env : Env} {run : EntryRun} (hrun : run.Evolves)
    {s s' : MockContext} (h : (mockHost env run).Effect s s') : s.Evolves s' := by
  cases h with
  | storageStore | emitLogEvent | finish | revert | invalid => exact .record (by trivial)
  | selfDestruct => exact .refl _
  | callContract h | callCode h | callDelegate h | callStatic h =>
    exact MockContext.callVariant_evolves hrun h
  | @createContract _ _ _ _ gas salt _ _ _ h =>
    exact MockContext.createContract_evolves hrun gas salt h

/-- A guest run on the mock host: the host state evolves. -/
theorem runGuest_mockHost_evolves {env : Env} {run : EntryRun} (hrun : run.Evolves) (g : Guest)
    (inst : Instance MockContext) :
    inst.extraCtx.Evolves (runGuest (mockHost env run) g inst).2.extraCtx :=
  (runGuest_effects g inst).lift MockContext.Evolves.refl (fun _ _ _ => .trans)
    fun _ _ => mockHost_effect_evolves hrun

/-- Each call a guest run on the mock host makes: the host state has evolved up to it. -/
theorem Guest.Calls.mockHost_evolves {env : Env} {run : EntryRun} (hrun : run.Evolves)
    {c : HostCall} {g : Guest} {inst inst' : Instance MockContext}
    (h : g.Calls (mockHost env run) c inst inst') : inst.extraCtx.Evolves inst'.extraCtx :=
  h.effects.lift MockContext.Evolves.refl (fun _ _ _ => .trans)
    fun _ _ => mockHost_effect_evolves hrun

/-- A frame starts when its code is instantiated, and then records its start. -/
theorem startFrame_ok {env : Env} {ctx context : MockContext} {memory : Memory}
    (h : startFrame env ctx = .ok (memory, context)) :
    env.instantiate ctx.contractCode ctx.getGasLimit.toNat = .ok memory ∧
      context = ctx.record ctx.startEvent := by
  unfold startFrame at h
  split at h
  · cases h
  · cases h; exact ⟨‹_›, rfl⟩

/-- Starting a frame records its start, with the context's budget. -/
theorem startFrame_evolves {env : Env} {ctx context : MockContext} {memory : Memory}
    (h : startFrame env ctx = .ok (memory, context)) : ctx.Evolves context :=
  (startFrame_ok h).2 ▸ .record rfl

/-- Every frame run, at every nesting depth, records events on the cells it was given and
starts every frame with the budget of the context. -/
theorem runEntry_evolves (env : Env) (depth : Nat) : (runEntry env depth).Evolves := by
  induction depth with
  | zero =>
    intro name ctx outcome cells h
    unfold runEntry at h
    split at h
    · cases h; exact .refl _ _
    · rename_i hstart
      cases h; exact (startFrame_evolves hstart).2
  | succ depth ih =>
    intro name ctx outcome cells h
    rw [runEntry] at h
    split at h
    · cases h; exact .refl _ _
    · rename_i hstart
      dsimp only at h
      split at h
      · cases h
      · cases h
        exact ((startFrame_evolves hstart).trans (runGuest_mockHost_evolves ih _ _)).2

end DtvmEvm
