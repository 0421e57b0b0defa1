import DtvmEvm.Proofs.Atomicity

/-!
# `DtvmEvm.Proofs.Runs`: what a guest run does to the host state

A guest calls primitives through their `extern "C"` wrappers, one after another, until it
halts. The wrappers come in four kinds (`WrapperKind`), and `dispatch_eq_wrap` factors every
wrapper as its kind applied to the function it calls, `HostCall.callee`: the primitive's own
function except for `getBlockHash`, whose wrapper passes on the sign-extended low half of its
`i64` argument.

A wrapper of any kind runs its function and at most sets an exception on top, so one call
moves the host state by at most one effect (`dispatch_effects`), and a whole run by a chain
of effects (`runGuest_effects`), and so does the way to each call the run makes
(`Guest.Calls.effects`). A reflexive and transitive relation on host states that holds
across every effect therefore holds across every run (`EvmHost.Effects.lift`); the mock
host's invariants over nested frames are proved this way.
-/

set_option autoImplicit false

namespace DtvmEvm

open HostFn

/-! ### The four kinds of wrapper -/

/-- How a wrapper hands its function's result to the guest. -/
inductive WrapperKind where
  /-- `if let Err(_) = f(..) { inst.set_exception_by_hostapi(9) }`. -/
  | abort
  /-- The value, for functions without a `Result`. -/
  | scalar
  /-- `match f(..) { Ok(_) => 0, Err(_) => 1 }`. -/
  | status
  /-- `f(..).unwrap_or_default()`. -/
  | orDefault
deriving DecidableEq

/-- The kind of each primitive's wrapper. -/
def HostCall.wrapperKind : HostCall → WrapperKind
  | .getBlockNumber | .getBlockTimestamp | .getBlockGasLimit | .getCallDataSize | .getCodeSize
  | .getReturnDataSize | .getGasLeft => .scalar
  | .callContract .. | .callCode .. | .callDelegate .. | .callStatic .. | .createContract .. =>
    .status
  | .getExternalCodeSize _ => .orDefault
  | _ => .abort

/-- The call a primitive's wrapper makes. `get_block_hash` is registered with an `i64`
parameter, and its wrapper reads the low 32 bits and sign-extends them. -/
def HostCall.callee : HostCall → HostCall
  | .getBlockHash n r => .getBlockHash ((n.truncate 32).signExtend 64) r
  | c => c

namespace Extern

variable {σ : Type} (host : EvmHost σ)

/-- A wrapper of the given kind around `f`. -/
def wrap : WrapperKind → HostFn σ (Option HostValue) → Instance σ → ExternResult σ
  | .abort, f, inst =>
    match f inst with
    | .ok _ inst' => some (none, inst')
    | .error (.error _) inst' => some (none, { inst' with exception := some 9 })
    | .error .panicked _ => none
  | .scalar, f, inst =>
    match f inst with
    | .ok v inst' => some (v, inst')
    | .error _ _ => none
  | .status, f, inst =>
    match f inst with
    | .ok _ inst' => some (some (.i32 0), inst')
    | .error (.error _) inst' => some (some (.i32 1), inst')
    | .error .panicked _ => none
  | .orDefault, f, inst =>
    match f inst with
    | .ok v inst' => some (v, inst')
    | .error (.error _) inst' => some (some (.i32 0), inst')
    | .error .panicked _ => none

section Shapes

variable {α : Type} (f : HostFn σ α) (inst : Instance σ)

theorem abortOnError_eq_wrap (g : α → Option HostValue) :
    abortOnError f inst = wrap .abort (g <$> f) inst := by
  simp only [abortOnError, wrap, map_apply]
  rcases f inst with _ | ⟨_ | _, _⟩ <;> rfl

theorem returnScalar_eq_wrap (toValue : α → HostValue) :
    returnScalar f toValue inst = wrap .scalar ((some ∘ toValue) <$> f) inst := by
  simp only [returnScalar, wrap, map_apply]
  rcases f inst with _ | ⟨_, _⟩ <;> rfl

theorem statusCode_eq_wrap (f : HostFn σ (BitVec 32)) :
    statusCode f inst = wrap .status ((some ∘ .i32) <$> f) inst := by
  simp only [statusCode, wrap, map_apply]
  rcases f inst with _ | ⟨_ | _, _⟩ <;> rfl

theorem getExternalCodeSize_eq_wrap (addrOffset : BitVec 32) :
    getExternalCodeSize host addrOffset inst =
      wrap .orDefault ((some ∘ .i32) <$> HostFunctions.getExternalCodeSize host addrOffset) inst := by
  simp only [getExternalCodeSize, wrap, map_apply]
  rcases HostFunctions.getExternalCodeSize host addrOffset inst with _ | ⟨_ | _, _⟩ <;> rfl

end Shapes

/-- Every registered primitive is its wrapper's kind applied to the function it calls. -/
theorem dispatch_eq_wrap (c : HostCall) (inst : Instance σ) :
    dispatch host c inst = wrap c.wrapperKind (c.callee.run host) inst := by
  cases c <;> simp only [dispatch]
  all_goals first
    | exact abortOnError_eq_wrap _ _ _
    | exact returnScalar_eq_wrap _ _ _
    | exact statusCode_eq_wrap _ _
    | exact getExternalCodeSize_eq_wrap host _ _

end Extern

/-! ### Effects of one call and of a run -/

variable {σ α : Type} {host : EvmHost σ}

/-- Host states reachable by a chain of effects. -/
abbrev EvmHost.Effects (host : EvmHost σ) : σ → σ → Prop :=
  Relation.ReflTransGen host.Effect

/-- A reflexive, transitive relation that holds across every effect holds across every chain
of effects. -/
theorem EvmHost.Effects.lift {R : σ → σ → Prop} (refl : ∀ s, R s s)
    (trans : ∀ s₁ s₂ s₃, R s₁ s₂ → R s₂ s₃ → R s₁ s₃) (step : ∀ s s', host.Effect s s' → R s s')
    {s s' : σ} (h : host.Effects s s') : R s s' := by
  induction h with
  | refl => exact refl s
  | tail _ hstep ih => exact trans _ _ _ ih (step _ _ hstep)

theorem EvmHost.Effects.of_atomic_ok {s s' : Instance σ} {x : HostFn σ α} {a : α}
    (hx : AtomicAt host s x) (h : x s = .ok a s') : host.Effects s.extraCtx s'.extraCtx :=
  (hx.ok_effect a s' h).elim (fun he => he ▸ .refl) .single

namespace Extern

variable {inst inst' : Instance σ} {v : Option HostValue}

/-- A wrapper of any kind around an atomic function moves the host state by at most one
effect: the function's own, or none where it failed. -/
theorem wrap_effects {k : WrapperKind} {f : HostFn σ (Option HostValue)} (hf : Atomic host f)
    (h : wrap k f inst = some (v, inst')) : host.Effects inst.extraCtx inst'.extraCtx := by
  cases hfi : f inst with
  | ok a i =>
    have he : host.Effects inst.extraCtx i.extraCtx := .of_atomic_ok (hf inst) hfi
    cases k <;> simp only [wrap, hfi, Option.some.injEq, Prod.mk.injEq] at h <;> exact h.2 ▸ he
  | error e i =>
    obtain rfl := (hf inst).error_eq e i hfi
    cases k <;> cases e <;>
      simp only [wrap, hfi, Option.some.injEq, Prod.mk.injEq, reduceCtorEq] at h <;>
      exact h.2 ▸ .refl

/-- One call of a registered primitive moves the host state by at most one effect. -/
theorem dispatch_effects (c : HostCall) (h : dispatch host c inst = some (v, inst')) :
    host.Effects inst.extraCtx inst'.extraCtx :=
  wrap_effects (atomic_run host c.callee) (dispatch_eq_wrap host c inst ▸ h)

end Extern

/-- A whole guest run moves the host state by a chain of effects: instructions and memory
reads leave it alone, and each primitive call moves it by at most one effect. -/
theorem runGuest_effects (g : Guest) (inst : Instance σ) :
    host.Effects inst.extraCtx (runGuest host g inst).2.extraCtx := by
  induction g generalizing inst with
  | ret => exact .refl
  | trap => exact .refl
  | exec f cost k ih =>
    unfold runGuest
    split
    · exact .refl
    · exact ih { inst with memory := f inst.memory, gasLeft := inst.gasLeft - cost }
  | read k ih => exact ih _ _
  | call c k ih =>
    unfold runGuest
    split
    · exact .refl
    · rename_i v inst' hd
      have hstep := Extern.dispatch_effects c hd
      split
      · exact hstep
      · exact hstep
      · exact hstep.trans (ih v inst')

/-- Running `g` from `inst`, the guest calls the primitive `c` on the instance `inst'`. The
constructors follow the branches of `runGuest` that continue the guest. -/
inductive Guest.Calls (host : EvmHost σ) (c : HostCall) : Guest → Instance σ → Instance σ → Prop
  | here {k : Option HostValue → Guest} {inst : Instance σ} : Guest.Calls host c (.call c k) inst inst
  | exec {f : Memory → Memory} {cost : Nat} {k : Guest} {inst inst' : Instance σ} :
      ¬inst.gasLeft < cost →
      Guest.Calls host c k { inst with memory := f inst.memory, gasLeft := inst.gasLeft - cost }
        inst' →
      Guest.Calls host c (.exec f cost k) inst inst'
  | read {k : Memory → Guest} {inst inst' : Instance σ} :
      Guest.Calls host c (k inst.memory) inst inst' → Guest.Calls host c (.read k) inst inst'
  | next {c₀ : HostCall} {k : Option HostValue → Guest} {inst inst₁ inst' : Instance σ}
      {v : Option HostValue} :
      Extern.dispatch host c₀ inst = some (v, inst₁) → inst₁.exception = none →
      inst₁.exitCode = none → Guest.Calls host c (k v) inst₁ inst' →
      Guest.Calls host c (.call c₀ k) inst inst'

namespace Guest.Calls

variable {c : HostCall} {g : Guest} {inst inst' : Instance σ}

/-- Every call of a run is made on a host state reached by a chain of effects. -/
theorem effects (h : g.Calls host c inst inst') : host.Effects inst.extraCtx inst'.extraCtx := by
  induction h with
  | here => exact .refl
  | exec _ _ ih => exact ih
  | read _ ih => exact ih
  | next hd _ _ _ ih => exact (Extern.dispatch_effects _ hd).trans ih

end Guest.Calls

end DtvmEvm
