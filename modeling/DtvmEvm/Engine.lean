import DtvmEvm.Bridge

/-!
# `DtvmEvm.Engine`: a guest run against a host

The WASM engine is not part of this repository. What the bridge needs of it is how a guest
drives the primitives, and `Guest` says that for every guest: a guest is a tree whose
internal nodes are instructions (`exec`, which may change the memory and costs gas), reads
of its own memory (`read`), and calls of registered primitives (`call`), each continued by
what the guest does with the result. Its leaves are a normal return of the exported
function (`ret`) and a trap (`trap`). A deterministic guest of any behaviour is such a tree.

`runGuest` runs a guest on an instance. A primitive is called through its registered
`extern "C"` wrapper (`Extern.dispatch`). When the wrapper has called
`set_exception_by_hostapi` or the primitive has called `instance.exit`, the engine stops the
guest as the wrapper returns. An instruction that costs more than the remaining gas traps
with the counter at zero, as the metered module's `__instrumented_use_gas` does.

`Halt.callOk` is the outcome `call_wasm_func` reports: `Ok` after a return or an
`instance.exit`, `Err` after a trap or a host exception. The example tests depend on the
`Ok` after `exit`: `testSelfDestruct` must succeed, and it ends with `exit(3)`.
-/

set_option autoImplicit false

namespace DtvmEvm

/-- A guest's behaviour. -/
inductive Guest where
  | ret
  | trap
  | exec (f : Memory → Memory) (cost : Nat) (k : Guest)
  | read (k : Memory → Guest)
  | call (c : HostCall) (k : Option HostValue → Guest)

/-- How a guest run ends. -/
inductive Halt where
  | returned
  | exited (code : Int)
  | exception (code : Nat)
  | trapped
  | panicked
deriving DecidableEq

/-- `call_wasm_func` returned `Ok`. -/
def Halt.callOk : Halt → Bool
  | .returned | .exited _ => true
  | _ => false

variable {σ : Type} (host : EvmHost σ)

/-- Run a guest on an instance until it halts. -/
def runGuest : Guest → Instance σ → Halt × Instance σ
  | .ret, inst => (.returned, inst)
  | .trap, inst => (.trapped, inst)
  | .exec f cost k, inst =>
    if inst.gasLeft < cost then (.trapped, { inst with gasLeft := 0 })
    else runGuest k { inst with memory := f inst.memory, gasLeft := inst.gasLeft - cost }
  | .read k, inst => runGuest (k inst.memory) inst
  | .call c k, inst =>
    match Extern.dispatch host c inst with
    | none => (.panicked, inst)
    | some (v, inst') =>
      match inst'.exception, inst'.exitCode with
      | some code, _ => (.exception code, inst')
      | none, some code => (.exited code, inst')
      | none, none => runGuest (k v) inst'

end DtvmEvm
