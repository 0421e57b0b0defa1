import Mathlib.Data.List.Basic
import Mathlib.Algebra.Group.Nat.Basic

/-!
# `DtvmEvm.Basic`: the values that cross the host bridge

The EVM host bridge of `dtvmcore_rust` exchanges 20-byte addresses and 32-byte words with the
guest through linear memory, as `[u8; 20]` and `[u8; 32]`, and variable-length data as
`Vec<u8>`. `FixedBytes n` is an `[u8; n]`: a byte list that carries its length, so that a
31-byte `Word` cannot be built. Guest arguments are `i32` and `i64`, modelled as `BitVec 32`
and `BitVec 64`; the Rust test `x < 0` is `x.toInt < 0` and the cast `x as u32` is `x.toNat`.

The result records of `evm/traits.rs` (`LogEvent`, `ContractCallResult`,
`ContractCreateResult`) and the error type of `evm/error.rs` follow. Of `HostFunctionError`
only the two kinds that a primitive can raise are modelled, with their constructors
`out_of_bounds_error` and `invalid_parameter_error`; the other seven kinds, `Display` and the
category strings are produced or read by nothing modelled here.
-/

set_option autoImplicit false

namespace DtvmEvm

/-- `Vec<u8>`. -/
abbrev Bytes := List UInt8

/-- `[u8; n]`: exactly `n` bytes. -/
@[ext] structure FixedBytes (n : Nat) where
  bytes : List UInt8
  length_eq : bytes.length = n
deriving DecidableEq

/-- A 32-byte word (`[u8; 32]`): storage keys and values, call values, hashes. -/
abbrev Word := FixedBytes 32

/-- A 20-byte address (`[u8; 20]`). -/
abbrev Address := FixedBytes 20

/-- `[0u8; n]`. -/
def FixedBytes.zero (n : Nat) : FixedBytes n := ⟨List.replicate n 0, List.length_replicate n 0⟩

@[simp] theorem FixedBytes.zero_bytes (n : Nat) : (FixedBytes.zero n).bytes = List.replicate n 0 :=
  rfl

/-- An EVM log entry (`LogEvent` of `traits.rs`). -/
structure LogEvent where
  contractAddress : Address
  data : Bytes
  topics : List Word
deriving DecidableEq

/-- The outcome a host reports for a sub-call (`ContractCallResult`). `gasUsed` is an `i64`. -/
structure ContractCallResult where
  success : Bool
  returnData : Bytes
  gasUsed : BitVec 64
deriving DecidableEq

/-- `ContractCallResult::success`. -/
def ContractCallResult.ofSuccess (returnData : Bytes) (gasUsed : BitVec 64) : ContractCallResult :=
  { success := true, returnData, gasUsed }

/-- `ContractCallResult::failure`. -/
def ContractCallResult.ofFailure (returnData : Bytes) (gasUsed : BitVec 64) : ContractCallResult :=
  { success := false, returnData, gasUsed }

/-- The outcome a host reports for a creation (`ContractCreateResult`). -/
structure ContractCreateResult where
  success : Bool
  contractAddress : Option Address
  returnData : Bytes
  gasUsed : BitVec 64
deriving DecidableEq

/-- `ContractCreateResult::success`: the address is present. -/
def ContractCreateResult.ofSuccess (contractAddress : Address) (returnData : Bytes)
    (gasUsed : BitVec 64) : ContractCreateResult :=
  { success := true, contractAddress := some contractAddress, returnData, gasUsed }

/-- `ContractCreateResult::failure`: no address. -/
def ContractCreateResult.ofFailure (returnData : Bytes) (gasUsed : BitVec 64) :
    ContractCreateResult :=
  { success := false, contractAddress := none, returnData, gasUsed }

/-- The error a host primitive returns (`HostFunctionError`), restricted to the two kinds the
primitives raise. Offsets and lengths are `u32`. -/
inductive HostFunctionError where
  | outOfBounds (offset length : Nat) (message function : String)
  | invalidParameter (param value message function : String)
deriving DecidableEq, Repr

/-- `out_of_bounds_error(offset, length, context)`. -/
def outOfBoundsError (offset length : Nat) (context : String) : HostFunctionError :=
  .outOfBounds offset length ("Out of bounds in " ++ context) "unknown"

/-- `invalid_parameter_error(param, value, context)`. -/
def invalidParameterError (param value context : String) : HostFunctionError :=
  .invalidParameter param value ("Invalid parameter in " ++ context) "unknown"

end DtvmEvm
