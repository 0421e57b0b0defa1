import DtvmEvm.Basic
import Mathlib.Data.Nat.Digits

/-!
# `DtvmEvm.Host`: the `EvmHost` trait

`EvmHost` (`evm/traits.rs`) is what the bridge asks of a blockchain backend. Its methods take
`&self` and mutate the backend through `RefCell`s; here the backend is a state `σ`, a query
method is a function of `σ`, and a method with an effect returns the new state. The trait's
default methods are the default field values. `getCallDataSize`, `getCodeSize` and
`getReturnDataSize` measure the corresponding byte source; `addmod`, `mulmod` and `expmod`
decode their operands with `BigUint::from_bytes_be` and encode the result with
`bigint_to_bytes32`.

Two kinds of method differ from the trait's signatures. The sub-call methods
(`call_contract`, `call_code`, `call_delegate`, `call_static`, `create_contract`) return an
`Option`: `none` is a panic inside the backend, as the mock host has one in
`execute_contract_deployment`. `sha256` and `keccak256` have no default value: the trait's
defaults call the `sha2` and `sha3` crates, which are not part of this repository.
-/

set_option autoImplicit false

namespace DtvmEvm

/-- `BigUint::from_bytes_be`. -/
def fromBytesBE (bytes : List UInt8) : Nat :=
  bytes.foldl (fun acc b => acc * 256 + b.toNat) 0

/-- `BigUint::to_bytes_be`: the big-endian bytes without leading zeros, and `[0]` for zero. -/
def toBytesBE (n : Nat) : List UInt8 :=
  if n = 0 then [0] else ((Nat.digits 256 n).map UInt8.ofNat).reverse

/-- `bigint_to_bytes32`: the big-endian bytes of `value`, zero-padded on the left, or their
last 32 bytes when there are more than 32. -/
def bigintToBytes32 (value : Nat) : Word :=
  let bytes := toBytesBE value
  if h : bytes.length > 32 then
    ⟨bytes.drop (bytes.length - 32), by simp; omega⟩
  else
    ⟨List.replicate (32 - bytes.length) 0 ++ bytes, by simp; omega⟩

/-- The default `addmod`: zero for a zero modulus. -/
def defaultAddmod (a b n : Word) : Word :=
  let n := fromBytesBE n.bytes
  bigintToBytes32 (if n = 0 then 0 else (fromBytesBE a.bytes + fromBytesBE b.bytes) % n)

/-- The default `mulmod`: zero for a zero modulus. -/
def defaultMulmod (a b n : Word) : Word :=
  let n := fromBytesBE n.bytes
  bigintToBytes32 (if n = 0 then 0 else (fromBytesBE a.bytes * fromBytesBE b.bytes) % n)

/-- The default `expmod`, with its ladder of special cases before `BigUint::modpow`. -/
def defaultExpmod (base exp modulus : Word) : Word :=
  let b := fromBytesBE base.bytes
  let e := fromBytesBE exp.bytes
  let m := fromBytesBE modulus.bytes
  bigintToBytes32 <|
    if m = 0 then 0
    else if m = 1 then 0
    else if e = 0 then 1
    else if b = 0 then 0
    else b ^ e % m

/-- The `EvmHost` trait over a backend state `σ`. -/
structure EvmHost (σ : Type) where
  getAddress : σ → Address
  getBlockHash : σ → BitVec 64 → Option Word
  callDataCopy : σ → Bytes
  getCallDataSize : σ → BitVec 32 := fun s => BitVec.ofNat 32 (callDataCopy s).length
  getCaller : σ → Address
  getCallValue : σ → Word
  getChainId : σ → Word
  getGasLeft : σ → BitVec 64 → BitVec 64
  getBlockGasLimit : σ → BitVec 64
  getBlockNumber : σ → BitVec 64
  getTxOrigin : σ → Address
  getBlockTimestamp : σ → BitVec 64
  storageStore : σ → Word → Word → σ
  storageLoad : σ → Word → Word
  emitLogEvent : σ → LogEvent → σ
  codeCopy : σ → Bytes
  getCodeSize : σ → BitVec 32 := fun s => BitVec.ofNat 32 (codeCopy s).length
  getBaseFee : σ → Word
  getBlobBaseFee : σ → Word
  getBlockCoinbase : σ → Address
  getTxGasPrice : σ → Word
  getExternalBalance : σ → Address → Word
  getExternalCodeSize : σ → Address → Option (BitVec 32)
  getExternalCodeHash : σ → Address → Option Word
  externalCodeCopy : σ → Address → Option Bytes
  getBlockPrevRandao : σ → Word
  selfDestruct : σ → Address → σ × Word
  /-- `call_contract(target, caller, value, data, gas)`. -/
  callContract : σ → Address → Address → Word → Bytes → BitVec 64 →
    Option (σ × ContractCallResult)
  /-- `call_code(target, caller, value, data, gas)`. -/
  callCode : σ → Address → Address → Word → Bytes → BitVec 64 → Option (σ × ContractCallResult)
  /-- `call_delegate(target, caller, data, gas)`. -/
  callDelegate : σ → Address → Address → Bytes → BitVec 64 → Option (σ × ContractCallResult)
  /-- `call_static(target, caller, data, gas)`. -/
  callStatic : σ → Address → Address → Bytes → BitVec 64 → Option (σ × ContractCallResult)
  /-- `create_contract(creator, value, code, data, gas, salt, is_create2)`. -/
  createContract : σ → Address → Word → Bytes → Bytes → BitVec 64 → Option Word → Bool →
    Option (σ × ContractCreateResult)
  returnDataCopy : σ → Bytes
  getReturnDataSize : σ → Nat := fun s => (returnDataCopy s).length
  finish : σ → Bytes → σ
  revert : σ → Bytes → σ
  invalid : σ → σ
  sha256 : σ → Bytes → Word
  keccak256 : σ → Bytes → Word
  addmod : σ → Word → Word → Word → Word := fun _ => defaultAddmod
  mulmod : σ → Word → Word → Word → Word := fun _ => defaultMulmod
  expmod : σ → Word → Word → Word → Word := fun _ => defaultExpmod

end DtvmEvm
