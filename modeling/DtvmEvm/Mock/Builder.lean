import DtvmEvm.Mock.Context

/-!
# `DtvmEvm.Mock.Builder`: how the example tests set up a context

`MockContextBuilder` (`mock_context.rs`) starts from the mock's default identity and
environment, and each `with_*` method replaces one field. Two of them take a `u64` and write
its eight big-endian bytes into the low end of a 32-byte word: `with_chain_id_u64` and
`with_gas_price_wei`. `build` adds fresh cells: empty return data, status `None`, no events,
and a fresh storage and registry unless the builder was given shared ones.

`with_storage` and `with_contract_registry` are left out. They hand the built context an
`Rc` that other contexts may hold too, and in this model cells are shared only by the clones
of one context, as the mock host's own frames share them. `MockContext.build code` is the
builder with only `with_code` applied (`MockContextBuilder.build_withCode`).
-/

set_option autoImplicit false

namespace DtvmEvm

/-- `MockContextBuilder`, without the shared `storage` and `contract_registry`. -/
structure MockContextBuilder where
  contractCode : Bytes
  callData : Bytes
  address : Address
  caller : Address
  callValue : Word
  chainId : Word
  blockInfo : BlockInfo
  txInfo : TransactionInfo

/-- `u64::to_be_bytes`: the eight bytes of `x`, most significant first. -/
def u64ToBeBytes (x : UInt64) : List UInt8 :=
  (List.range 8).reverse.map fun i => UInt8.ofNat (x.toNat / 256 ^ i)

theorem length_u64ToBeBytes (x : UInt64) : (u64ToBeBytes x).length = 8 := by
  simp [u64ToBeBytes]

namespace MockContextBuilder

/-- `MockContextBuilder::new()`. -/
def new : MockContextBuilder where
  contractCode := []
  callData := [0xf8, 0xa8, 0xfd, 0x6d]
  address := .withHead 20 [0x05] (by decide)
  caller := .withHead 20 [0x04] (by decide)
  callValue := .zero 32
  chainId := .withHead 32 [0x07] (by decide)
  blockInfo := .default
  txInfo := .default

variable (self : MockContextBuilder)

/-- `with_code`. -/
def withCode (code : Bytes) : MockContextBuilder := { self with contractCode := code }

/-- `with_call_data`. -/
def withCallData (data : Bytes) : MockContextBuilder := { self with callData := data }

/-- `with_address`. -/
def withAddress (address : Address) : MockContextBuilder := { self with address }

/-- `with_caller`. -/
def withCaller (caller : Address) : MockContextBuilder := { self with caller }

/-- `with_call_value`. -/
def withCallValue (value : Word) : MockContextBuilder := { self with callValue := value }

/-- `with_chain_id_u64`: `id[24..32].copy_from_slice(&chain_id.to_be_bytes())`. -/
def withChainIdU64 (chainId : UInt64) : MockContextBuilder :=
  { self with chainId := .padLeft 32 (u64ToBeBytes chainId) (by rw [length_u64ToBeBytes]; omega) }

/-- `with_block_number`. -/
def withBlockNumber (number : BitVec 64) : MockContextBuilder :=
  { self with blockInfo := { self.blockInfo with number } }

/-- `with_block_timestamp`. -/
def withBlockTimestamp (timestamp : BitVec 64) : MockContextBuilder :=
  { self with blockInfo := { self.blockInfo with timestamp } }

/-- `with_block_gas_limit`. -/
def withBlockGasLimit (gasLimit : BitVec 64) : MockContextBuilder :=
  { self with blockInfo := { self.blockInfo with gasLimit } }

/-- `with_block_coinbase`. -/
def withBlockCoinbase (coinbase : Address) : MockContextBuilder :=
  { self with blockInfo := { self.blockInfo with coinbase } }

/-- `with_base_fee`. -/
def withBaseFee (baseFee : Word) : MockContextBuilder :=
  { self with blockInfo := { self.blockInfo with baseFee } }

/-- `with_blob_base_fee`. -/
def withBlobBaseFee (blobBaseFee : Word) : MockContextBuilder :=
  { self with blockInfo := { self.blockInfo with blobBaseFee } }

/-- `with_block_prev_randao`. -/
def withBlockPrevRandao (prevRandao : Word) : MockContextBuilder :=
  { self with blockInfo := { self.blockInfo with prevRandao } }

/-- `with_tx_origin`. -/
def withTxOrigin (origin : Address) : MockContextBuilder :=
  { self with txInfo := { self.txInfo with origin } }

/-- `with_gas_price_wei`: `price[24..32].copy_from_slice(&wei.to_be_bytes())`. -/
def withGasPriceWei (wei : UInt64) : MockContextBuilder :=
  { self with txInfo := { self.txInfo with
      gasPrice := .padLeft 32 (u64ToBeBytes wei) (by rw [length_u64ToBeBytes]; omega) } }

/-- `with_gas_limit`: the transaction gas limit, every frame's budget. -/
def withGasLimit (gas : BitVec 64) : MockContextBuilder :=
  { self with txInfo := { self.txInfo with gasLimit := gas } }

/-- `build`, with fresh cells. -/
def build : MockContext where
  contractCode := self.contractCode
  callData := self.callData
  address := self.address
  caller := self.caller
  callValue := self.callValue
  chainId := self.chainId
  blockInfo := self.blockInfo
  txInfo := self.txInfo
  cells := .empty

/-- `MockContext::builder().with_code(code).build()`. -/
theorem build_withCode (code : Bytes) : (new.withCode code).build = MockContext.build code := rfl

end MockContextBuilder

end DtvmEvm
