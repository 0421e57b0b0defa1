import DtvmEvm.Basic
import DtvmEvm.Instance
import DtvmEvm.Utils
import DtvmEvm.Host
import DtvmEvm.HostFunctions.Environment
import DtvmEvm.HostFunctions.Data
import DtvmEvm.HostFunctions.State
import DtvmEvm.HostFunctions.Contract
import DtvmEvm.Bridge
import DtvmEvm.Engine
import DtvmEvm.Mock.Context
import DtvmEvm.Mock.Executor
import DtvmEvm.Mock.Builder
import DtvmEvm.Proofs.Effects
import DtvmEvm.Proofs.Utils
import DtvmEvm.Proofs.Atomicity
import DtvmEvm.Proofs.Runs
import DtvmEvm.Proofs.Control
import DtvmEvm.Proofs.Mock.Frames
import DtvmEvm.Proofs.Mock.Storage
import DtvmEvm.Proofs.Mock.Calls
import DtvmEvm.Proofs.Mock.Create
import DtvmEvm.Proofs.Wrappers
import DtvmEvm.Proofs.Copy
import DtvmEvm.Proofs.Codec
import DtvmEvm.Proofs.Arithmetic
import DtvmEvm.Proofs.MemoryAccess
import DtvmEvm.Proofs.Mock.Logs
import DtvmEvm.Proofs.Mock.Outcome
import DtvmEvm.Proofs.Mock.Builder
