import NegativaMl.RustRuntime
import NegativaMl.FatBinary
import NegativaMl.FatBinaryLayout
import NegativaMl.Locator
import NegativaMl.LocatorSelection
import NegativaMl.LocatorTables
import NegativaMl.Reconstructor
import NegativaMl.Debloat
import NegativaMl.ParserTermination
import NegativaMl.TraceeMemory
import NegativaMl.Supervisor
import NegativaMl.TraceSession
import NegativaMl.CubinKernels
import NegativaMl.Elf
import NegativaMl.Commands
import NegativaMl.Main
