import IntegriteeParachain.Xcm.Location
import IntegriteeParachain.Xcm.Instruction
import IntegriteeParachain.Runtime.CurrencyIdConvert
import IntegriteeParachain.Runtime.Reserve
import IntegriteeParachain.Runtime.LocationToAccountId
import IntegriteeParachain.Runtime.OriginConverter
import IntegriteeParachain.Runtime.AssetTransactor
import IntegriteeParachain.Runtime.Barrier
import IntegriteeParachain.Runtime.Weigher
import IntegriteeParachain.Runtime.Executor
import IntegriteeParachain.Runtime.Trader
import IntegriteeParachain.Runtime.Router
import IntegriteeParachain.Runtime.PalletXcm
import IntegriteeParachain.Runtime.Vm
import IntegriteeParachain.Runtime.VmOrigin
import IntegriteeParachain.Runtime.VmWeight
import IntegriteeParachain.Node.BuildOnAccess
import IntegriteeParachain.Node.ConsensusSelector
