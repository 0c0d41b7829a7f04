import Micronux.BfltAudit
import Micronux.PoolExtents
import Micronux.PoolGrowth
import Micronux.PmpSteps
import Micronux.HartRuns
import Micronux.ClicReturn
import Micronux.PanelRuns
import Micronux.JobPace
import Micronux.JobGroup
import Micronux.JobOutput
import Micronux.DeviceClientRuns
import Micronux.NetctlOffsets
import Micronux.NetctlFrames
import Micronux.NetctlWait
import Micronux.PayloadJump
import Micronux.ColdHandoffAccept
import Micronux.DcsPacket
import Micronux.BacklightAdapter
import Micronux.MmcSlots
import Micronux.ClintTimer
import Micronux.ColdLdo
import Micronux.ColdRefinement
import Micronux.ColdSafeguards
import Micronux.ColdBootContract
import Micronux.I2cRuns
import Micronux.TouchRuns
import Micronux.JobLaunchRuns
