import Specs.Fabric.ControlFlow
import Specs.Fabric.Stall
import Specs.Fabric.GprWrite
import Specs.Or1200.Restart
import Specs.Or1200.SprWrite
import Specs.Fabric.LoadData
import Specs.Or1200.SystemCall
import Specs.Or1200.Diagnosis
import Specs.Or1200.FixedOne
import Specs.Or1200.UserWrite
import Specs.Or1200.Transparency
import Specs.Or1200.PagePrivilege
import Specs.Or1200.Escalation
import Specs.Or1200.ZeroRegister
import Specs.Ovl.Combo
import Specs.Or1200.StoreLaw
import Specs.Or1200.Sampling
import Specs.Or1200.Evaluate
import Specs.Or1200.Accumulator
import Specs.Or1200.Timing
import Specs.Or1200.Overflow
import Specs.Or1200.Wishbone
import Specs.Or1200.ProgramOrder
