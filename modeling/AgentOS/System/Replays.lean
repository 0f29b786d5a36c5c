import AgentOS.ControlPlane.Cancel
import AgentOS.Library.Guarantee
import AgentOS.Library.Joined
import AgentOS.LocalDirect.RecoveryRules
import AgentOS.System.Deadlines
import AgentOS.Workflow.AgentStepRules

/-! Replays of a run's steps. The effect behind an attempt's session is fenced by
what the execution that first claimed it was given; a later execution gets
through where it is given the same, its own context included. -/
namespace AgentOS.System
open Library

/-! ### Keys -/

end AgentOS.System
