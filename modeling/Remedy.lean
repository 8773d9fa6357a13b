import Remedy.Host.Plain
import Remedy.Main
import Remedy.Proofs.Command.Rendering
import Remedy.Proofs.Config.AllowList
import Remedy.Proofs.Config.Building
import Remedy.Proofs.Config.Document
import Remedy.Proofs.Config.Numbers
import Remedy.Proofs.Config.Port
import Remedy.Proofs.Config.Refusal
import Remedy.Proofs.Config.Texts
import Remedy.Proofs.Config.Vhost
import Remedy.Proofs.Consumer.Course
import Remedy.Proofs.Consumer.Discipline
import Remedy.Proofs.Consumer.Effect
import Remedy.Proofs.Consumer.Ending
import Remedy.Proofs.Consumer.Modes
import Remedy.Proofs.Consumer.Preview
import Remedy.Proofs.Consumer.Reporting
import Remedy.Proofs.Consumer.Restart
import Remedy.Proofs.Dispatch.Decoding
import Remedy.Proofs.Execution.Launching
import Remedy.Proofs.Execution.Reading
import Remedy.Proofs.Execution.Tail
import Remedy.Proofs.Messaging.Failures
import Remedy.Proofs.Rehearsal.Scripts
