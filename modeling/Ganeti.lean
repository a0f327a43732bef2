import Ganeti.Version
import Ganeti.SshCommand
import Ganeti.Sre
import Ganeti.Patterns
