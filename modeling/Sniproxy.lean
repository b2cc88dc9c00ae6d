import Sniproxy.Buffer
import Sniproxy.Connection.Basic
import Sniproxy.Connection.Callback
import Sniproxy.Connection.Spec
import Sniproxy.Connection.Sound
import Sniproxy.Connection.Reachable
import Sniproxy.Connection.Properties
import Sniproxy.Connection.Run
import Sniproxy.Connection.Routing
import Sniproxy.Connection.Drain
import Sniproxy.Registry
import Sniproxy.Config
import Sniproxy.Config.Print
import Sniproxy.Dump
