import NetworkLogging.Bytes
import NetworkLogging.Writer.World
import NetworkLogging.Writer.Handlers
import NetworkLogging.Writer.Run
import NetworkLogging.Writer.Accounting
import NetworkLogging.Writer.Connection
import NetworkLogging.Writer.Transmission
import NetworkLogging.Writer.Lifecycle
import NetworkLogging.Writer.Locking
import NetworkLogging.Writer.Delivery
import NetworkLogging.Writer.Draining
import NetworkLogging.Config.Factory
import NetworkLogging.Json.Reader
import NetworkLogging.Json.Formatter
import NetworkLogging.Writer.Liveness
