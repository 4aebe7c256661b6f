import H2oHttp2.Basic
import H2oHttp2.State
import H2oHttp2.Stream
import H2oHttp2.Requests
import H2oHttp2.Body
import H2oHttp2.Headers
import H2oHttp2.Frames
import H2oHttp2.Writer
import H2oHttp2.Events
import H2oHttp2.HeaderBlocks
import H2oHttp2.Shutdown
import H2oHttp2.Wire
import H2oHttp2.WireHandlers
import H2oHttp2.WireEvents
import H2oHttp2.AboveGoaway
import H2oHttp2.FlowControl
import H2oHttp2.ClosedRing
import H2oHttp2.Admission
import H2oHttp2.Flow
import H2oHttp2.FlowEvents
import H2oHttp2.StreamLimit
import H2oHttp2.Table
import H2oHttp2.TableBody
import H2oHttp2.TableFrames
