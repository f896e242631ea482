import RpcInstance.Library.Runs
import RpcInstance.Library.Slots
import RpcInstance.Library.BigEndian
import RpcInstance.Library.Scanner
import RpcInstance.Library.FixedBuffer
import RpcInstance.Outcome
import RpcInstance.IdWorker
import RpcInstance.Snowflake.Layout
import RpcInstance.Snowflake.Order
import RpcInstance.Snowflake.Distinct
import RpcInstance.Msgpack.Token
import RpcInstance.Msgpack.Unpack
import RpcInstance.Msgpack.Adaptors
import RpcInstance.Invoker
import RpcInstance.Data
import RpcInstance.Base
import RpcInstance.Network
import RpcInstance.Correlation
import RpcInstance.Replies
import RpcInstance.Pending
import RpcInstance.Frames
import RpcInstance.Dispatch
import RpcInstance.Library.Visits
import RpcInstance.Snowflake.Limits
import RpcInstance.Incoming
import RpcInstance.Wrappers
import RpcInstance.Unwinding
import RpcInstance.Msgpack.Integers
import RpcInstance.Msgpack.Arrivals
import RpcInstance.Msgpack.RoundTrip
import RpcInstance.Msgpack.Prefixes
import RpcInstance.Library.GrowableBuffer
import RpcInstance.Msgpack.SBuffer
import RpcInstance.Library.Simulation
import RpcInstance.Requests
import RpcInstance.Ledger
import RpcInstance.Remote
import RpcInstance.Library.Interleaving
import RpcInstance.Snowflake.Fleet
import RpcInstance.Serving
import RpcInstance.Msgpack.Zone
import RpcInstance.Library.Blocks
import RpcInstance.Msgpack.Visitor
