/-
This file models the id generators: the plain counter `IdWorker` and the
`SnowflakeIdWorker` that derives from it.

Both are read through one virtual method, `genId`. The counter needs nothing
else; the snowflake generator reads the clock through `genTimeStamp`, so a call
takes the reading it makes as an argument. The class `IdGenerator` is the
virtual method: `Input` is what one call reads from outside, `Unit` for the
counter and the clock reading for the snowflake generator.
-/

import Mathlib.Data.UInt

namespace RpcInstance

/-- The virtual method `genId`: one call reads `Input`, returns an id and leaves the generator
changed. -/
class IdGenerator (Generator : Type) (Input : outParam Type) where
  genId : Generator → Input → UInt64 × Generator

/-! ### The counter -/

/-- The default generator counts up from `0`. -/
structure IdWorker where
  curId : UInt64 := 0
  deriving DecidableEq, Repr

namespace IdWorker

/-- The largest 64-bit value, which the counter is masked with before it is incremented. -/
def maxId : UInt64 := 0xffffffffffffffff

/-- One call. -/
def genId (worker : IdWorker) : UInt64 × IdWorker :=
  let curId := (worker.curId &&& maxId) + 1
  (curId, { worker with curId })

instance : IdGenerator IdWorker Unit where
  genId worker _ := worker.genId

end IdWorker

/-! ### The snowflake generator -/

/-- What a snowflake generator remembers between calls, next to the two ids it was built with.
The shifts and masks below are never written after construction. -/
structure SnowflakeIdWorker where
  workerId : UInt64 := 0
  dataCenterId : UInt64 := 0
  sequence : UInt64 := 0
  lastTimeStamp : UInt64 := 0
  deriving DecidableEq, Repr

namespace SnowflakeIdWorker

/-- Milliseconds from 1970 to 2022-08-20. -/
def baseEpoch : UInt64 := 1660924800000

/-- The bits of the machine id. -/
def workerIdBits : UInt64 := 5

/-- The bits of the data center id. -/
def dataCenterIdBits : UInt64 := 5

/-- The shift and the xor are computed on 32-bit values and widened afterwards. -/
def maxWorkerId : UInt64 := ((-1 : UInt32) ^^^ ((-1 : UInt32) <<< workerIdBits.toUInt32)).toUInt64

/-- Computed like `maxWorkerId`. -/
def maxDataCenterId : UInt64 :=
  ((-1 : UInt32) ^^^ ((-1 : UInt32) <<< dataCenterIdBits.toUInt32)).toUInt64

/-- The bits of the sequence. -/
def sequenceBits : UInt64 := 12

/-- The machine id is above the sequence. -/
def workerIdShift : UInt64 := sequenceBits

/-- The data center id is above the machine id. The comment on `genId` has them the other way. -/
def dataCenterIdShift : UInt64 := sequenceBits + workerIdBits

/-- The time is above the ids. -/
def timestampLeftShift : UInt64 := sequenceBits + workerIdBits + dataCenterIdBits

/-- The bits of the sequence, all set. -/
def sequenceMask : UInt64 := (-1 : UInt64) ^^^ ((-1 : UInt64) <<< sequenceBits)

/-- The constructor with the lines it prints. An id that is too large is reported and kept. -/
def construct (workerId dataCenterId : UInt64) : SnowflakeIdWorker × List String :=
  ({ workerId, dataCenterId },
    (if workerId > maxWorkerId then ["workderId overflow"] else []) ++
      (if dataCenterId > maxDataCenterId then ["dataCenterId overflow"] else []))

/-- One call that reads the clock as `now`. A sequence that wraps to `0` borrows the next
millisecond. -/
def genId (worker : SnowflakeIdWorker) (now : UInt64) : UInt64 × SnowflakeIdWorker :=
  let (sequence, timestamp) :=
    if worker.lastTimeStamp = now then
      let sequence := (worker.sequence + 1) &&& sequenceMask
      (sequence, if sequence = 0 then now + 1 else now)
    else (0, now)
  (((timestamp - baseEpoch) <<< timestampLeftShift) |||
      (worker.dataCenterId <<< dataCenterIdShift) |||
      (worker.workerId <<< workerIdShift) ||| sequence,
    { worker with sequence, lastTimeStamp := timestamp })

instance : IdGenerator SnowflakeIdWorker UInt64 where
  genId := genId

end SnowflakeIdWorker

end RpcInstance
