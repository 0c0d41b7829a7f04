/-
The driver's I2C layer, one action per register access.  Any number of threads
call it; `dsi->lock` keeps their accesses apart, while the engine of the
controller ends its exchanges whenever it likes.
-/
import Micronux.I2cBus

namespace Micronux.I2c

open Concurrent

/-- The registers that the layer uses.  The trigger bits of `I2C_CTR` read as
zero, and `running` says that an exchange was started and has not ended. -/
structure Controller where
  ctr : Word
  fifoConf : Word
  intEna : Word
  intRaw : Word
  txFifo : List Byte
  rxFifo : List Byte
  command : Nat → Word
  running : Bool

/-- The controller and `dsi->lock`.  The last two fields are history: the
calls whose exchange was started, and what each ended exchange has put on the
wires. -/
structure Bus where
  controller : Controller
  lock : Option ThreadId
  asked : List (ThreadId × Request)
  wires : List (List WireEvent)

/-- The interrupts of `I2C_ERROR_MASK` -/
inductive BusError where
  | arbitrationLost
  | timeout
  | nack
deriving DecidableEq

def BusError.mask : BusError → Word
  | .arbitrationLost => 0x20#32
  | .timeout => 0x100#32
  | .nack => 0x400#32

/-- `I2C_ERROR_MASK` -/
def errorMask : Word := 0x520#32

/-- What the hardware answers to one action.  `ok` is whether a reset of the
state machine took effect, or whether a poll goes on; `busy` whether another
master holds the bus.  An exchange ends whole, or with an error somewhere on
its way, and then commands may still be marked done. -/
structure Input where
  ok : Bool := true
  busy : Bool := false
  answers : Nat → Byte := fun _ => 0#8
  error : Option BusError := none
  cut : Nat := 0
  left : Nat := 0
  taken : Nat := 0
  done : Nat → Bool := fun _ => false

/-- The error codes of the layer. -/
inductive Errno where
  | einval
  | eio
  | ebusy
  | etimedout
deriving DecidableEq

abbrev I2cProg := Prog Bus Input

def setController (change : Controller → Controller) : I2cProg Unit :=
  Prog.store fun bus => { bus with controller := change bus.controller }

def readController {β : Type} (view : Controller → β) : I2cProg β :=
  Prog.load fun bus => view bus.controller

/-- `I2C_MS_MODE` -/
def msMode : Word := 0x10#32

/-- `I2C_RX_FIFO_RST | I2C_TX_FIFO_RST` -/
def fifoReset : Word := 0x3000#32

def Controller.exchange (controller : Controller) (answers : Nat → Byte) :
    Exchange :=
  runCommands controller.command answers commandCount 0 controller.txFifo 0

def Bus.completes (bus : Bus) (exchange : Exchange) (stop : Nat) : Bus :=
  { bus with
    controller := { bus.controller with
      txFifo := exchange.left
      rxFifo := bus.controller.rxFifo ++ exchange.received
      command := Function.update bus.controller.command stop
        (bus.controller.command stop ||| commandDone)
      running := false }
    wires := bus.wires ++ [exchange.wire] }

/-- The engine ends its exchange with an error.  What is left in the FIFOs
depends on how far it came. -/
def Bus.fails (bus : Bus) (exchange : Exchange) (input : Input)
    (error : BusError) : Bus :=
  { bus with
    controller := { bus.controller with
      intRaw := bus.controller.intRaw ||| error.mask
      txFifo := bus.controller.txFifo.drop input.left
      rxFifo := bus.controller.rxFifo ++ exchange.received.take input.taken
      command := fun index =>
        if input.done index then bus.controller.command index ||| commandDone
        else bus.controller.command index
      running := false }
    wires := bus.wires ++ [exchange.wire.take input.cut] }

def engineEnds (input : Input) (bus : Bus) : Option Bus :=
  let exchange := bus.controller.exchange input.answers
  if bus.controller.running then
    match input.error with
    | some error => some (bus.fails exchange input error)
    | none => exchange.stop.map (bus.completes exchange)
  else none

/-- The engine of the controller, which waits for no thread. -/
def engine : I2cProg Unit :=
  Prog.atomic fun input bus => (engineEnds input bus).map (·, ())

/-- `readl(I2C_SR) & I2C_BUS_BUSY` -/
def busBusy : I2cProg Bool :=
  Prog.atomic fun input bus =>
    some (bus, bus.controller.running || input.busy)

/-- A write of `I2C_FSM_RST` to `I2C_CTR`: where it takes effect in time, an
exchange ends where it is. -/
def resetFsm (ctr : Word) : I2cProg Unit :=
  Prog.atomic fun input bus =>
    let stored := { bus with controller := { bus.controller with ctr := ctr } }
    some (if bus.controller.running && input.ok then
        { stored with
          controller := { stored.controller with running := false }
          wires := bus.wires ++
            [(bus.controller.exchange input.answers).wire.take input.cut] }
      else stored, ())

/-- A write to `I2C_FIFO_CONF` -/
def writeFifoConf (value : Word) : I2cProg Unit :=
  setController fun controller => { controller with
    fifoConf := value
    txFifo := if value &&& 0x2000#32 = 0 then controller.txFifo else []
    rxFifo := if value &&& 0x1000#32 = 0 then controller.rxFifo else [] }

def clearFifos : I2cProg Unit := do
  setController fun controller => { controller with intEna := 0 }
  setController fun controller => { controller with intRaw := 0 }
  let fifo ← readController Controller.fifoConf
  writeFifoConf (fifo ||| fifoReset)
  writeFifoConf (fifo &&& ~~~fifoReset)

/-- `micronux_i2c_prepare_locked` -/
def prepareLocked : I2cProg (Except Errno Unit) := do
  if (← readController Controller.ctr) &&& msMode = 0 then
    pure (.error .eio)
  else if ← busBusy then do
    resetFsm (← readController Controller.ctr)
    if ← busBusy then pure (.error .ebusy)
    else do
      clearFifos
      pure (.ok ())
  else do
    clearFifos
    pure (.ok ())

/-- A write of `I2C_TRANS_START` to `I2C_CTR` -/
def startExchange (t : ThreadId) (request : Request) (ctr : Word) :
    I2cProg Unit :=
  Prog.store fun bus => { bus with
    controller := { bus.controller with ctr := ctr, running := true }
    asked := bus.asked ++ [(t, request)] }

/-- `readl_poll_timeout` on a command register: whether it was seen done.  A
look that sees nothing is made again until the time is over. -/
def pollDone (index : Nat) : I2cProg Bool :=
  Prog.atomic fun input bus =>
    if bus.controller.command index &&& commandDone = 0 then
      if input.ok then none else some (bus, false)
    else some (bus, true)

/-- `micronux_i2c_start_locked`; `I2C_CONF_UPGATE` only latches the
configuration. -/
def startLocked (t : ThreadId) (request : Request) :
    I2cProg (Except Errno Unit) := do
  let command ← readController Controller.ctr
  setController fun controller => { controller with ctr := command }
  startExchange t request command
  let done ← pollDone request.stopCommand
  let raw ← readController Controller.intRaw
  setController fun controller =>
    { controller with intRaw := controller.intRaw &&& ~~~raw }
  if done then
    if raw &&& errorMask = 0 then pure (.ok ()) else pure (.error .eio)
  else pure (.error .etimedout)

/-- A write to `I2C_DATA` -/
def pushData (byte : Byte) : I2cProg Unit :=
  setController fun controller =>
    { controller with txFifo := controller.txFifo ++ [byte] }

/-- A write to `I2C_COMMAND` -/
def writeCommand (entry : Word × Nat) : I2cProg Unit :=
  setController fun controller => { controller with
    command := Function.update controller.command entry.2 entry.1 }

/-- A read of `I2C_DATA`; an empty FIFO reads as zero. -/
def popData : I2cProg Byte :=
  Prog.critical fun bus =>
    ({ bus with controller := { bus.controller with
        rxFifo := bus.controller.rxFifo.tail } },
      bus.controller.rxFifo.headD 0#8)

/-- The loop of `micronux_i2c_read_reg16` over the RX FIFO -/
def popBytes : Nat → I2cProg (List Byte)
  | 0 => pure []
  | count + 1 => do
    let byte ← popData
    let rest ← popBytes count
    pure (byte :: rest)

/-- `mutex_lock(&dsi->lock)` -/
def lockBus (t : ThreadId) : I2cProg Unit :=
  Prog.await (fun bus => bus.lock.isNone) fun bus => { bus with lock := some t }

def unlockBus : I2cProg Unit :=
  Prog.store fun bus => { bus with lock := none }

/-- The part of both calls under the lock: prepare, load the FIFO and the
commands, start, and take the bytes that were asked for. -/
def transferLocked (t : ThreadId) (request : Request) :
    I2cProg (Except Errno (List Byte)) := do
  match ← prepareLocked with
  | .error errno => pure (.error errno)
  | .ok () => do
    Prog.forEach pushData request.loads
    Prog.forEach writeCommand request.commands.zipIdx
    match ← startLocked t request with
    | .error errno => pure (.error errno)
    | .ok () => do
      let bytes ← popBytes request.wanted
      pure (.ok bytes)

/-- `micronux_i2c_write_bytes` and `micronux_i2c_read_reg16`, which differ in
what they load and how much they take. -/
def transfer (t : ThreadId) (request : Request) :
    I2cProg (Except Errno (List Byte)) :=
  if request.accepted then do
    lockBus t
    let result ← transferLocked t request
    unlockBus
    pure result
  else pure (.error .einval)

end Micronux.I2c
