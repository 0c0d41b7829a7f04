/-
The GT9271 touch controller and the poll of its driver.  The controller posts
one record at a time and waits until its status register is cleared; the
driver reads the record over I2C, reports it to the input layer and clears
the register.  Every transaction may fail.
-/
import Micronux.I2cBus

namespace Micronux.Touch

open Concurrent

/-- `handoff.width` and `handoff.height`, which the probe has found to be
those of the panel -/
structure Geometry where
  width : Nat
  height : Nat
  wide : 0 < width
  high : 0 < height

/-- `MICRONUX_TOUCH_STATUS_READY` -/
def statusReady : Byte := 0x80#8

/-- `MICRONUX_TOUCH_COUNT_MASK` -/
def countMask : Byte := 0x0f#8

/-- `MICRONUX_TOUCH_MAX_CONTACTS` -/
def maxContacts : Nat := 10

/-- What the controller posts: its status register, marked ready, and the
eight bytes of the first contact. -/
structure Record where
  status : Byte
  point : List Byte
  ready : status &&& statusReady ≠ 0
  whole : point.length = 8

/-- The axes that `micronux_register_touch` declares. -/
inductive Axis where
  | x
  | y
  | pressure
deriving DecidableEq

/-- What the driver tells the input layer. -/
inductive InputEvent where
  /-- `input_report_key` of `BTN_TOUCH` -/
  | key (down : Bool)
  /-- `input_report_abs` -/
  | abs (axis : Axis) (value : Nat)
  /-- `input_sync` -/
  | sync
deriving DecidableEq

/-- The maximum of an axis, as `input_set_abs_params` declares it. -/
def Geometry.maximum (geometry : Geometry) : Axis → Nat
  | .x => geometry.width - 1
  | .y => geometry.height - 1
  | .pressure => 255

/-- A byte pair of a contact, low byte first. -/
def pointWord (point : List Byte) (index : Nat) : Nat :=
  ((point.getD index 0#8).setWidth 32 |||
    (point.getD (index + 1) 0#8).setWidth 32 <<< 8).toNat

/-- `clamp_val(pressure, 1, 255)` -/
def clampPressure (pressure : Nat) : Nat :=
  max 1 (min pressure 255)

def contacts (status : Byte) : Nat :=
  (status &&& countMask).toNat

def releaseEvents : List InputEvent :=
  [.key false, .abs .pressure 0]

def contactEvents (geometry : Geometry) (point : List Byte) : List InputEvent :=
  [.key true, .abs .x (min (pointWord point 1) (geometry.width - 1)),
    .abs .y (min (pointWord point 3) (geometry.height - 1)),
    .abs .pressure (clampPressure (pointWord point 5))]

/-- A transaction or a check that failed, and the record it was about. -/
inductive Failure where
  | status
  | contacts (index : Nat)
  | point (index : Nat)
  | clear (index : Nat)
deriving DecidableEq

/-- The register of the controller and the state of the driver.  The last
four fields are history: what the input layer was told, the records posted,
the numbers of those reported, and the failures. -/
structure TouchState where
  mailbox : Option Record
  reads : Word
  errors : Word
  down : Bool
  events : List InputEvent
  posted : List Record
  reported : List Nat
  failures : List Failure

/-- The transactions of a poll: `MICRONUX_TOUCH_STATUS` is read and cleared,
`MICRONUX_TOUCH_POINT_DATA` is read. -/
def pollRequests (address : Byte) : List I2c.Request :=
  [.readReg16 address 0x814e#16 1, .readReg16 address 0x814f#16 8,
    I2c.writeReg16 address 0x814e#16 0#8]

/-- No transaction of a poll fails for its arguments. -/
theorem pollRequests_accepted {address : Byte} (haddress : address ≤ 0x7f#8) :
    ∀ request ∈ pollRequests address, request.accepted = true := by
  simp [pollRequests, I2c.writeReg16, I2c.Request.accepted, haddress]

/-- How a transaction ends.  An unacknowledged write may have reached the
controller; `idle` is a status register without a record. -/
structure Input where
  ok : Bool := true
  reached : Bool := false
  idle : Byte := 0#8

abbrev TouchProg := Prog TouchState Input

def setTouch (change : TouchState → TouchState) : TouchProg Unit :=
  Prog.store change

/-- `micronux_i2c_read_reg16` of `MICRONUX_TOUCH_STATUS`, with the number of
the record it may show. -/
def readStatus : TouchProg (Option (Byte × Nat)) :=
  Prog.atomic fun input touch =>
    some (touch, if input.ok then
      some ((touch.mailbox.map Record.status).getD
        (input.idle &&& ~~~statusReady), touch.posted.length - 1)
    else none)

/-- `micronux_i2c_read_reg16` of `MICRONUX_TOUCH_POINT_DATA`.  Without a
record its bytes mean nothing. -/
def readPoint : TouchProg (Option (List Byte)) :=
  Prog.atomic fun input touch =>
    some (touch, if input.ok then
      some ((touch.mailbox.map Record.point).getD (List.replicate 8 input.idle))
    else none)

/-- `micronux_i2c_write_reg16` of zero to `MICRONUX_TOUCH_STATUS` -/
def writeStatus : TouchProg Bool :=
  Prog.atomic fun input touch =>
    some ({ touch with
      mailbox := if input.ok || input.reached then none else touch.mailbox },
      input.ok)

def TouchState.failed (touch : TouchState) (failure : Failure) : TouchState :=
  { touch with
    errors := touch.errors + 1, failures := touch.failures ++ [failure] }

/-- The counter `touch_errors` -/
def countError (failure : Failure) : TouchProg Unit :=
  setTouch fun touch => touch.failed failure

/-- The counter `touch_reads` -/
def countRead : TouchProg Unit :=
  setTouch fun touch => { touch with reads := touch.reads + 1 }

def report (event : InputEvent) : TouchProg Unit :=
  setTouch fun touch => { touch with events := touch.events ++ [event] }

def TouchState.synced (touch : TouchState) (index : Nat) : TouchState :=
  { touch with
    events := touch.events ++ [.sync], reported := touch.reported ++ [index] }

/-- The events of a record, `touch_down` and `input_sync` -/
def reportRecord (index : Nat) (events : List InputEvent) (down : Bool) :
    TouchProg Unit := do
  Prog.forEach report events
  setTouch fun touch => { touch with down := down }
  setTouch fun touch => touch.synced index

/-- The label `clear_status` of `micronux_touch_poll` -/
def clearStatus (index : Nat) : TouchProg Unit := do
  if ← writeStatus then pure () else countError (.clear index)

/-- The part of `micronux_touch_poll` between a ready status and the label
`clear_status` -/
def takeRecord (geometry : Geometry) (status : Byte) (index : Nat) :
    TouchProg Unit :=
  if maxContacts < contacts status then countError (.contacts index)
  else if contacts status = 0 then reportRecord index releaseEvents false
  else do
    match ← readPoint with
    | none => countError (.point index)
    | some point => reportRecord index (contactEvents geometry point) true

/-- `micronux_touch_poll` -/
def touchPoll (geometry : Geometry) : TouchProg Unit := do
  match ← readStatus with
  | none => countError .status
  | some (status, index) => do
    countRead
    if status &&& statusReady = 0 then pure ()
    else do
      takeRecord geometry status index
      clearStatus index

def post (record : Record) : TouchProg Unit :=
  Prog.await (fun touch => touch.mailbox.isNone) fun touch =>
    { touch with
      mailbox := some record, posted := touch.posted ++ [record] }

/-- What may happen: a poll, or a new record. -/
inductive TouchCall where
  | poll
  | post (record : Record)

def touchCode (geometry : Geometry) (_ : ThreadId) : TouchCall → TouchProg Unit
  | .poll => touchPoll geometry
  | .post record => post record

end Micronux.Touch
