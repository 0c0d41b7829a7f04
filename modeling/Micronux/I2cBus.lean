/-
The I2C controller that the panel's backlight and the touch controller share:
its command registers and FIFOs, the engine that runs a programmed list of
commands on the bus, and the exchanges that the driver means to have there.
-/
import Micronux.Display

namespace Micronux.I2c

/-- `I2C_CMD_*` -/
inductive Opcode where
  | restart
  | write
  | read
  | stop
deriving DecidableEq

def Opcode.code : Opcode → Word
  | .restart => 6#32
  | .write => 1#32
  | .read => 3#32
  | .stop => 2#32

/-- `I2C_CMD` -/
def cmd (opcode : Opcode) (bytes : Nat) (ackCheck : Bool) : Word :=
  BitVec.ofNat 32 bytes ||| (if ackCheck then 0x100#32 else 0#32) |||
    opcode.code <<< 11

/-- `I2C_CMD_READ_BYTES` -/
def cmdReadBytes (bytes : Nat) (nack : Bool) : Word :=
  BitVec.ofNat 32 bytes ||| (if nack then 0x400#32 else 0#32) |||
    Opcode.read.code <<< 11

/-- `I2C_COMMAND_DONE` -/
def commandDone : Word := 0x80000000#32

def fifoDepth : Nat := 32

def commandCount : Nat := 8

/-- A command as the engine reads it: how many bytes, and whether it answers
the bytes it receives with a NACK. -/
structure Command where
  opcode : Opcode
  bytes : Nat
  nack : Bool
deriving DecidableEq

def readOpcode (code : Word) : Option Opcode :=
  if code = 6#32 then some .restart
  else if code = 1#32 then some .write
  else if code = 3#32 then some .read
  else if code = 2#32 then some .stop
  else none

def readCommand (word : Word) : Option Command :=
  (readOpcode (word >>> 11 &&& 7#32)).map fun opcode =>
    ⟨opcode, (word &&& 0xff#32).toNat, word.getLsbD 10⟩

theorem readCommand_cmd (opcode : Opcode) {bytes : Nat} (ackCheck : Bool)
    (hbytes : bytes ≤ fifoDepth) :
    readCommand (cmd opcode bytes ackCheck) = some ⟨opcode, bytes, false⟩ := by
  have hall : ∀ count : Fin (fifoDepth + 1), ∀ check : Bool,
      readCommand (cmd opcode count check) = some ⟨opcode, count, false⟩ := by
    cases opcode <;> decide +kernel
  exact hall ⟨bytes, Nat.lt_succ_of_le hbytes⟩ ackCheck

theorem readCommand_cmdReadBytes {bytes : Nat} (nack : Bool)
    (hbytes : bytes ≤ fifoDepth) :
    readCommand (cmdReadBytes bytes nack) = some ⟨.read, bytes, nack⟩ := by
  have hall : ∀ count : Fin (fifoDepth + 1), ∀ answer : Bool,
      readCommand (cmdReadBytes count answer) =
        some ⟨.read, count, answer⟩ := by
    decide +kernel
  exact hall ⟨bytes, Nat.lt_succ_of_le hbytes⟩ nack

/-- What happens on the two wires. -/
inductive WireEvent where
  | start
  | sent (byte : Byte)
  | received (byte : Byte) (nack : Bool)
  | stop
deriving DecidableEq

/-- What a list of commands does: the events on the wires, the bytes for the
RX FIFO, what is left in the TX FIFO, and the command that ended it. -/
structure Exchange where
  wire : List WireEvent
  received : List Byte
  left : List Byte
  stop : Option Nat

def Exchange.behind (exchange : Exchange) (wire : List WireEvent)
    (received : List Byte) : Exchange :=
  { exchange with
    wire := wire ++ exchange.wire, received := received ++ exchange.received }

/-- The bytes that a device answers from some point on. -/
def answered (answers : Nat → Byte) (taken count : Nat) : List Byte :=
  (List.range count).map fun offset => answers (taken + offset)

@[simp] theorem length_answered (answers : Nat → Byte) (taken count : Nat) :
    (answered answers taken count).length = count := by
  simp [answered]

theorem answered_succ (answers : Nat → Byte) (taken count : Nat) :
    answered answers taken (count + 1) =
      answered answers taken count ++ [answers (taken + count)] := by
  simp [answered, List.range_succ]

theorem answered_one (answers : Nat → Byte) (taken : Nat) :
    answered answers taken 1 = [answers taken] := by
  simp [answered]

/-- The engine runs the command registers in turn up to a stop command.  A
register that holds no command of its own ends nothing. -/
def runCommands (command : Nat → Word) (answers : Nat → Byte) :
    Nat → Nat → List Byte → Nat → Exchange
  | 0, _, queued, _ => ⟨[], [], queued, none⟩
  | fuel + 1, index, queued, taken =>
    match readCommand (command index) with
    | none => ⟨[], [], queued, none⟩
    | some ⟨.restart, _, _⟩ =>
      (runCommands command answers fuel (index + 1) queued taken).behind
        [.start] []
    | some ⟨.write, bytes, _⟩ =>
      (runCommands command answers fuel (index + 1) (queued.drop bytes)
        taken).behind ((queued.take bytes).map .sent) []
    | some ⟨.read, bytes, nack⟩ =>
      (runCommands command answers fuel (index + 1) queued
        (taken + bytes)).behind
        ((answered answers taken bytes).map (.received · nack))
        (answered answers taken bytes)
    | some ⟨.stop, _, _⟩ => ⟨[.stop], [], queued, some index⟩

/-- The calls of the driver's I2C layer. -/
inductive Request where
  /-- `micronux_i2c_write_bytes` -/
  | writeBytes (address : Byte) (bytes : List Byte)
  /-- `micronux_i2c_read_reg16` -/
  | readReg16 (address : Byte) (reg : BitVec 16) (length : Nat)
deriving DecidableEq

/-- `micronux_i2c_write_reg8` -/
def writeReg8 (address reg value : Byte) : Request :=
  .writeBytes address [reg, value]

/-- `micronux_i2c_write_reg16` -/
def writeReg16 (address : Byte) (reg : BitVec 16) (value : Byte) : Request :=
  .writeBytes address [(reg >>> 8).setWidth 8, reg.setWidth 8, value]

def Request.accepted : Request → Bool
  | .writeBytes address bytes =>
    !bytes.isEmpty && decide (bytes.length ≤ 31) && decide (address ≤ 0x7f#8)
  | .readReg16 address _ length =>
    decide (length ≠ 0) && decide (length ≤ 32) && decide (address ≤ 0x7f#8)

def Request.loads : Request → List Byte
  | .writeBytes address bytes => address <<< 1 :: bytes
  | .readReg16 address reg _ =>
    [address <<< 1, (reg >>> 8).setWidth 8, reg.setWidth 8,
      address <<< 1 ||| 1#8]

def Request.commands : Request → List Word
  | .writeBytes _ bytes =>
    [cmd .restart 0 false, cmd .write (bytes.length + 1) true,
      cmd .stop 0 false]
  | .readReg16 _ _ length =>
    [cmd .restart 0 false, cmd .write 3 true, cmd .restart 0 false,
      cmd .write 1 true] ++
    (if 1 < length then
      [cmdReadBytes (length - 1) false, cmdReadBytes 1 true]
    else [cmdReadBytes 1 true]) ++ [cmd .stop 0 false]

def Request.stopCommand : Request → Nat
  | .writeBytes _ _ => 2
  | .readReg16 _ _ length => if 1 < length then 6 else 5

def Request.wanted : Request → Nat
  | .writeBytes _ _ => 0
  | .readReg16 _ _ length => length

/-- The exchange that a call means to have on the bus.  A register is read
behind a repeated start, and the last byte is not acknowledged. -/
def Request.wire (answers : Nat → Byte) : Request → List WireEvent
  | .writeBytes address bytes =>
    .start :: (address <<< 1 :: bytes).map .sent ++ [.stop]
  | .readReg16 address reg length =>
    .start :: [address <<< 1, (reg >>> 8).setWidth 8,
      reg.setWidth 8].map .sent ++
    .start :: .sent (address <<< 1 ||| 1#8) ::
    (answered answers 0 (length - 1)).map (.received · false) ++
    [.received (answers (length - 1)) true, .stop]

variable {command : Nat → Word} {answers : Nat → Byte} {request : Request}

theorem Request.length_loads_le (haccepted : request.accepted = true) :
    request.loads.length ≤ fifoDepth := by
  cases request with
  | writeBytes address bytes =>
    simp only [Request.accepted, Bool.and_eq_true, decide_eq_true_eq]
      at haccepted
    simp only [Request.loads, List.length_cons, fifoDepth]
    omega
  | readReg16 address reg length => simp [Request.loads, fifoDepth]

theorem Request.wanted_le (haccepted : request.accepted = true) :
    request.wanted ≤ fifoDepth := by
  cases request with
  | writeBytes address bytes => exact Nat.zero_le fifoDepth
  | readReg16 address reg length =>
    simp only [Request.accepted, Bool.and_eq_true, decide_eq_true_eq]
      at haccepted
    exact haccepted.1.2

/-- What the command registers hold behind the writes of a call. -/
def Programmed (command : Nat → Word) (words : List Word) : Prop :=
  ∀ index word, words[index]? = some word → command index = word

/-- On an accepted read the engine sends the register and takes the bytes. -/
theorem runCommands_read {address : Byte} {reg : BitVec 16} {length : Nat}
    (haccepted : (Request.readReg16 address reg length).accepted = true)
    (hprogrammed : Programmed command
      (Request.readReg16 address reg length).commands) :
    runCommands command answers commandCount 0
        (Request.readReg16 address reg length).loads 0 =
      ⟨(Request.readReg16 address reg length).wire answers,
        answered answers 0 length, [],
        some (Request.readReg16 address reg length).stopCommand⟩ := by
  simp only [Request.accepted, Bool.and_eq_true, decide_eq_true_eq] at haccepted
  obtain ⟨⟨hsome, hmost⟩, -⟩ := haccepted
  obtain ⟨count, rfl⟩ := Nat.exists_eq_succ_of_ne_zero hsome
  have hcount : count ≤ fifoDepth := Nat.le_of_succ_le hmost
  have hfirst : command 0 = cmd .restart 0 false := hprogrammed 0 _ rfl
  have hregister : command 1 = cmd .write 3 true := hprogrammed 1 _ rfl
  have hagain : command 2 = cmd .restart 0 false := hprogrammed 2 _ rfl
  have haddress : command 3 = cmd .write 1 true := hprogrammed 3 _ rfl
  have hthree : 3 ≤ fifoDepth := by decide
  have hone : 1 ≤ fifoDepth := by decide
  cases count with
  | zero =>
    have hlast : command 4 = cmdReadBytes 1 true := hprogrammed 4 _ rfl
    have hstop : command 5 = cmd .stop 0 false := hprogrammed 5 _ rfl
    simp [runCommands, commandCount, hfirst, hregister, hagain, haddress,
      hlast, hstop, readCommand_cmd, readCommand_cmdReadBytes, hthree, hone,
      Request.loads, Request.wire, Request.stopCommand, Exchange.behind,
      answered]
  | succ count =>
    have hlonger : 1 < count + 1 + 1 := by omega
    have hcommands : (Request.readReg16 address reg (count + 1 + 1)).commands =
        [cmd .restart 0 false, cmd .write 3 true, cmd .restart 0 false,
          cmd .write 1 true, cmdReadBytes (count + 1) false,
          cmdReadBytes 1 true, cmd .stop 0 false] := by
      simp [Request.commands]
    rw [hcommands] at hprogrammed
    have hmany : command 4 = cmdReadBytes (count + 1) false :=
      hprogrammed 4 _ rfl
    have hlast : command 5 = cmdReadBytes 1 true := hprogrammed 5 _ rfl
    have hstop : command 6 = cmd .stop 0 false := hprogrammed 6 _ rfl
    simp [runCommands, commandCount, hfirst, hregister, hagain, haddress,
      hmany, hlast, hstop, readCommand_cmd, readCommand_cmdReadBytes, hthree,
      hone, hcount, Request.loads, Request.wire, Request.stopCommand,
      Exchange.behind, answered_one]
    rw [answered_succ answers 0 (count + 1), Nat.zero_add]

/-- The engine has exactly the exchange of the request that was loaded. -/
theorem runCommands_loaded (haccepted : request.accepted = true)
    (hprogrammed : Programmed command request.commands) :
    runCommands command answers commandCount 0 request.loads 0 =
      ⟨request.wire answers, answered answers 0 request.wanted, [],
        some request.stopCommand⟩ := by
  cases request with
  | writeBytes address bytes =>
    have hlength := Request.length_loads_le haccepted
    simp only [Request.loads, List.length_cons] at hlength
    have hstart : command 0 = cmd .restart 0 false := hprogrammed 0 _ rfl
    have hwrite : command 1 = cmd .write (bytes.length + 1) true :=
      hprogrammed 1 _ rfl
    have hstop : command 2 = cmd .stop 0 false := hprogrammed 2 _ rfl
    simp [runCommands, commandCount, hstart, hwrite, hstop, readCommand_cmd,
      hlength, Request.loads, Request.wire, Exchange.behind, answered,
      Request.wanted, Request.stopCommand]
  | readReg16 address reg length => exact runCommands_read haccepted hprogrammed

end Micronux.I2c
