/-
The bytes that the supervisor's monitor reads from the two pipes of a job and
those that it passes on to its standard output, over every behaviour of the
job, the pipes and the standard output.
-/
import Micronux.JobSteps

namespace Micronux

/-- An answer of the kernel with what a `read` puts into the buffer. -/
structure OutputAnswer where
  answer : JobAnswer := {}
  content : Nat → BitVec 8 := fun _ => 0

/-- `monitor_job` with the buffer of `forward_output`, all the bytes read, in
the order of the reads, and all the bytes written to standard output. -/
structure OutputMonitor where
  monitor : JobMonitor := {}
  buffer : List (BitVec 8) := []
  received : List (BitVec 8) := []
  forwarded : List (BitVec 8) := []

namespace OutputMonitor

def chunk (input : OutputAnswer) (count : Nat) : List (BitVec 8) :=
  (List.range count).map input.content

/-- A `read` fills the buffer. -/
def receive (state : OutputMonitor) (input : OutputAnswer) : OutputMonitor :=
  match input.answer.read with
  | .data index =>
    { state with
      buffer := chunk input (index.val + 1)
      received := state.received ++ chunk input (index.val + 1) }
  | _ => state

/-- A `write` takes at most what it is given of the buffer. -/
def send (state : OutputMonitor) (accepted offset : Nat)
    (answer : WriteAnswer) : OutputMonitor :=
  match answer with
  | .wrote written =>
    { state with
      forwarded := state.forwarded ++
        (state.buffer.drop offset).take (min written (accepted - offset)) }
  | _ => state

/-- One system call of `monitor_job`. -/
def step (quiet : Bool) (state : OutputMonitor) (input : OutputAnswer) :
    OutputMonitor :=
  let passed :=
    match state.monitor.phase with
    | .read _ _ => state.receive input
    | .write _ _ _ accepted offset =>
      state.send accepted offset input.answer.write
    | _ => state
  { passed with monitor := state.monitor.step quiet input.answer }

theorem length_chunk (input : OutputAnswer) (count : Nat) :
    (chunk input count).length = count := by
  rw [chunk, List.length_map, List.length_range]

end OutputMonitor

/-- `monitor_job` after some answers, with the bytes it has moved. -/
def monitorOutput (quiet : Bool) (inputs : List OutputAnswer) : OutputMonitor :=
  Machine.run (OutputMonitor.step quiet) {} inputs

/-- The bytes change nothing of what the monitor does. -/
theorem monitorOutput_monitor (quiet : Bool) (inputs : List OutputAnswer) :
    (monitorOutput quiet inputs).monitor =
      monitorJob quiet (inputs.map OutputAnswer.answer) := by
  induction inputs using List.reverseRecOn with
  | nil => rfl
  | append_singleton inputs input ih =>
    unfold monitorOutput monitorJob at ih ⊢
    rw [List.map_append, Machine.run_append, Machine.run_append, ← ih]
    rfl

/-- What was to be passed on and what was: no more, and the very same bytes
if nothing is lost. -/
def Passed (lossless : Prop) (expected actual : List (BitVec 8)) : Prop :=
  actual.length ≤ expected.length ∧ (lossless → actual = expected)

/-- The first bytes of a longer list are at least as many. -/
theorem Passed.longer {lossless : Prop}
    {expected actual longer : List (BitVec 8)}
    (hpassed : Passed lossless expected actual)
    (hlonger : expected.length ≤ longer.length) (hlossy : ¬ lossless) :
    Passed lossless longer actual :=
  ⟨hpassed.1.trans hlonger, fun hless => absurd hless hlossy⟩

variable {prior : List (BitVec 8)} {offset : Nat}

/-- The bytes of the buffer that are still to be written, all of them or those
that a short write takes. -/
theorem Passed.send {lossless : Prop} {buffer forwarded : List (BitVec 8)}
    {more : Nat}
    (hpassed : Passed lossless (prior ++ buffer.take offset) forwarded) :
    Passed lossless (prior ++ buffer.take (offset + more))
      (forwarded ++ (buffer.drop offset).take more) := by
  have hsplit : prior ++ buffer.take (offset + more) =
      (prior ++ buffer.take offset) ++ (buffer.drop offset).take more := by
    rw [List.append_assoc, List.take_add]
  rw [hsplit]
  refine ⟨?_, fun hless => by rw [hpassed.2 hless]⟩
  rw [List.length_append, List.length_append]
  exact Nat.add_le_add_right hpassed.1 _

namespace OutputMonitor

variable {lossless : Prop} {state : OutputMonitor} {quiet : Bool}

/-- Between two reads, the bytes up to the limit have been passed on. -/
structure Relayed (lossless : Prop) (state : OutputMonitor) : Prop where
  output : state.monitor.output = state.received.length
  passed : Passed lossless (state.received.take jobOutputBytes) state.forwarded

/-- While a read is passed on, `offset` bytes of the buffer have been. -/
structure Writing (lossless : Prop) (state : OutputMonitor)
    (count accepted offset : Nat) (prior : List (BitVec 8)) : Prop where
  received : state.received = prior ++ state.buffer
  length : state.buffer.length = count
  output : state.monitor.output = prior.length
  below : prior.length < jobOutputBytes
  limit : accepted = min count (jobOutputBytes - prior.length)
  inside : offset < accepted
  passed : Passed lossless (prior ++ state.buffer.take offset) state.forwarded

def Relay (lossless : Prop) (state : OutputMonitor) : Prop :=
  match state.monitor.phase with
  | .write _ _ count accepted offset =>
    ∃ prior, state.Writing lossless count accepted offset prior
  | _ => state.Relayed lossless

/-- What holds while the counter of the output has not wrapped. -/
def Intact (lossless : Prop) (state : OutputMonitor) : Prop :=
  state.received.length < 2 ^ 64 → state.Relay lossless

theorem relay_of_calm (hwrite : state.monitor.phase.writing = false) :
    state.Relay lossless ↔ state.Relayed lossless := by
  unfold Relay
  split
  · next hphase =>
      rw [hphase] at hwrite
      cases hwrite
  · exact Iff.rfl

/-- A call that neither reads nor writes. -/
theorem Relayed.calm {monitor : JobMonitor} (hrelay : state.Relayed lossless)
    (hcalm : state.monitor.Calm monitor) :
    Relay lossless { state with monitor } :=
  (relay_of_calm hcalm.writing).mpr
    ⟨hcalm.output.trans hrelay.output, hrelay.passed⟩

variable {bytes : List (BitVec 8)}

/-- A read that is passed on starts the loop around `write`. -/
theorem Relayed.begin {noted : JobMonitor} (hrelay : state.Relayed lossless)
    (hsome : 0 < state.monitor.accepted bytes.length)
    (hnoted : noted.output = state.monitor.output) :
    Writing lossless
      { monitor := noted, buffer := bytes
        received := state.received ++ bytes, forwarded := state.forwarded }
      bytes.length (state.monitor.accepted bytes.length) 0 state.received := by
  have hlimit : state.monitor.output < jobOutputBytes := by
    by_contra hfull
    rw [JobMonitor.accepted, if_neg hfull] at hsome
    exact absurd hsome (Nat.lt_irrefl 0)
  have haccepted : state.monitor.accepted bytes.length =
      min bytes.length (jobOutputBytes - state.received.length) := by
    rw [JobMonitor.accepted, if_pos hlimit, hrelay.output]
  have hpassed := hrelay.passed
  rw [hrelay.output] at hlimit
  rw [List.take_of_length_le hlimit.le] at hpassed
  refine ⟨rfl, rfl, hnoted.trans hrelay.output, hlimit, haccepted, hsome, ?_⟩
  rw [List.take_zero, List.append_nil]
  exact hpassed

/-- A read that is not passed on: the limit is reached, or the job is
quiet. -/
theorem Relayed.skip (hrelay : state.Relayed lossless)
    (hbytes : 0 < bytes.length)
    (hnone : lossless → ¬ 0 < state.monitor.accepted bytes.length) :
    Passed lossless ((state.received ++ bytes).take jobOutputBytes)
      state.forwarded := by
  by_cases hfull : jobOutputBytes ≤ state.received.length
  · rw [List.take_append_of_le_length hfull]
    exact hrelay.passed
  · refine hrelay.passed.longer ?_ ?_
    · rw [List.length_take, List.length_take, List.length_append]
      omega
    · intro hless
      apply hnone hless
      rw [JobMonitor.accepted, hrelay.output, if_pos (Nat.lt_of_not_le hfull)]
      omega

variable {input : OutputAnswer} {later : Bool} {stream : JobStream}

theorem relay_account {buffer received forwarded : List (BitVec 8)}
    {monitor : JobMonitor} (hreceived : received = prior ++ buffer)
    (houtput : monitor.output = prior.length)
    (hsmall : received.length < 2 ^ 64)
    (hpassed : Passed lossless (received.take jobOutputBytes) forwarded) :
    Relay lossless { monitor := monitor.account stream later buffer.length,
                     buffer, received, forwarded } := by
  have htotal : (monitor.output + buffer.length) % 2 ^ 64 =
      received.length := by
    rw [houtput, ← List.length_append, ← hreceived]
    exact Nat.mod_eq_of_lt hsmall
  exact ⟨htotal, hpassed⟩

/-- The buffer up to the accepted bytes ends at the limit. -/
theorem Writing.take_received {count accepted : Nat}
    (hwriting : state.Writing lossless count accepted offset prior) :
    state.received.take jobOutputBytes =
      prior ++ state.buffer.take accepted := by
  obtain ⟨hreceived, hcount, -, hbelow, haccepted, -, -⟩ := hwriting
  rw [hreceived, List.take_append, List.take_of_length_le (by omega)]
  congr 1
  rw [haccepted, ← hcount, Nat.min_comm, List.take_eq_take_iff]
  omega

/-- A read begins to be passed on. -/
theorem relay_receive (hphase : state.monitor.phase = .read stream later)
    (hrelay : state.Relayed lossless) (hquiet : lossless → quiet = false)
    (hsmall : (state.step quiet input).received.length < 2 ^ 64) :
    (state.step quiet input).Relay lossless := by
  have hmonitor : state.monitor.step quiet input.answer =
      state.monitor.readStep quiet stream later input.answer.now
        input.answer.read := by
    rw [JobMonitor.step, hphase]
  have hstep : state.step quiet input = { state.receive input with
      monitor := state.monitor.readStep quiet stream later input.answer.now
        input.answer.read } := by
    rw [step, hphase, hmonitor]
  rw [hstep] at hsmall ⊢
  unfold receive at hsmall ⊢
  cases hread : input.answer.read with
  | data index =>
    simp only [hread] at hsmall ⊢
    have hlength := length_chunk input (index.val + 1)
    generalize chunk input (index.val + 1) = bytes at hlength hsmall ⊢
    unfold JobMonitor.readStep
    dsimp only
    rw [← hlength]
    split
    · next hwrites =>
        rw [Bool.and_eq_true, decide_eq_true_eq] at hwrites
        exact ⟨state.received, hrelay.begin hwrites.2 rfl⟩
    · next hskips =>
        refine relay_account rfl hrelay.output hsmall
          (hrelay.skip (by omega) fun hless hsome => hskips ?_)
        rw [hquiet hless, Bool.not_false, Bool.true_and]
        exact decide_eq_true hsome
  | endOfFile =>
    exact hrelay.calm
      (JobMonitor.moved_closeLeave state.monitor stream later).calm
  | interrupted =>
    have hcalm : state.monitor.phase.writing = false := by rw [hphase]; rfl
    exact (relay_of_calm hcalm).mpr hrelay
  | wouldBlock =>
    exact hrelay.calm (JobMonitor.moved_leave state.monitor stream later).calm
  | failed =>
    exact hrelay.calm
      (JobMonitor.moved_closeLeave state.monitor stream later).calm

def Progresses : WriteAnswer → Prop
  | .wrote count => count ≠ 0
  | .interrupted => True
  | .failed => False

/-- A write moves on in the buffer, or ends the loop. -/
theorem relay_send {count accepted : Nat}
    (hphase : state.monitor.phase = .write stream later count accepted offset)
    (hwriting : state.Writing lossless count accepted offset prior)
    (hwrite : lossless → Progresses input.answer.write)
    (hsmall : (state.step quiet input).received.length < 2 ^ 64) :
    (state.step quiet input).Relay lossless := by
  have htake := hwriting.take_received
  obtain ⟨hreceived, hlength, houtput, hbelow, hlimit, hinside, hpassed⟩ :=
    hwriting
  have hmonitor : state.monitor.step quiet input.answer =
      state.monitor.writeStep stream later count accepted offset
        input.answer.write := by
    rw [JobMonitor.step, hphase]
  have hstep : state.step quiet input =
      { state.send accepted offset input.answer.write with
        monitor := state.monitor.writeStep stream later count accepted offset
          input.answer.write } := by
    rw [step, hphase, hmonitor]
  rw [hstep] at hsmall ⊢
  -- a write that is given up leaves the rest of the buffer
  have hgiven (hlossy : ¬ lossless) :
      Passed lossless (state.received.take jobOutputBytes) state.forwarded := by
    refine hpassed.longer ?_ hlossy
    rw [htake, List.length_append, List.length_append, List.length_take,
      List.length_take]
    omega
  unfold send at hsmall ⊢
  cases hanswer : input.answer.write with
  | wrote written =>
    rw [hanswer] at hwrite
    simp only [hanswer] at hsmall ⊢
    unfold JobMonitor.writeStep
    dsimp only
    split
    · next hzero =>
        subst hzero
        rw [← hlength]
        refine relay_account hreceived houtput hsmall ?_
        rw [Nat.zero_min, List.take_zero, List.append_nil]
        exact hgiven fun hless => hwrite hless rfl
    · split
      · next hshort =>
          have hmore : min written (accepted - offset) = written := by omega
          refine ⟨prior, hreceived, hlength, houtput, hbelow, hlimit, hshort,
            ?_⟩
          rw [hmore]
          exact hpassed.send
      · next hwhole =>
          obtain ⟨rest, rfl⟩ := Nat.exists_eq_add_of_le hinside.le
          have hmore : min written (offset + rest - offset) = rest := by omega
          rw [← hlength]
          refine relay_account hreceived houtput hsmall ?_
          rw [hmore, htake]
          exact hpassed.send
  | interrupted =>
    show Relay lossless state
    unfold Relay
    rw [hphase]
    exact ⟨prior, hreceived, hlength, houtput, hbelow, hlimit, hinside,
      hpassed⟩
  | failed =>
    rw [hanswer] at hwrite
    simp only [hanswer] at hsmall
    rw [← hlength]
    exact relay_account hreceived houtput hsmall
      (hgiven fun hless => hwrite hless)

/-- No call takes bytes back. -/
theorem received_step (state : OutputMonitor) (input : OutputAnswer) :
    state.received.length ≤ (state.step quiet input).received.length := by
  unfold step
  dsimp only
  split
  · unfold receive
    split
    · rw [List.length_append]
      exact Nat.le_add_right _ _
    · exact le_rfl
  · unfold send
    split
    · exact le_rfl
    · exact le_rfl
  · exact le_rfl

theorem intact_step (hintact : state.Intact lossless)
    (hquiet : lossless → quiet = false)
    (hwrite : lossless → Progresses input.answer.write) :
    (state.step quiet input).Intact lossless := by
  intro hsmall
  have hnow := hintact ((received_step state input).trans_lt hsmall)
  cases hphase : state.monitor.phase with
  | read stream later =>
    have hcalm : state.monitor.phase.writing = false := by rw [hphase]; rfl
    exact relay_receive hphase ((relay_of_calm hcalm).mp hnow) hquiet hsmall
  | write stream later count accepted offset =>
    rw [Relay, hphase] at hnow
    obtain ⟨prior, hwriting⟩ := hnow
    exact relay_send hphase hwriting hwrite hsmall
  | _ =>
    have hcalm : state.monitor.phase.writing = false := by rw [hphase]; rfl
    have hread : ∀ stream later, state.monitor.phase ≠ .read stream later := by
      intro stream later hsame
      rw [hphase] at hsame
      cases hsame
    have hrelay := (relay_of_calm hcalm).mp hnow
    have hnext : state.monitor.Calm
        (state.monitor.step quiet input.answer) :=
      JobMonitor.calm_step hcalm hread input.answer
    have hstep : state.step quiet input = { state with
        monitor := state.monitor.step quiet input.answer } := by
      rw [step, hphase]
    rw [hstep]
    exact hrelay.calm hnext

end OutputMonitor

section Totals

variable {quiet : Bool} {inputs : List OutputAnswer}

theorem monitorOutput_intact {lossless : Prop}
    (hquiet : lossless → quiet = false)
    (hwrites : lossless → ∀ input ∈ inputs,
      OutputMonitor.Progresses input.answer.write) :
    (monitorOutput quiet inputs).Intact lossless := by
  apply Machine.run_invariant
  · exact fun _ => ⟨rfl, Nat.zero_le _, fun _ => rfl⟩
  · intro state input hmem hintact
    exact OutputMonitor.intact_step hintact hquiet
      fun hless => hwrites hless input hmem

/-- While fewer than `2 ^ 64` bytes are read, at most the first 32768 of them
are passed on; exactly these are, if the job is not run quietly and no write
is given up. -/
theorem monitorOutput_forwards
    (hsmall : (monitorOutput quiet inputs).received.length < 2 ^ 64) :
    (monitorOutput quiet inputs).forwarded.length ≤ 32768 ∧
    (quiet = false →
      (∀ input ∈ inputs, OutputMonitor.Progresses input.answer.write) →
      (monitorOutput quiet inputs).monitor.phase.writing = false →
      (monitorOutput quiet inputs).forwarded =
        (monitorOutput quiet inputs).received.take 32768) := by
  constructor
  · have hrelay : (monitorOutput quiet inputs).Relay False :=
      monitorOutput_intact (fun hless => hless.elim) (fun hless => hless.elim)
        hsmall
    have hlimit : ((monitorOutput quiet inputs).received.take
        jobOutputBytes).length ≤ 32768 := List.length_take_le _ _
    unfold OutputMonitor.Relay at hrelay
    split at hrelay
    · obtain ⟨prior, hwriting⟩ := hrelay
      have hpassed := hwriting.passed.1
      have hinside := hwriting.inside
      rw [hwriting.take_received] at hlimit
      rw [List.length_append, List.length_take] at hpassed hlimit
      omega
    · exact hrelay.passed.1.trans hlimit
  · intro hquiet hwrites hcalm
    have hrelay : (monitorOutput quiet inputs).Relay True :=
      monitorOutput_intact (fun _ => hquiet) (fun _ => hwrites) hsmall
    exact ((OutputMonitor.relay_of_calm hcalm).mp hrelay).passed.2 trivial

end Totals

section Wrap

/-- An answer that is full of bytes, as a read, and takes all of them, as a
write. -/
def fullAnswer : OutputAnswer where
  answer :=
    { poll := .ready true false, read := .data fullBuffer
      write := .wrote 1024 }

theorem fullAnswer_monitorOutput_forwards :
    (monitorOutput false (List.replicate 5 fullAnswer)).forwarded =
      (monitorOutput false (List.replicate 5 fullAnswer)).received.take 32768 :=
  (monitorOutput_forwards (by decide +kernel)).2 rfl
    (fun input hinput => by
      rw [List.eq_of_mem_replicate hinput]
      exact Nat.succ_ne_zero 1023)
    (by decide +kernel)

/-- Full reads and writes lead to a state between two reads, with this counter
and this many bytes passed on. -/
def Floods (total sent : Nat) : Prop :=
  ∃ count, (monitorOutput false
      (List.replicate count fullAnswer)).monitor.phase = .read .stdout false ∧
    (monitorOutput false
      (List.replicate count fullAnswer)).monitor.output = total ∧
    (monitorOutput false
      (List.replicate count fullAnswer)).forwarded.length = sent

theorem monitorOutput_replicate_succ (count : Nat) :
    monitorOutput false (List.replicate (count + 1) fullAnswer) =
      (monitorOutput false (List.replicate count fullAnswer)).step false
        fullAnswer := by
  rw [List.replicate_succ']
  exact Machine.run_append _ [fullAnswer]

theorem floods_start : Floods 0 0 :=
  ⟨3, by decide, by decide, by decide⟩

/-- Below the limit a read is passed on. -/
theorem Floods.pass {total sent : Nat} (hfloods : Floods total sent)
    (hbelow : total + 1024 ≤ 32768) : Floods (total + 1024) (sent + 1024) := by
  obtain ⟨count, hphase, houtput, hsent⟩ := hfloods
  refine ⟨count + 2, ?_⟩
  rw [monitorOutput_replicate_succ, monitorOutput_replicate_succ]
  generalize monitorOutput false (List.replicate count fullAnswer) = state at *
  have haccepted : state.monitor.accepted 1024 = 1024 := by
    rw [JobMonitor.accepted, houtput, jobOutputBytes, if_pos (by omega)]
    omega
  have hread : state.step false fullAnswer =
      { monitor := { state.monitor.noteRead 1024 0 with
          phase := .write .stdout false 1024 1024 0 }
        buffer := OutputMonitor.chunk fullAnswer 1024
        received := state.received ++ OutputMonitor.chunk fullAnswer 1024
        forwarded := state.forwarded } := by
    simp only [OutputMonitor.step, JobMonitor.step, hphase,
      OutputMonitor.receive, fullAnswer, fullBuffer, JobMonitor.readStep,
      haccepted]
    rfl
  rw [hread]
  refine ⟨rfl, ?_, ?_⟩
  · show (state.monitor.output + 1024) % 2 ^ 64 = total + 1024
    omega
  · have hlength := OutputMonitor.length_chunk fullAnswer 1024
    generalize OutputMonitor.chunk fullAnswer 1024 = bytes at hlength ⊢
    show (state.forwarded ++
      (bytes.drop 0).take (min 1024 (1024 - 0))).length = sent + 1024
    rw [Nat.sub_zero, Nat.min_self, List.drop_zero, List.length_append,
      List.length_take, hlength, hsent, Nat.min_self]

/-- At the limit a read is dropped, and the counter goes on. -/
theorem Floods.drop {total sent : Nat} (hfloods : Floods total sent)
    (hfull : 32768 ≤ total) : Floods ((total + 1024) % 2 ^ 64) sent := by
  obtain ⟨count, hphase, houtput, hsent⟩ := hfloods
  refine ⟨count + 1, ?_⟩
  rw [monitorOutput_replicate_succ]
  generalize monitorOutput false (List.replicate count fullAnswer) = state at *
  have haccepted : state.monitor.accepted 1024 = 0 := by
    rw [JobMonitor.accepted, houtput, jobOutputBytes, if_neg (by omega)]
  have hread : state.step false fullAnswer =
      { monitor := (state.monitor.noteRead 1024 0).account .stdout false 1024
        buffer := OutputMonitor.chunk fullAnswer 1024
        received := state.received ++ OutputMonitor.chunk fullAnswer 1024
        forwarded := state.forwarded } := by
    simp only [OutputMonitor.step, JobMonitor.step, hphase,
      OutputMonitor.receive, fullAnswer, fullBuffer, JobMonitor.readStep,
      haccepted]
    rfl
  rw [hread]
  refine ⟨rfl, ?_, hsent⟩
  show (state.monitor.output + 1024) % 2 ^ 64 = (total + 1024) % 2 ^ 64
  rw [houtput]

theorem floods_limit {rounds : Nat} (hrounds : rounds ≤ 32) :
    Floods (1024 * rounds) (1024 * rounds) := by
  induction rounds with
  | zero => exact floods_start
  | succ rounds ih => exact (ih (by omega)).pass (by omega)

theorem floods_beyond {rounds : Nat} (hrounds : 32 + rounds < 2 ^ 54) :
    Floods (1024 * (32 + rounds)) 32768 := by
  induction rounds with
  | zero => exact floods_limit le_rfl
  | succ rounds ih =>
    have hnext := (ih (by omega)).drop (by omega)
    have htotal : (1024 * (32 + rounds) + 1024) % 2 ^ 64 =
        1024 * (32 + (rounds + 1)) := by omega
    rwa [htotal] at hnext

/-- After `2 ^ 64` bytes the counter is at zero and bytes are passed on
again. -/
theorem floods_wrapped : Floods 1024 33792 := by
  have hlast : Floods (1024 * (32 + (2 ^ 54 - 33))) 32768 :=
    floods_beyond (by decide)
  have hwrapped := hlast.drop (by decide)
  have htotal : (1024 * (32 + (2 ^ 54 - 33)) + 1024) % 2 ^ 64 = 0 := by decide
  rw [htotal] at hwrapped
  exact hwrapped.pass (by decide)

theorem monitorOutput_exceeds_limit :
    ∃ inputs : List OutputAnswer,
      (∀ input ∈ inputs, OutputMonitor.Progresses input.answer.write) ∧
      (monitorOutput false inputs).monitor.phase.writing = false ∧
      32768 < (monitorOutput false inputs).forwarded.length := by
  obtain ⟨count, hphase, -, hsent⟩ := floods_wrapped
  refine ⟨List.replicate count fullAnswer, fun input hinput => ?_, ?_, ?_⟩
  · rw [List.eq_of_mem_replicate hinput]
    exact Nat.succ_ne_zero 1023
  · rw [hphase]
    rfl
  · rw [hsent]
    decide

end Wrap

end Micronux
