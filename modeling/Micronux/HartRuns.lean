/-
The hart between its two modes: the calls of the kernel run action by action,
each return to user mode installs the overlay of an mm, and user mode runs
under it until the next trap.
-/
import Micronux.ReturnPath

namespace Micronux

open Concurrent Protocol Pmp

/-- `user` is the mm that runs in user mode. -/
structure Hart where
  kernel : PoolConfig
  regs : Registers
  user : Option Mm

inductive HartLabel where
  | kernel (label : PoolLabel)
  | enter (mm : Mm)
  | store (address : Word)
  | trap

def HartLabel.Permitted : HartLabel → Prop
  | .kernel label => Allowed PoolPermitted label
  | _ => True

/-- A byte that user mode stores, wherever the address is. -/
def PoolConfig.stored (config : PoolConfig) (mm : Mm) (address : Word) :
    PoolConfig where
  shared := { config.shared with
    writer := Function.update config.shared.writer address.toNat (some mm) }
  thread := Function.update config.thread mm (.ret .done)

/-- A thread whose call has returned enters user mode through
`ret_from_exception`, and a store there is checked by the PMP alone. -/
def Hart.next (warl : Warl) (hart : Hart) (label : HartLabel) : Option Hart :=
  match hart.user, label with
  | none, .kernel label =>
    (hart.kernel.next poolCode label).map fun after =>
      { hart with kernel := after }
  | none, .enter mm =>
    match (hart.kernel.thread mm).reply, userPmpPrepareReturn warl
      hart.kernel.shared.ready (some (hart.kernel.shared.context mm))
      hart.regs with
    | some _, (regs, .ok ()) => some ⟨hart.kernel, regs, some mm⟩
    | _, _ => none
  | some mm, .store address =>
    if hart.regs.permits pmpGrain .write address.toNat then
      some { hart with kernel := hart.kernel.stored mm address }
    else none
  | some _, .trap => some { hart with user := none }
  | _, _ => none

/-- The thread in user mode is idle, and the overlay is that of its mm. -/
structure InUser (hart : Hart) (mm : Mm) : Prop where
  idle : ∃ value, hart.kernel.thread mm = .ret value
  returnable : Returnable (hart.kernel.shared.context mm)
  map : UserMap hart.regs (hart.kernel.shared.context mm).userLo
    (hart.kernel.shared.context mm).userExecHi
    (hart.kernel.shared.context mm).userHi true

structure HartInv (hart : Hart) : Prop where
  audited : KeptAudited hart.regs
  good : Good poolProtocol PoolPost hart.kernel
  user : ∀ mm, hart.user = some mm → InUser hart mm

variable {warl : Warl} {hart after : Hart} {mm : Mm} {labels : List HartLabel}

theorem InUser.bounds (huser : InUser hart mm) {access : Access}
    {address : Nat} (hpermits : hart.regs.permits pmpGrain access address) :
    (hart.kernel.shared.context mm).userLo.toNat ≤ address ∧
      address < (hart.kernel.shared.context mm).userHi.toNat := by
  have hbounds := huser.returnable.bounds
  have hlo := BitVec.lt_def.mp hbounds.lo_lt
  have hhi := BitVec.lt_def.mp hbounds.lt_hi
  have hiff := (huser.map.permits_iff hbounds).mp hpermits
  omega

/-- A store that the PMP lets through is one through the published bounds. -/
theorem InUser.exec_store (huser : InUser hart mm) {address : Word}
    (hpermits : hart.regs.permits pmpGrain .write address.toNat) :
    hart.kernel.exec poolCode [.call mm (.store mm address), .step mm none] =
      some (hart.kernel.stored mm address) := by
  obtain ⟨value, hidle⟩ := huser.idle
  obtain ⟨hlo, hhi⟩ := huser.bounds hpermits
  simp [Config.exec, Config.next, hidle, poolCode, userStore, Prog.store,
    Prog.atomic, Prog.bind, PoolConfig.stored, huser.returnable.split.1,
    BitVec.le_def, BitVec.lt_def, hlo, hhi]

theorem HartInv.next (hinv : HartInv hart) {label : HartLabel}
    (hpermitted : label.Permitted)
    (hnext : hart.next warl label = some after) : HartInv after := by
  unfold Hart.next at hnext
  split at hnext
  · next label hmode =>
      obtain ⟨kernel, hkernel, rfl⟩ := Option.map_eq_some_iff.mp hnext
      refine ⟨hinv.audited, ?_, by simp [hmode]⟩
      exact (hinv.good.next poolCode_correct hpermitted hkernel).1
  · next mm hmode =>
      split at hnext
      · next value regs hreply hreturn =>
          cases hnext
          obtain ⟨hreturnable, hmap⟩ :=
            userPmpPrepareReturn_ok hinv.audited hreturn
          refine ⟨hmap.kept, hinv.good, ?_⟩
          rintro _ ⟨⟩
          exact ⟨⟨value, Prog.eq_ret_of_reply hreply⟩, hreturnable, hmap⟩
      · cases hnext
  · next mm address hmode =>
      have huser := hinv.user mm hmode
      split at hnext
      · next hpermits =>
          cases hnext
          have hgood := hinv.good.exec poolCode_correct
            (by simp [Allowed, PoolPermitted]) (huser.exec_store hpermits)
          refine ⟨hinv.audited, hgood.1, fun other hother => ?_⟩
          obtain rfl := Option.some.inj (hmode.symm.trans hother)
          exact ⟨⟨.done, Function.update_self ..⟩, huser.returnable, huser.map⟩
      · cases hnext
  · cases hnext
    exact ⟨hinv.audited, hinv.good, by simp⟩
  · cases hnext

theorem HartInv.run (hinv : HartInv hart)
    (hpermitted : ∀ label ∈ labels, label.Permitted)
    (hrun : labels.foldlM (Hart.next warl) hart = some after) :
    HartInv after := by
  induction labels generalizing hart with
  | nil => exact Option.some.inj hrun ▸ hinv
  | cons label rest ih =>
    obtain ⟨mid, hnext, hrest⟩ := Option.bind_eq_some_iff.mp hrun
    exact ih (hinv.next (hpermitted label List.mem_cons_self) hnext)
      (fun entry hentry => hpermitted entry (.tail _ hentry)) hrest

def hartAfter (warl : Warl) (base size : Word) (regs : Registers)
    (labels : List HartLabel) : Option Hart :=
  (userPoolInit base size).toOption.bind fun pool =>
    labels.foldlM (Hart.next warl) ⟨poolStart pool, regs, none⟩

theorem hartAfter_inv {base size : Word} {regs : Registers}
    (haudited : KeptAudited regs)
    (hpermitted : ∀ label ∈ labels, label.Permitted)
    (hafter : hartAfter warl base size regs labels = some hart) :
    HartInv hart := by
  unfold hartAfter at hafter
  cases hinit : userPoolInit base size with
  | error errno => simp [hinit, Except.toOption] at hafter
  | ok pool =>
    rw [hinit] at hafter
    have hpool : PoolRun [] (poolStart pool) :=
      ⟨⟨base, size, pool, hinit, rfl⟩, by simp⟩
    have hstart : HartInv ⟨poolStart pool, regs, none⟩ :=
      ⟨haudited, hpool.good, by simp⟩
    exact hstart.run hpermitted hafter

/-- The byte is on a page of the arena of the mm, which has zeroed it. -/
def Pool.Private (pool : Pool) (mm : Mm) (address : Nat) : Prop :=
  ∃ id page, (pool.context mm).userArena = some id ∧
    pool.owner page = some id ∧ pool.zeroedBy page = some mm ∧
    pageBase page ≤ address ∧ address < pageBase (page + 1)

theorem PoolInv.private_clean {pool : Pool} (hinv : PoolInv pool)
    {address : Nat} (hprivate : pool.Private mm address) :
    (∀ other, pool.Private other address → other = mm) ∧
      (pool.writer address = none ∨ pool.writer address = some mm) := by
  obtain ⟨id, page, -, howner, hzeroed, hpage, hnext⟩ := hprivate
  constructor
  · rintro other ⟨_, _, -, -, hzeroed', hpage', hnext'⟩
    obtain rfl := page_unique hpage hnext hpage' hnext'
    exact Option.some.inj (hzeroed'.symm.trans hzeroed)
  · have hholds := hinv.holds_of_owner howner
    have hfits := (hinv.arena id hholds.1).fits
    exact hinv.clean page mm (lt_of_lt_of_le hholds.2.2 hfits) hzeroed
      address hpage hnext

/-- In every run of the hart, whatever byte user mode can access belongs to
the running mm alone and holds nothing that another mm stored, and user mode
can execute no byte that it can store. -/
theorem hartRun_isolated {base size : Word} {regs : Registers}
    (haudited : KeptAudited regs)
    (hpermitted : ∀ label ∈ labels, label.Permitted)
    (hafter : hartAfter warl base size regs labels = some hart)
    (huser : hart.user = some mm) {access : Access} {address : Nat}
    (hpermits : hart.regs.permits pmpGrain access address = true) :
    hart.kernel.shared.Private mm address ∧
    (∀ other, hart.kernel.shared.Private other address → other = mm) ∧
    (hart.kernel.shared.writer address = none ∨
      hart.kernel.shared.writer address = some mm) ∧
    ¬ (hart.regs.permits pmpGrain .write address = true ∧
      hart.regs.permits pmpGrain .exec address = true) := by
  have hinv := hartAfter_inv haudited hpermitted hafter
  have hin := hinv.user mm huser
  have hbounds := hin.returnable.bounds
  obtain ⟨hlo, hhi⟩ := hin.bounds hpermits
  obtain ⟨id, page, harena, -, hpage, hnext, howner, hzeroed⟩ :=
    PoolInv.published_page hinv.good.inv hin.returnable.split.1 hlo hhi
  have hprivate : hart.kernel.shared.Private mm address :=
    ⟨id, page, harena, howner, hzeroed, hpage, hnext⟩
  obtain ⟨hothers, hwriter⟩ := PoolInv.private_clean hinv.good.inv hprivate
  refine ⟨hprivate, hothers, hwriter, ?_⟩
  rintro ⟨hwrite, hexec⟩
  have hbelow := ((hin.map.permits_exec hbounds).mp hexec).2
  have habove := ((hin.map.permits_write hbounds).mp hwrite).1
  omega

/-- Thread 0 loads a program, enters it and stores its last byte. -/
def enterSchedule : List HartLabel :=
  loadSchedule.map .kernel ++ [.enter 0, .store 0x49701fff#32]

theorem enterSchedule_isolated :
    ∃ hart, hartAfter writeThrough userPoolStart userPoolSize handoffRegisters
        enterSchedule = some hart ∧ hart.user = some 0 ∧
      hart.kernel.shared.writer 0x49701fff = some 0 ∧
      hart.kernel.shared.Private 0 0x49701fff := by
  have hcheck : (hartAfter writeThrough userPoolStart userPoolSize
      handoffRegisters enterSchedule).any (fun hart => decide
      (hart.user = some 0 ∧ hart.kernel.shared.writer 0x49701fff = some 0 ∧
        hart.regs.permits pmpGrain .write 0x49701fff = true)) = true := by
    decide +kernel
  have hpermitted : ∀ label ∈ enterSchedule, label.Permitted := by
    simp [enterSchedule, loadSchedule, HartLabel.Permitted, Allowed,
      PoolPermitted]
  obtain ⟨hart, hafter, hholds⟩ := (Option.any_eq_true _ _).mp hcheck
  obtain ⟨huser, hwriter, hpermits⟩ := of_decide_eq_true hholds
  exact ⟨hart, hafter, huser, hwriter, (hartRun_isolated (by decide)
    hpermitted hafter huser hpermits).1⟩

end Micronux
