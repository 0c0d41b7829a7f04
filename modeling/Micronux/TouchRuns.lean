/-
Runs of the touch poll against its controller.  A record that the controller
got rid of was reported as it was posted or counted as an error; the records
come in order, and one comes again only after its acknowledgement failed.
-/
import Micronux.Touch

namespace Micronux.Touch

open Concurrent Protocol

/-- The thread of the input core's poller, which runs one poll at a time. -/
def poller : ThreadId := 0

/-- The events of a record with its `input_sync`. -/
def Record.packet (geometry : Geometry) (record : Record) : List InputEvent :=
  (if contacts record.status = 0 then releaseEvents
    else contactEvents geometry record.point) ++ [.sync]

def Record.touched (record : Record) : Bool :=
  contacts record.status != 0

def TouchState.taken (touch : TouchState) : Nat :=
  touch.posted.length - if touch.mailbox.isSome then 1 else 0

/-- How often a record was reported or given up. -/
def TouchState.attempts (touch : TouchState) (index : Nat) : Nat :=
  touch.reported.count index + touch.failures.count (.contacts index) +
    touch.failures.count (.point index)

def TouchState.packets (geometry : Geometry) (touch : TouchState) :
    List InputEvent :=
  (touch.reported.map fun index =>
    ((touch.posted[index]?).map (Record.packet geometry)).getD []).flatten

def TouchState.shown (touch : TouchState) : Bool :=
  ((touch.reported.getLast?.bind (touch.posted[·]?)).map
    Record.touched).getD false

/-- What the driver has done with the records.  `begun` is a packet under way
and `tried` the record that was just reported or given up. -/
structure Delivered (geometry : Geometry) (begun : List InputEvent)
    (tried : Option Nat) (touch : TouchState) : Prop where
  settled : ∀ index < touch.taken, 1 ≤ touch.attempts index
  repeated : ∀ index, touch.attempts index ≤
    touch.failures.count (.clear index) +
      if index < touch.taken ∨ tried = some index then 1 else 0
  reported_lt : ∀ index ∈ touch.reported, index < touch.posted.length
  ordered : touch.reported.Pairwise (· ≤ ·)
  events_eq : touch.events = touch.packets geometry ++ begun
  down_eq : begun = [] → touch.down = touch.shown
  errors_eq : touch.errors = BitVec.ofNat 32 touch.failures.length

/-- What holds at every moment: a full register shows the last record. -/
def TouchInv (touch : TouchState) : Prop :=
  ∀ record, touch.mailbox = some record → touch.posted.getLast? = some record

def Posts (before after : TouchState) : Prop :=
  before.mailbox = none ∧ ∃ record, after = { before with
    mailbox := some record, posted := before.posted ++ [record] }

/-- What an action of thread `t` may change. -/
structure TouchGuar (t : ThreadId) (before after : TouchState) : Prop where
  foreign : t ≠ poller → after = before ∨ Posts before after

def touchProtocol : Protocol ThreadId TouchState where
  inv := TouchInv
  guar := TouchGuar

variable {geometry : Geometry} {begun : List InputEvent} {tried : Option Nat}
  {touch before after : TouchState} {record : Record} {index : Nat}
  {t : ThreadId}

section Posting

theorem Posts.taken (hposts : Posts before after) :
    after.taken = before.taken := by
  obtain ⟨hnone, record, rfl⟩ := hposts
  simp [TouchState.taken, hnone]

theorem Posts.packets (hposts : Posts before after)
    (hreported : ∀ index ∈ before.reported, index < before.posted.length) :
    after.packets geometry = before.packets geometry := by
  obtain ⟨-, record, rfl⟩ := hposts
  unfold TouchState.packets
  congr 1
  apply List.map_congr_left
  intro index hindex
  rw [List.getElem?_append_left (hreported index hindex)]

theorem Posts.shown (hposts : Posts before after)
    (hreported : ∀ index ∈ before.reported, index < before.posted.length) :
    after.shown = before.shown := by
  obtain ⟨-, record, rfl⟩ := hposts
  unfold TouchState.shown
  cases hlast : before.reported.getLast? with
  | none => rfl
  | some index =>
    simp only [Option.bind_some]
    rw [List.getElem?_append_left
      (hreported index (List.mem_of_getLast? hlast))]

/-- A new record changes nothing about the earlier ones. -/
theorem Delivered.posts (hdelivered : Delivered geometry begun tried before)
    (hposts : Posts before after) : Delivered geometry begun tried after := by
  have htaken := hposts.taken
  have hpackets : after.packets geometry = before.packets geometry :=
    hposts.packets hdelivered.reported_lt
  have hshown := hposts.shown hdelivered.reported_lt
  obtain ⟨hnone, record, rfl⟩ := hposts
  constructor
  · rw [htaken]
    exact hdelivered.settled
  · rw [htaken]
    exact hdelivered.repeated
  · intro index hindex
    exact (hdelivered.reported_lt index hindex).trans_le (by simp)
  · exact hdelivered.ordered
  · rw [hpackets]
    exact hdelivered.events_eq
  · rw [hshown]
    exact hdelivered.down_eq
  · exact hdelivered.errors_eq

end Posting

/-- Between two actions of the poller the controller may only post. -/
theorem behind_poller (hrely : touchProtocol.Rely poller before after) :
    after = before ∨ Posts before after := by
  obtain ⟨-, -, other, hother, hguar⟩ := hrely
  exact hguar.foreign hother

theorem stable_delivered :
    touchProtocol.Stable poller (Delivered geometry begun tried) := by
  intro before after hrely hdelivered
  rcases behind_poller hrely with rfl | hposts
  · exact hdelivered
  · exact hdelivered.posts hposts

/-- The poller has seen a record, which stays in the register. -/
structure Seen (geometry : Geometry) (begun : List InputEvent)
    (tried : Option Nat) (record : Record) (index : Nat) (touch : TouchState) :
    Prop extends Delivered geometry begun tried touch where
  full : touch.mailbox = some record
  last : touch.posted.length = index + 1

/-- Nothing changes behind a full register. -/
theorem stable_of_full {fact : TouchState → Prop}
    (hfull : ∀ touch, fact touch → touch.mailbox = some record) :
    touchProtocol.Stable poller fact := by
  intro before after hrely hfact
  rcases behind_poller hrely with rfl | ⟨hnone, -⟩
  · exact hfact
  · exact absurd ((hfull before hfact).symm.trans hnone)
      (Option.some_ne_none record)

theorem stable_seen :
    touchProtocol.Stable poller (Seen geometry begun tried record index) :=
  stable_of_full fun _ => Seen.full

theorem TouchGuar.own : TouchGuar poller before after :=
  ⟨fun hforeign => absurd rfl hforeign⟩

section Poll

theorem Seen.taken (hseen : Seen geometry begun tried record index touch) :
    touch.taken = index := by
  simp [TouchState.taken, hseen.full, hseen.last]

theorem Seen.posted (hseen : Seen geometry begun tried record index touch)
    (hinv : TouchInv touch) : touch.posted[index]? = some record := by
  have hlast := hinv record hseen.full
  rw [List.getLast?_eq_getElem?, hseen.last, Nat.add_sub_cancel] at hlast
  exact hlast

/-- A record that was just seen has been tried no more often than its
acknowledgement failed. -/
theorem Seen.attempts_le (hseen : Seen geometry begun none record index touch) :
    touch.attempts index ≤ touch.failures.count (.clear index) := by
  have hrepeated := hseen.repeated index
  rwa [hseen.taken, if_neg (by simp), Nat.add_zero] at hrepeated

/-- The record in the register was reported or given up in this poll. -/
structure Tried (geometry : Geometry) (record : Record) (index : Nat)
    (touch : TouchState) : Prop
    extends Seen geometry [] (some index) record index touch where
  once : 1 ≤ touch.attempts index

theorem stable_tried :
    touchProtocol.Stable poller (Tried geometry record index) :=
  stable_of_full fun _ htried => htried.full

/-- One more try of the record in the register. -/
theorem Seen.retried (hseen : Seen geometry begun none record index before)
    (after : TouchState) (hmailbox : after.mailbox = before.mailbox)
    (hposted : after.posted = before.posted)
    (hattempts : ∀ other, after.attempts other =
      before.attempts other + if index = other then 1 else 0)
    (hclears : ∀ other, after.failures.count (.clear other) =
      before.failures.count (.clear other)) :
    (∀ other < after.taken, 1 ≤ after.attempts other) ∧
      ∀ other, after.attempts other ≤ after.failures.count (.clear other) +
        if other < after.taken ∨ some index = some other then 1 else 0 := by
  have htaken : after.taken = index := by
    rw [TouchState.taken, hmailbox, hposted]
    exact hseen.taken
  have hbefore := hseen.taken
  constructor
  · intro other hother
    rw [hattempts]
    exact (hseen.settled other (hbefore ▸ htaken ▸ hother)).trans
      (Nat.le_add_right ..)
  · intro other
    rw [htaken, hclears, hattempts]
    by_cases hsame : index = other
    · subst hsame
      rw [if_pos rfl, if_pos (.inr rfl)]
      exact Nat.add_le_add_right hseen.attempts_le 1
    · have hrepeated := hseen.repeated other
      rw [hbefore] at hrepeated
      simpa [hsame] using hrepeated

theorem TouchState.failed_errors (failure : Failure)
    (herrors : touch.errors = BitVec.ofNat 32 touch.failures.length) :
    (touch.failed failure).errors =
      BitVec.ofNat 32 (touch.failed failure).failures.length := by
  simp [TouchState.failed, herrors, BitVec.ofNat_add]

variable {failure : Failure}

theorem countError_triple
    (hfailure : failure = .contacts index ∨ failure = .point index) :
    touchProtocol.Triple poller (Seen geometry [] none record index)
      (countError failure) fun _ => Tried geometry record index := by
  apply Triple.store stable_seen stable_tried
  intro touch hinv hseen
  have hattempts : ∀ other, (touch.failed failure).attempts other =
      touch.attempts other + if index = other then 1 else 0 := by
    intro other
    rcases hfailure with rfl | rfl <;>
      simp [TouchState.attempts, TouchState.failed, List.count_append,
        List.count_singleton] <;> omega
  have hclears : ∀ other, (touch.failed failure).failures.count
      (.clear other) = touch.failures.count (.clear other) := by
    intro other
    rcases hfailure with rfl | rfl <;>
      simp [TouchState.failed, List.count_append]
  obtain ⟨hsettled, hrepeated⟩ :=
    hseen.retried (touch.failed failure) rfl rfl hattempts hclears
  refine ⟨hinv, .own, { hseen with
    settled := hsettled
    repeated := hrepeated
    errors_eq := TouchState.failed_errors failure hseen.errors_eq
    once := ?_ }⟩
  rw [hattempts, if_pos rfl]
  exact Nat.le_add_left 1 _

theorem report_triple (event : InputEvent) :
    touchProtocol.Triple poller (Seen geometry begun none record index)
      (report event)
      fun _ => Seen geometry (begun ++ [event]) none record index := by
  apply Triple.store stable_seen stable_seen
  intro touch hinv hseen
  refine ⟨hinv, .own, { hseen with events_eq := ?_, down_eq := ?_ }⟩
  · change touch.events ++ [event] = touch.packets geometry ++ (begun ++ [event])
    rw [hseen.events_eq, List.append_assoc]
  · exact fun hnil => absurd hnil (by simp)

theorem stable_seenDown {down : Bool} : touchProtocol.Stable poller fun touch =>
      Seen geometry begun none record index touch ∧ touch.down = down :=
  stable_of_full fun _ hboth => hboth.1.full

theorem setDown_triple (down : Bool) (hbegun : begun ≠ []) :
    touchProtocol.Triple poller (Seen geometry begun none record index)
      (setTouch fun touch => { touch with down := down })
      fun _ touch => Seen geometry begun none record index touch ∧
        touch.down = down := by
  apply Triple.store stable_seen stable_seenDown
  intro touch hinv hseen
  exact ⟨hinv, .own,
    { hseen with down_eq := fun hnil => absurd hnil hbegun }, rfl⟩

theorem synced_triple (hpacket : begun ++ [.sync] = record.packet geometry) :
    touchProtocol.Triple poller
      (fun touch => Seen geometry begun none record index touch ∧
        touch.down = record.touched)
      (setTouch fun touch => touch.synced index)
      fun _ => Tried geometry record index := by
  apply Triple.store stable_seenDown stable_tried
  rintro touch hinv ⟨hseen, hdown⟩
  have hposted := hseen.posted hinv
  have hattempts : ∀ other, (touch.synced index).attempts other =
      touch.attempts other + if index = other then 1 else 0 := by
    intro other
    simp [TouchState.attempts, TouchState.synced, List.count_append,
      List.count_singleton]
    omega
  obtain ⟨hsettled, hrepeated⟩ := hseen.retried (touch.synced index) rfl rfl
    hattempts fun _ => rfl
  refine ⟨hinv, .own, ⟨⟨⟨hsettled, hrepeated, ?_, ?_, ?_, ?_,
    hseen.errors_eq⟩, hseen.full, hseen.last⟩, ?_⟩⟩
  · simp only [TouchState.synced, List.mem_append, List.mem_singleton]
    rintro other (hother | rfl)
    · exact hseen.reported_lt other hother
    · rw [hseen.last]
      exact Nat.lt_succ_self other
  · refine List.pairwise_append.mpr ⟨hseen.ordered, List.pairwise_singleton ..,
      ?_⟩
    intro other hother last hlast
    rw [List.mem_singleton.mp hlast]
    have hlt := hseen.reported_lt other hother
    rw [hseen.last] at hlt
    exact Nat.lt_succ_iff.mp hlt
  · have hpackets : (touch.synced index).packets geometry =
        touch.packets geometry ++ record.packet geometry := by
      simp [TouchState.packets, TouchState.synced, hposted]
    rw [hpackets, List.append_nil, ← hpacket]
    change touch.events ++ [.sync] = _
    rw [hseen.events_eq, List.append_assoc]
  · intro _
    simp [TouchState.shown, TouchState.synced, hposted, hdown]
  · rw [hattempts, if_pos rfl]
    exact Nat.le_add_left 1 _

theorem reportRecord_triple {events : List InputEvent} {down : Bool}
    (hevents : events ≠ []) (hpacket : events ++ [.sync] = record.packet geometry)
    (hdown : down = record.touched) :
    touchProtocol.Triple poller (Seen geometry [] none record index)
      (reportRecord index events down) fun _ => Tried geometry record index := by
  subst hdown
  have hreport : touchProtocol.Triple poller
      (Seen geometry [] none record index) (Prog.forEach report events)
      fun _ => Seen geometry events none record index := by
    apply Triple.forEach
      (fun told => Seen geometry told none record index) stable_seen
    intro told event rest _
    exact report_triple event
  apply hreport.bind
  intro _
  apply (setDown_triple record.touched hevents).bind
  intro _
  exact synced_triple hpacket

theorem readPoint_triple :
    touchProtocol.Triple poller (Seen geometry [] none record index) readPoint
      fun point touch => Seen geometry [] none record index touch ∧
        ∀ bytes, point = some bytes → bytes = record.point := by
  apply Triple.atomic stable_seen fun _ => stable_seen.and (.const _)
  intro input before after point hinv hseen hrun
  cases hrun
  refine ⟨hinv, .own, hseen, ?_⟩
  intro bytes hbytes
  rw [hseen.full] at hbytes
  split at hbytes
  · exact (Option.some.inj hbytes).symm
  · cases hbytes

theorem takeRecord_triple :
    touchProtocol.Triple poller (Seen geometry [] none record index)
      (takeRecord geometry record.status index)
      fun _ => Tried geometry record index := by
  unfold takeRecord
  split
  · exact countError_triple (.inl rfl)
  · split
    · rename_i hnone
      apply reportRecord_triple (by simp [releaseEvents])
      · simp [Record.packet, hnone]
      · simp [Record.touched, hnone]
    · rename_i hsome
      apply readPoint_triple.bind
      intro point
      apply Triple.assume
      intro hpoint
      cases point with
      | none => exact countError_triple (.inr rfl)
      | some bytes =>
        obtain rfl := hpoint bytes rfl
        apply reportRecord_triple (by simp [contactEvents])
        · simp [Record.packet, hsome]
        · simp [Record.touched, hsome]

/-- What the poller knows about the register it has read. -/
def StatusRead (geometry : Geometry) : Option (Byte × Nat) → TouchState → Prop
  | none, touch => Delivered geometry [] none touch
  | some (status, index), touch =>
    Delivered geometry [] none touch ∧ (status &&& statusReady ≠ 0 →
      ∃ record, Seen geometry [] none record index touch ∧
        record.status = status)

theorem stable_statusRead (result : Option (Byte × Nat)) :
    touchProtocol.Stable poller (StatusRead geometry result) := by
  rcases result with _ | ⟨status, index⟩
  · exact stable_delivered
  · apply stable_delivered.and
    apply Stable.imp
    exact .exists fun record => stable_seen.and (.const _)

/-- A register without a record is not ready. -/
theorem idle_not_ready (idle : Byte) :
    idle &&& ~~~statusReady &&& statusReady = 0 := by
  rw [BitVec.and_assoc, BitVec.and_comm (~~~statusReady)]
  exact BitVec.and_zero

theorem readStatus_triple :
    touchProtocol.Triple poller (Delivered geometry [] none) readStatus
      (StatusRead geometry) := by
  apply Triple.atomic stable_delivered stable_statusRead
  intro input before after result hinv hdelivered hrun
  cases hrun
  refine ⟨hinv, .own, ?_⟩
  cases input.ok with
  | false => exact hdelivered
  | true =>
    refine ⟨hdelivered, ?_⟩
    cases hfull : before.mailbox with
    | none => exact fun hready => absurd (idle_not_ready input.idle) hready
    | some record =>
      intro _
      have hpositive : 0 < before.posted.length :=
        List.length_pos_of_mem (List.mem_of_getLast? (hinv record hfull))
      exact ⟨record, ⟨hdelivered, hfull,
        (Nat.sub_add_cancel hpositive).symm⟩, rfl⟩

theorem countRead_triple {result : Option (Byte × Nat)} :
    touchProtocol.Triple poller (StatusRead geometry result) countRead
      fun _ => StatusRead geometry result := by
  have hkept : ∀ {tried : Option Nat} {touch : TouchState} {reads : Word},
      Delivered geometry [] tried touch →
        Delivered geometry [] tried { touch with reads := reads } :=
    fun hdelivered => { hdelivered with }
  apply Triple.store (stable_statusRead _) (stable_statusRead _)
  intro touch hinv hread
  refine ⟨hinv, .own, ?_⟩
  rcases result with _ | ⟨status, index⟩
  · exact hkept hread
  · refine ⟨hkept hread.1, ?_⟩
    intro hready
    obtain ⟨record, hseen, hstatus⟩ := hread.2 hready
    exact ⟨record, ⟨hkept hseen.toDelivered, hseen.full, hseen.last⟩, hstatus⟩

/-- Behind the write to the register: the record is gone, or its number is
kept for the failure. -/
theorem writeStatus_triple :
    touchProtocol.Triple poller (Tried geometry record index) writeStatus
      fun ok => Delivered geometry [] (if ok then none else some index) := by
  apply Triple.atomic stable_tried fun _ => stable_delivered
  intro input before after ok hinv htried hrun
  cases hrun
  have htaken := htried.taken
  cases hgone : input.ok || input.reached with
  | false =>
    obtain ⟨hok, -⟩ := Bool.or_eq_false_iff.mp hgone
    rw [hok]
    exact ⟨hinv, .own, htried.toDelivered⟩
  | true =>
    have hafter : ({ before with mailbox := none } : TouchState).taken =
        index + 1 := htried.last
    refine ⟨fun record hnone => absurd hnone.symm (Option.some_ne_none record),
      .own, { htried.toDelivered with settled := ?_, repeated := ?_ }⟩
    · intro other hother
      rcases Nat.lt_succ_iff_lt_or_eq.mp (hafter ▸ hother) with hless | rfl
      · exact htried.settled other (htaken ▸ hless)
      · exact htried.once
    · intro other
      apply (htried.repeated other).trans
      apply Nat.add_le_add_left
      have hmore : other < before.taken ∨ some index = some other →
          other < index + 1 := by
        rintro (hless | hsame)
        · exact (htaken ▸ hless).trans (Nat.lt_succ_self index)
        · exact Option.some.inj hsame ▸ Nat.lt_succ_self index
      split
      · rename_i htook
        have hless : other <
            ({ before with mailbox := none } : TouchState).taken :=
          hafter ▸ hmore htook
        exact (if_pos (.inl hless)).ge
      · exact Nat.zero_le _

/-- A failure that is not about a try. -/
theorem Delivered.failed (hdelivered : Delivered geometry [] tried touch)
    (hfailure : failure = .status ∧ tried = none ∨
      ∃ index, failure = .clear index ∧ tried = some index) :
    Delivered geometry [] none (touch.failed failure) := by
  have hattempts : (touch.failed failure).attempts = touch.attempts := by
    funext other
    rcases hfailure with ⟨rfl, -⟩ | ⟨index, rfl, -⟩ <;>
      simp [TouchState.attempts, TouchState.failed, List.count_append]
  refine { hdelivered with
    settled := ?_
    repeated := ?_
    errors_eq := TouchState.failed_errors failure hdelivered.errors_eq }
  · rw [hattempts]
    exact hdelivered.settled
  · intro other
    have hrepeated := hdelivered.repeated other
    rw [hattempts]
    change _ ≤ (touch.failures ++ [failure]).count (.clear other) +
      if other < touch.taken ∨ _ then 1 else 0
    rw [List.count_append]
    rcases hfailure with ⟨rfl, rfl⟩ | ⟨index, rfl, rfl⟩
    · simpa using hrepeated
    · by_cases hsame : index = other
      · subst hsame
        rw [if_pos (.inr rfl)] at hrepeated
        simp only [List.count_singleton_self]
        exact hrepeated.trans (Nat.le_add_right _ _)
      · simpa [hsame] using hrepeated

theorem clearStatus_triple :
    touchProtocol.Triple poller (Tried geometry record index)
      (clearStatus index) fun _ => Delivered geometry [] none := by
  apply writeStatus_triple.bind
  intro ok
  cases ok with
  | true => exact Triple.ret stable_delivered fun _ _ => id
  | false =>
    apply Triple.store stable_delivered stable_delivered
    intro touch hinv hdelivered
    exact ⟨hinv, .own, hdelivered.failed (.inr ⟨index, rfl, rfl⟩)⟩

theorem touchPoll_triple :
    touchProtocol.Triple poller (Delivered geometry [] none)
      (touchPoll geometry) fun _ => Delivered geometry [] none := by
  apply readStatus_triple.bind
  intro result
  rcases result with _ | ⟨status, index⟩
  · apply Triple.store stable_delivered stable_delivered
    intro touch hinv hdelivered
    exact ⟨hinv, .own, hdelivered.failed (.inl ⟨rfl, rfl⟩)⟩
  · apply countRead_triple.bind
    intro _
    split
    · exact Triple.ret stable_delivered fun _ _ hread => hread.1
    · rename_i hready
      intro touch hinv hread
      obtain ⟨record, hseen, rfl⟩ := hread.2 hready
      have htake : touchProtocol.Triple poller
          (Seen geometry [] none record index)
          ((takeRecord geometry record.status index).bind fun _ =>
            clearStatus index) fun _ => Delivered geometry [] none :=
        takeRecord_triple.bind fun _ => clearStatus_triple
      exact htake touch hinv hseen

end Poll

theorem post_triple : touchProtocol.Triple t (fun _ => True) (post record)
      fun _ _ => True := by
  apply Triple.await (.const True) (.const True)
  intro touch hinv _ hempty
  have hnone : touch.mailbox = none := Option.isNone_iff_eq_none.mp hempty
  refine ⟨?_, ⟨fun _ => .inr ⟨hnone, record, rfl⟩⟩, trivial⟩
  intro posted hposted
  rw [List.getLast?_concat]
  exact hposted

section Runs

/-- The poller polls; the controller, on threads of its own, posts. -/
def Permitted (t : ThreadId) : TouchCall → Prop
  | .poll => t = poller
  | .post _ => t ≠ poller

instance : (t : ThreadId) → (call : TouchCall) → Decidable (Permitted t call)
  | t, .poll => inferInstanceAs (Decidable (t = poller))
  | t, .post _ => inferInstanceAs (Decidable (t ≠ poller))

def Between (geometry : Geometry) (t : ThreadId) (_ : Unit)
    (touch : TouchState) : Prop :=
  t = poller → Delivered geometry [] none touch

theorem stable_between : touchProtocol.Stable t (Between geometry t ()) := by
  intro before after hrely hbetween ht
  subst ht
  exact stable_delivered hrely (hbetween rfl)

theorem touchCode_correct : touchProtocol.Correct (Between geometry) Permitted
      (touchCode geometry) := by
  intro t call hpermitted
  cases call with
  | poll =>
    obtain rfl : t = poller := hpermitted
    exact touchPoll_triple.mono (fun _ _ ⟨_, hbetween⟩ => hbetween rfl)
      fun _ _ hdelivered _ => hdelivered
  | post record =>
    exact post_triple.mono (fun _ _ _ => trivial)
      fun _ _ _ ht => absurd ht hpermitted

/-- `micronux_dsi` as the probe leaves it, before the first record. -/
def startTouch : Config TouchState Input ThreadId Unit where
  shared := ⟨none, 0, 0, false, [], [], [], []⟩
  thread := fun _ => .ret ()

/-- The configurations that a schedule of polls and records reaches. -/
structure TouchRun (geometry : Geometry)
    (labels : List (Label ThreadId TouchCall Input))
    (config : Config TouchState Input ThreadId Unit) : Prop where
  permitted : ∀ label ∈ labels, Protocol.Allowed Permitted label
  reached : startTouch.exec (touchCode geometry) labels = some config

variable {labels : List (Label ThreadId TouchCall Input)}
  {config : Config TouchState Input ThreadId Unit}

theorem startTouch_good : touchProtocol.Good (Between geometry) startTouch := by
  apply Good.start
  · exact fun record hnone => absurd hnone.symm (Option.some_ne_none record)
  · refine fun t => ⟨(), rfl, stable_between, fun _ => ?_⟩
    exact ⟨nofun, fun index => Nat.zero_le _, nofun, .nil, rfl, fun _ => rfl,
      rfl⟩

theorem TouchRun.delivered (hrun : TouchRun geometry labels config)
    (hidle : config.thread poller = .ret ()) :
    Delivered geometry [] none config.shared := by
  have hgood := (startTouch_good.exec touchCode_correct hrun.permitted
    hrun.reached).1
  exact hgood.idle hidle rfl

/-- Every event of a packet is inside what the driver declares. -/
theorem Record.packet_le {axis : Axis} {value : Nat}
    (hevent : .abs axis value ∈ record.packet geometry) :
    value ≤ geometry.maximum axis := by
  unfold Record.packet at hevent
  split at hevent
  · simp only [releaseEvents, List.mem_append, List.mem_cons,
      List.not_mem_nil, or_false, reduceCtorEq, false_or,
      InputEvent.abs.injEq] at hevent
    obtain ⟨rfl, rfl⟩ := hevent
    exact Nat.zero_le _
  · simp only [contactEvents, List.mem_append, List.mem_cons,
      List.not_mem_nil, or_false, reduceCtorEq, false_or,
      InputEvent.abs.injEq] at hevent
    obtain ⟨rfl, rfl⟩ | ⟨rfl, rfl⟩ | ⟨rfl, rfl⟩ := hevent
    · exact Nat.min_le_right _ _
    · exact Nat.min_le_right _ _
    · exact Nat.max_le.mpr ⟨Nat.one_le_ofNat, Nat.min_le_right _ _⟩

theorem Delivered.events_le (hdelivered : Delivered geometry [] none touch)
    {axis : Axis} {value : Nat} (hevent : .abs axis value ∈ touch.events) :
    value ≤ geometry.maximum axis := by
  rw [hdelivered.events_eq, List.append_nil, TouchState.packets,
    List.mem_flatten] at hevent
  obtain ⟨packet, hpacket, hmem⟩ := hevent
  obtain ⟨index, hindex, rfl⟩ := List.mem_map.mp hpacket
  have hposted := List.getElem?_eq_getElem (hdelivered.reported_lt index hindex)
  rw [hposted] at hmem
  exact Record.packet_le hmem

/-- Without a failure every record that left the register was reported once,
in the order of the records. -/
theorem Delivered.reported_eq (hdelivered : Delivered geometry [] none touch)
    (hfailures : touch.failures = []) :
    touch.reported = List.range touch.taken := by
  have hcount : ∀ index, touch.reported.count index =
      (List.range touch.taken).count index := by
    intro index
    have hsettled := hdelivered.settled index
    have hrepeated := hdelivered.repeated index
    simp only [TouchState.attempts, hfailures, List.count_nil, reduceCtorEq,
      or_false] at hsettled hrepeated
    by_cases hindex : index < touch.taken
    · rw [List.count_eq_one_of_mem List.nodup_range (List.mem_range.mpr hindex)]
      rw [if_pos hindex] at hrepeated
      exact Nat.le_antisymm hrepeated (hsettled hindex)
    · rw [List.count_eq_zero.mpr fun hmem => hindex (List.mem_range.mp hmem)]
      rw [if_neg hindex] at hrepeated
      exact Nat.le_zero.mp hrepeated
  apply (List.perm_iff_count.mpr hcount).eq_of_pairwise
    (fun left right _ _ hle hge => Nat.le_antisymm hle hge) hdelivered.ordered
  exact List.pairwise_lt_range.imp Nat.le_of_lt

/-- However the polls and the records interleave and whichever transactions
fail: between two polls every record that has left the register was reported
or counted as an error, none more often than one plus the failures to
acknowledge it, and the input layer was told the packets of the reported
records in their order and nothing else, inside the declared ranges. -/
theorem touchRun_delivered (hrun : TouchRun geometry labels config)
    (hidle : config.thread poller = .ret ()) :
    Delivered geometry [] none config.shared ∧
      (∀ axis value, .abs axis value ∈ config.shared.events →
        value ≤ geometry.maximum axis) ∧
      (config.shared.failures = [] →
        config.shared.reported = List.range config.shared.taken) := by
  have hdelivered := hrun.delivered hidle
  exact ⟨hdelivered, fun axis value => hdelivered.events_le,
    hdelivered.reported_eq⟩

def boardGeometry : Geometry where
  width := 800
  height := 1280
  wide := by decide
  high := by decide

def edgeContact : Record where
  status := 0x81#8
  point := [0#8, 0xff#8, 0x0f#8, 0x10#8, 0#8, 0xff#8, 0xff#8, 0#8]
  ready := by decide
  whole := rfl

def liftedContact : Record where
  status := 0x80#8
  point := List.replicate 8 0#8
  ready := by decide
  whole := rfl

/-- The acknowledgement of a contact fails; the contact is reported again and
then the lift. -/
def edgeSchedule : List (Label ThreadId TouchCall Input) :=
  .call 1 (.post edgeContact) :: .step 1 {} :: .call 0 .poll ::
  List.replicate 9 (.step 0 {}) ++ .step 0 { ok := false } ::
  .call 1 (.post liftedContact) :: .step 0 {} :: .call 0 .poll ::
  List.replicate 10 (.step 0 {}) ++ .step 1 {} :: .call 0 .poll ::
  List.replicate 7 (.step 0 {})

def edgeEvents : List InputEvent :=
  [.key true, .abs .x 799, .abs .y 16, .abs .pressure 255, .sync,
    .key true, .abs .x 799, .abs .y 16, .abs .pressure 255, .sync,
    .key false, .abs .pressure 0, .sync]

theorem edgeSchedule_delivered :
    ∃ config, TouchRun boardGeometry edgeSchedule config ∧
      config.shared.reported = [0, 0, 1] ∧
      config.shared.failures = [.clear 0] ∧
      config.shared.events = edgeEvents ∧
      Delivered boardGeometry [] none config.shared := by
  have hcheck : (startTouch.exec (touchCode boardGeometry) edgeSchedule).any
      (fun config => decide (config.shared.reported = [0, 0, 1] ∧
        config.shared.failures = [.clear 0] ∧
        config.shared.events = edgeEvents ∧
        (config.thread poller).reply = some ())) = true := by
    decide +kernel
  obtain ⟨config, hreached, hholds⟩ := Option.any_eq_true _ _ |>.mp hcheck
  obtain ⟨hreported, hfailures, hevents, hreply⟩ := of_decide_eq_true hholds
  have hrun : TouchRun boardGeometry edgeSchedule config :=
    ⟨by decide, hreached⟩
  obtain ⟨hdelivered, -, -⟩ :=
    touchRun_delivered hrun (Prog.eq_ret_of_reply hreply)
  exact ⟨config, hrun, hreported, hfailures, hevents, hdelivered⟩

end Runs

end Micronux.Touch
