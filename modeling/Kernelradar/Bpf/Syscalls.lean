import Kernelradar.Bpf.Connect
import Kernelradar.Bpf.Record

/-!
The other BPF programs that submit events, and all of them as one family.

* `Feed`: a ring buffer with the programs that fill it, its two counters and its number;
* `emitIf`: how every program ends: the event is counted, and submitted if there is room;
* `privesc.bpf.c`, `bpf_loader.bpf.c`, `container.bpf.c`, `kmod.bpf.c`, `injection.bpf.c`: when a
  program wants an event, and what it stores in it;
* `krTaskKill`: the hook of `selfprotect.bpf.c`;
* `Hook`, `Hook.program`, `program_eq`: every program is its event, and `emitIf`;
* `Hook.fields`: the members it stores.

`stale` is what the reserved record held before, read as an event.
-/

namespace Kernelradar

open Library

/-- The ring buffers of the daemon. -/
inductive Feed where
  | privesc
  | bpfLoader
  | container
  | kmod
  | fim
  | network
  | injection
  | cred
  | selfprotect
  deriving DecidableEq

namespace Feed

instance : Fintype Feed where
  elems := {privesc, bpfLoader, container, kmod, fim, network, injection, cred, selfprotect}
  complete f := by cases f <;> decide

/-- `KR_DETECTOR_*`. -/
def detectorId : Feed → UInt8
  | privesc => 1
  | bpfLoader => 2
  | container => 3
  | kmod => 4
  | fim => 5
  | network => 6
  | injection => 7
  | cred => 8
  | selfprotect => 9

/-- Named, so that the literals of the slots cite it. -/
instance neZeroSlots : NeZero 18 := ⟨by decide⟩

/-- The slot of `kr_stats` that counts what was seen: `KR_STAT_*_OBSERVED`, or
`KR_STAT_SELFPROTECT_DENIED`. -/
def observed : Feed → Fin 18
  | privesc => 0
  | bpfLoader => 2
  | container => 4
  | kmod => 6
  | fim => 8
  | network => 10
  | injection => 12
  | cred => 14
  | selfprotect => 16

/-- The slot that counts what did not fit: `KR_STAT_*_DROPPED`. -/
def dropped : Feed → Fin 18
  | privesc => 1
  | bpfLoader => 3
  | container => 5
  | kmod => 7
  | fim => 9
  | network => 11
  | injection => 13
  | cred => 15
  | selfprotect => 17

lemma observed_ne_dropped (f : Feed) : f.observed ≠ f.dropped := by
  cases f <;> decide

end Feed

namespace Bpf

/-- `ctx->args`. -/
abbrev Args := Vector UInt64 6

/-- Named, so that the literals of the arguments cite it. -/
instance neZeroArgs : NeZero 6 := ⟨by decide⟩

instance neZeroData : NeZero 4 := ⟨by decide⟩

/-- `(__u64)(int)x`. -/
def intArg (x : UInt64) : UInt64 := x.toUInt32.toInt32.toInt64.toUInt64

/-- How a program ends that wants an event, or none: counted, reserved, filled in, submitted. -/
def emitIf (feed : Feed) (wanted : Option KrEvent) (room : Bool) (stats : Stats) :
    Stats × Option KrEvent :=
  match wanted with
  | none => (stats, none)
  | some ev =>
      let stats := krStatInc stats feed.observed
      if !room then (krStatInc stats feed.dropped, none) else (stats, some ev)

/-- What all programs store alike; `data` is left as it was. -/
def fillCommon (stale : KrEvent) (task : Task) (detector severity : UInt8) (eventType : UInt16) :
    KrEvent where
  timestampNs := task.ktimeNs
  pid := (task.pidTgid >>> 32).toUInt32
  tid := task.pidTgid.toUInt32
  uid := task.uidGid.toUInt32
  gid := (task.uidGid >>> 32).toUInt32
  comm := task.comm
  detectorId := detector
  severity := severity
  eventType := eventType
  data := stale.data

/-! ### `privesc.bpf.c` -/

/-- The event of `kr_tp_setuid`: only somebody else who becomes root. Two elements of `data` are
not stored. -/
def setuidEvent (args : Args) (task : Task) (stale : KrEvent) : Option KrEvent :=
  let newUid := (args.get 0).toUInt32
  if newUid ≠ 0 then none
  else
    let curUid := task.uidGid.toUInt32
    if curUid = 0 then none
    else some { fillCommon stale task 1 2 1 with
      data := (stale.data.setIfInBounds 0 curUid.toUInt64).setIfInBounds 1 newUid.toUInt64 }

/-- The event of `kr_tp_setgid`. -/
def setgidEvent (args : Args) (task : Task) (stale : KrEvent) : Option KrEvent :=
  let newGid := (args.get 0).toUInt32
  if newGid ≠ 0 then none
  else
    let curGid := (task.uidGid >>> 32).toUInt32
    if curGid = 0 then none
    else some { fillCommon stale task 1 2 2 with
      data := (stale.data.setIfInBounds 0 curGid.toUInt64).setIfInBounds 1 newGid.toUInt64 }

/-- `kr_tp_setuid`. -/
def krTpSetuid (args : Args) (task : Task) (stale : KrEvent) : Bool → Stats →
    Stats × Option KrEvent := emitIf .privesc (setuidEvent args task stale)

/-- `kr_tp_setgid`. -/
def krTpSetgid (args : Args) (task : Task) (stale : KrEvent) : Bool → Stats →
    Stats × Option KrEvent := emitIf .privesc (setgidEvent args task stale)

/-! ### `bpf_loader.bpf.c` -/

/-- The event of `kr_tp_bpf_load`; `uattr` is the readable memory at the second argument. -/
def bpfLoadEvent (args : Args) (uattr : List UInt8) (task : Task) (stale : KrEvent) :
    Option KrEvent :=
  if (args.get 0).toUInt32 ≠ 5 then none
  else
    let progType := UInt32.ofNat (probeReadUser uattr 0 4)
    some { fillCommon stale task 2 1 1 with data := #v[progType.toUInt64, 0, 0, 0] }

/-- `kr_tp_bpf_load`. -/
def krTpBpfLoad (args : Args) (uattr : List UInt8) (task : Task) (stale : KrEvent) :
    Bool → Stats → Stats × Option KrEvent :=
  emitIf .bpfLoader (bpfLoadEvent args uattr task stale)

/-! ### `container.bpf.c` -/

/-- The `ns_flags` of `kr_tp_unshare`. -/
def nsMask : UInt64 :=
  0x00020000 ||| 0x10000000 ||| 0x20000000 ||| 0x40000000 ||| 0x08000000 ||| 0x04000000
    ||| 0x02000000

/-- The event of `emit` in `container.bpf.c`. -/
def containerEvent (stale : KrEvent) (task : Task) (eventType : UInt16) (d0 d1 : UInt64) :
    KrEvent :=
  { fillCommon stale task 3 1 eventType with data := #v[d0, d1, 0, 0] }

/-- The event of `kr_tp_unshare`. -/
def unshareEvent (args : Args) (task : Task) (stale : KrEvent) : Option KrEvent :=
  if args.get 0 &&& nsMask = 0 then none else some (containerEvent stale task 1 (args.get 0) 0)

/-- The event of `kr_tp_setns`. -/
def setnsEvent (args : Args) (task : Task) (stale : KrEvent) : Option KrEvent :=
  some (containerEvent stale task 2 (intArg (args.get 0)) (intArg (args.get 1)))

/-- `kr_tp_unshare`. -/
def krTpUnshare (args : Args) (task : Task) (stale : KrEvent) : Bool → Stats →
    Stats × Option KrEvent := emitIf .container (unshareEvent args task stale)

/-- `kr_tp_setns`. -/
def krTpSetns (args : Args) (task : Task) (stale : KrEvent) : Bool → Stats →
    Stats × Option KrEvent := emitIf .container (setnsEvent args task stale)

/-! ### `kmod.bpf.c` -/

/-- The event of `emit_kmod`: a load from memory is an alert. -/
def kmodEvent (stale : KrEvent) (task : Task) (eventType : UInt16) (d0 : UInt64) : KrEvent :=
  { fillCommon stale task 4 (if eventType = 2 then 2 else 1) eventType with
    data := #v[d0, 0, 0, 0] }

/-- `kr_tp_finit_module`. -/
def krTpFinitModule (args : Args) (task : Task) (stale : KrEvent) : Bool → Stats →
    Stats × Option KrEvent := emitIf .kmod (some (kmodEvent stale task 1 (intArg (args.get 0))))

/-- `kr_tp_init_module`. -/
def krTpInitModule (task : Task) (stale : KrEvent) : Bool → Stats → Stats × Option KrEvent :=
  emitIf .kmod (some (kmodEvent stale task 2 0))

/-! ### `injection.bpf.c` -/

/-- The event of `emit_inj`. -/
def injEvent (stale : KrEvent) (task : Task) (eventType : UInt16) (severity : UInt8)
    (d0 d1 : UInt64) : KrEvent :=
  { fillCommon stale task 7 severity eventType with data := #v[d0, d1, 0, 0] }

/-- The event of `kr_tp_ptrace`: `PTRACE_ATTACH`, `PTRACE_SEIZE` and the three `PTRACE_POKE*`. -/
def ptraceEvent (args : Args) (task : Task) (stale : KrEvent) : Option KrEvent :=
  let request := args.get 0
  let target := args.get 1
  if request = 16 ∨ request = 0x4206 then some (injEvent stale task 1 2 request target)
  else if request = 4 ∨ request = 5 ∨ request = 6 then
    some (injEvent stale task 2 3 request target)
  else none

/-- `kr_tp_ptrace`. -/
def krTpPtrace (args : Args) (task : Task) (stale : KrEvent) : Bool → Stats →
    Stats × Option KrEvent := emitIf .injection (ptraceEvent args task stale)

/-- `kr_tp_pvm_writev`. -/
def krTpPvmWritev (args : Args) (task : Task) (stale : KrEvent) : Bool → Stats →
    Stats × Option KrEvent := emitIf .injection (some (injEvent stale task 3 3 (args.get 0) 0))

/-! ### `selfprotect.bpf.c` -/

/-- The tests of `kr_task_kill`: is the signal denied? `tgid` is the element of
`kr_protected_tgid`, `target` the tgid of the task the signal is for. -/
def killDenied (tgid target : UInt32) (task : Task) : Bool :=
  let senderTgid := (task.pidTgid >>> 32).toUInt32
  if tgid = 0 then false
  else if target ≠ tgid then false
  else if senderTgid = 1 then false
  else if senderTgid = tgid then false
  else true

/-- The event of a denial. -/
def killEvent (tgid target : UInt32) (sig : Int32) (task : Task) (stale : KrEvent) :
    Option KrEvent :=
  if killDenied tgid target task then
    some { fillCommon stale task 9 3 1 with
      data := #v[sig.toInt64.toUInt64, target.toUInt64, 0, 0] }
  else none

/-- `kr_task_kill`: what it returns, the counters, the event submitted. It denies whether the
event finds room or not. -/
def krTaskKill (tgid target : UInt32) (sig : Int32) (task : Task) (stale : KrEvent) (room : Bool)
    (stats : Stats) : ℤ × Stats × Option KrEvent :=
  (if killDenied tgid target task then -1 else 0,
    emitIf .selfprotect (killEvent tgid target sig task stale) room stats)

end Bpf

open Bpf

/-! ### The family -/

/-- A call that one of the programs sees. Both `openat` programs see the same calls. -/
inductive Hook where
  | setuid (args : Args)
  | setgid (args : Args)
  | bpf (args : Args) (uattr : List UInt8)
  | unshare (args : Args)
  | setns (args : Args)
  | finitModule (args : Args)
  | initModule
  | openat (call : OpenAt)
  | openatRead (call : OpenAt)
  | connect (call : Connect)
  | ptrace (args : Args)
  | pvmWritev (args : Args)
  | taskKill (tgid target : UInt32) (sig : Int32)

namespace Hook

/-- The ring buffer of the program. -/
def feed : Hook → Feed
  | setuid _ => .privesc
  | setgid _ => .privesc
  | bpf _ _ => .bpfLoader
  | unshare _ => .container
  | setns _ => .container
  | finitModule _ => .kmod
  | initModule => .kmod
  | openat _ => .fim
  | openatRead _ => .cred
  | connect _ => .network
  | ptrace _ => .injection
  | pvmWritev _ => .injection
  | taskKill _ _ _ => .selfprotect

/-- The program. -/
def program : Hook → Task → KrEvent → Bool → Stats → Stats × Option KrEvent
  | setuid args, task, stale => krTpSetuid args task stale
  | setgid args, task, stale => krTpSetgid args task stale
  | bpf args uattr, task, stale => krTpBpfLoad args uattr task stale
  | unshare args, task, stale => krTpUnshare args task stale
  | setns args, task, stale => krTpSetns args task stale
  | finitModule args, task, stale => krTpFinitModule args task stale
  | initModule, task, stale => krTpInitModule task stale
  | openat call, task, _ => krTpOpenat call task
  | openatRead call, task, _ => krTpOpenatRead call task
  | connect call, task, _ => krTpConnect call task
  | ptrace args, task, stale => krTpPtrace args task stale
  | pvmWritev args, task, stale => krTpPvmWritev args task stale
  | taskKill tgid target sig, task, stale => fun room stats =>
      (krTaskKill tgid target sig task stale room stats).2

/-- The event of an `openat` program, if it wants one. -/
def openatEvent (prog : Program) (call : OpenAt) (task : Task) : Option KrEvent :=
  if !prog.watches call.flags then none
  else
    (readUserStr call.path).bind fun path =>
      if !prog.candidate path && !containsDotdot path 32 then none
      else some (eventOf prog task path)

/-- The event of `kr_tp_connect`, if it wants one. -/
def connectWanted (call : Connect) (task : Task) : Option KrEvent :=
  if call.addrlen.toUInt32.toInt32.toInt < 8 then none
  else
    let family := UInt16.ofNat (probeReadUser call.uaddr 0 2)
    if family ≠ 2 then none
    else
      let portBe := UInt16.ofNat (probeReadUser call.uaddr 2 2)
      let addrBe := UInt32.ofNat (probeReadUser call.uaddr 4 4)
      if isPrivateIpv4 addrBe then none else some (connectEvent task family portBe addrBe)

/-- The event the program wants, if any. -/
def event : Hook → Task → KrEvent → Option KrEvent
  | setuid args, task, stale => setuidEvent args task stale
  | setgid args, task, stale => setgidEvent args task stale
  | bpf args uattr, task, stale => bpfLoadEvent args uattr task stale
  | unshare args, task, stale => unshareEvent args task stale
  | setns args, task, stale => setnsEvent args task stale
  | finitModule args, task, stale => some (kmodEvent stale task 1 (intArg (args.get 0)))
  | initModule, task, stale => some (kmodEvent stale task 2 0)
  | openat call, task, _ => openatEvent fim call task
  | openatRead call, task, _ => openatEvent cred call task
  | connect call, task, _ => connectWanted call task
  | ptrace args, task, stale => ptraceEvent args task stale
  | pvmWritev args, task, stale => some (injEvent stale task 3 3 (args.get 0) 0)
  | taskKill tgid target sig, task, stale => killEvent tgid target sig task stale

lemma openatProbe_eq {feed : Feed} {prog : Program} (hobs : prog.observed = feed.observed)
    (hdrop : prog.dropped = feed.dropped) (call : OpenAt) (task : Task) (room : Bool)
    (stats : Stats) :
    openatProbe prog call task room stats
      = emitIf feed (openatEvent prog call task) room stats := by
  rw [openatProbe, openatEvent, hobs, hdrop]
  cases prog.watches call.flags with
  | false => rfl
  | true =>
      cases readUserStr call.path with
      | none => rfl
      | some path =>
          dsimp only [Option.bind_some]
          cases hskip : !prog.candidate path && !containsDotdot path 32 <;> rfl

lemma krTpConnect_eq (call : Connect) (task : Task) (room : Bool) (stats : Stats) :
    krTpConnect call task room stats = emitIf .network (connectWanted call task) room stats := by
  rw [krTpConnect, connectWanted]
  dsimp only
  by_cases hlen : call.addrlen.toUInt32.toInt32.toInt < 8
  · rw [if_pos hlen, if_pos hlen]
    rfl
  · by_cases hfamily : UInt16.ofNat (probeReadUser call.uaddr 0 2) ≠ 2
    · rw [if_neg hlen, if_neg hlen, if_pos hfamily, if_pos hfamily]
      rfl
    · rw [if_neg hlen, if_neg hlen, if_neg hfamily, if_neg hfamily]
      cases isPrivateIpv4 (UInt32.ofNat (probeReadUser call.uaddr 4 4)) <;> rfl

/-- **Every program** is the event it wants, counted and submitted in the same way. -/
theorem program_eq (h : Hook) (task : Task) (stale : KrEvent) (room : Bool) (stats : Stats) :
    h.program task stale room stats = emitIf h.feed (h.event task stale) room stats := by
  cases h with
  | openat call => exact openatProbe_eq rfl rfl call task room stats
  | openatRead call => exact openatProbe_eq rfl rfl call task room stats
  | connect call => exact krTpConnect_eq call task room stats
  | _ => rfl

/-! ### Records -/

/-- The members the program stores, in its order. -/
def fields : Hook → List KrEvent.Field
  | setuid _ | setgid _ =>
      [.timestampNs, .pid, .tid, .uid, .gid, .detectorId, .severity, .eventType, .comm, .data 0,
        .data 1]
  | bpf _ _ =>
      [.timestampNs, .pid, .tid, .uid, .gid, .detectorId, .severity, .eventType, .comm, .data 0,
        .data 1, .data 2, .data 3]
  | _ =>
      [.timestampNs, .pid, .tid, .uid, .gid, .detectorId, .severity, .eventType, .data 0, .data 1,
        .data 2, .data 3, .comm]

lemma nodup_fields (h : Hook) : h.fields.Nodup := by
  cases h <;> (dsimp only [fields]; decide)

/-- The elements of `data` that `privesc.bpf.c` leaves out are those of the stale record. -/
lemma bytes_of_setData (stale : KrEvent) (task : Task) (severity : UInt8) (eventType : UInt16)
    (d0 d1 : UInt64) {i : Fin 4} (h0 : i ≠ 0) (h1 : i ≠ 1) :
    KrEvent.bytes { fillCommon stale task 1 severity eventType with
      data := (stale.data.setIfInBounds 0 d0).setIfInBounds 1 d1 } (.data i)
      = stale.bytes (.data i) := by
  have hne0 : (0 : ℕ) ≠ i := fun h => h0 (Fin.ext h.symm)
  have hne1 : (1 : ℕ) ≠ i := fun h => h1 (Fin.ext h.symm)
  simp only [KrEvent.bytes, Fin.getElem_fin, Vector.getElem_setIfInBounds_ne _ hne1,
    Vector.getElem_setIfInBounds_ne _ hne0]

/-- All members but two elements of `data`, and these unless the program is one of
`privesc.bpf.c`. -/
lemma mem_fields (h : Hook) (f : KrEvent.Field) :
    f ∈ h.fields ∨
      h.feed = .privesc ∧ ∃ i : Fin 4, f = .data i ∧ i ≠ 0 ∧ i ≠ 1 := by
  have hprivesc : ∀ f ∈ KrEvent.Field.all, f ∈ (setuid default).fields ∨
      ∃ i : Fin 4, f = .data i ∧ i ≠ 0 ∧ i ≠ 1 := by decide
  have hbpf : ∀ f ∈ KrEvent.Field.all, f ∈ (bpf default []).fields := by decide
  have hother : ∀ f ∈ KrEvent.Field.all, f ∈ initModule.fields := by decide
  have hf := f.mem_all
  cases h with
  | setuid args => exact (hprivesc f hf).imp_right fun h => ⟨rfl, h⟩
  | setgid args => exact (hprivesc f hf).imp_right fun h => ⟨rfl, h⟩
  | bpf args uattr => exact Or.inl (hbpf f hf)
  | _ => exact Or.inl (hother f hf)

/-- A member that the program does not store is that of the stale record. -/
lemma bytes_of_not_mem {h : Hook} {task : Task} {stale ev : KrEvent}
    (hev : h.event task stale = some ev) {f : KrEvent.Field} (hf : f ∉ h.fields) :
    ev.bytes f = stale.bytes f := by
  obtain ⟨hfeed, i, rfl, h0, h1⟩ := (h.mem_fields f).resolve_left hf
  cases h with
  | setuid args =>
      simp only [event, setuidEvent, Option.ite_none_left_eq_some, Option.some.injEq] at hev
      obtain ⟨-, -, rfl⟩ := hev
      exact bytes_of_setData stale task 2 1 _ _ h0 h1
  | setgid args =>
      simp only [event, setgidEvent, Option.ite_none_left_eq_some, Option.some.injEq] at hev
      obtain ⟨-, -, rfl⟩ := hev
      exact bytes_of_setData stale task 2 2 _ _ h0 h1
  | _ => cases hfeed

/-- **A record survives**: the reader finds the event a program has filled in, whatever the ring
buffer had there before, between the members and in those that are not stored. -/
theorem parseItem_submitted {h : Hook} {task : Task} {mem : List UInt8} {ev : KrEvent}
    (hlen : mem.length = structSize KrEvent.members)
    (hev : h.event task (KrEvent.readUnaligned mem) = some ev) :
    KrEvent.parseItem (KrEvent.submitted mem h.fields ev) = some ev := by
  have hmem : 80 ≤ mem.length := (KrEvent.krEvent_layout.1 ▸ hlen).ge
  have hread : KrEvent.readUnaligned (KrEvent.submitted mem h.fields ev) = ev := by
    refine KrEvent.ext_bytes fun f => ?_
    rw [KrEvent.readUnaligned_submitted hmem ev h.nodup_fields]
    split_ifs with hf
    · rfl
    · exact (bytes_of_not_mem hev hf).symm
  rw [KrEvent.parseItem, KrEvent.length_submitted hmem, hlen, if_neg (lt_irrefl _), hread]

end Hook

end Kernelradar
