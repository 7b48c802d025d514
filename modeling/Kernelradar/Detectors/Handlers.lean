import Kernelradar.Detectors.Cidr
import Kernelradar.Detectors.Util
import Kernelradar.Library.Interleave

/-!
The `handle` of the detectors, up to `print_alert`: the alert they hand on, if
any.

* `Held`: the two locks a detector reads;
* `attributed`: the part all of them share: attribution, one snapshot of the
  allowlist, the report;
* one `handle` for each detector but `fim` and `cred`, which are in
  `OpenPath.lean`.

A handler is a `Reads`: each lock it takes is one step.
-/

namespace Kernelradar

open Library

/-- What a detector shares with the reload; only the network detector looks at
the CIDR list. -/
structure Held where
  allowlist : SharedAllowlist
  cidrs : SharedCidrList

/-- What an event is handled in: the process behind it and what `make_alert`
draws. -/
structure Scene where
  proc : Proc
  stamp : Stamp

section

variable (re : RegexCrate) (sc : Scene) (ev : KrEvent)

/-- The common part of the handlers: whom the event is attributed to, one
snapshot, and the report of an event that is not suppressed. -/
def attributed (report : Text → Option Text → Option Alert) : Reads Held (Option Alert) :=
  let comm := commStr ev
  let exe := readExePathVerified sc.proc comm
  .read fun held =>
    .done (if (held.allowlist.snapshot re).isAllowed re comm exe then none
      else report comm exe)

@[simp] lemma run_attributed (report : Text → Option Text → Option Alert) (held : Held) :
    (attributed re sc ev report).run held =
      if (held.allowlist.snapshot re).isAllowed re (commStr ev)
          (readExePathVerified sc.proc (commStr ev)) then none
      else report (commStr ev) (readExePathVerified sc.proc (commStr ev)) := rfl

end

/-- A number in the format `0x{:x}`. -/
def hex (n : ℕ) : Text := "0x" ++ Nat.toDigits 16 n

namespace PrivEscDetector

/-- `PrivEscDetector::handle`. -/
def handle (re : RegexCrate) (sc : Scene) (ev : KrEvent) : Reads Held (Option Alert) :=
  attributed re sc ev fun comm exe =>
    let call : Text := if ev.eventType = 1 then "setuid" else "setgid"
    let title := call ++ "(0) - uid " ++ decimal ev.data[0].toNat ++ " → 0 by " ++ comm
    let ctx := Json.obj [("call", .str call), ("old_id", .ofNat ev.data[0].toNat),
      ("new_id", .ofNat ev.data[1].toNat), ("exe", .ofOption exe)]
    some (makeAlert sc.stamp ev exe "privesc" title ctx)

end PrivEscDetector

namespace BpfLoaderDetector

/-- `PROG_TYPES`. -/
def progTypes : List Text :=
  ["UNSPEC", "SOCKET_FILTER", "KPROBE", "SCHED_CLS", "SCHED_ACT", "TRACEPOINT", "XDP",
    "PERF_EVENT", "CGROUP_SKB", "CGROUP_SOCK", "LWT_IN", "LWT_OUT", "LWT_XMIT", "SOCK_OPS",
    "SK_SKB", "CGROUP_DEVICE", "SK_MSG", "RAW_TRACEPOINT", "CGROUP_SOCK_ADDR",
    "LWT_SEG6LOCAL", "LIRC_MODE2", "SK_REUSEPORT", "FLOW_DISSECTOR", "CGROUP_SYSCTL",
    "RAW_TRACEPOINT_WRITABLE", "CGROUP_SOCKOPT", "TRACING", "STRUCT_OPS", "EXT", "LSM",
    "SK_LOOKUP", "SYSCALL", "NETFILTER"]

/-- `prog_type_name`. -/
def progTypeName (t : UInt32) : Text := (progTypes[t.toNat]?).getD "UNKNOWN"

/-- `BpfLoaderDetector::handle`; the daemon's own loads are dropped first. -/
def handle (selfTgid : UInt32) (re : RegexCrate) (sc : Scene) (ev : KrEvent) :
    Reads Held (Option Alert) :=
  if ev.pid = selfTgid then .done none
  else attributed re sc ev fun comm exe =>
    let progType := progTypeName ev.data[0].toUInt32
    let title := "BPF_PROG_LOAD type=" ++ progType ++ " by " ++ comm
    let ctx := Json.obj [("prog_type", .str progType), ("exe", .ofOption exe)]
    some (makeAlert sc.stamp ev exe "bpf-loader" title ctx)

end BpfLoaderDetector

namespace ContainerDetector

/-- The `CLONE_NEW*` flags in the order `decode_ns_flags` tests them. -/
def nsFlags : List (UInt64 × Text) :=
  [(0x00020000, "NEWNS"), (0x10000000, "NEWUSER"), (0x20000000, "NEWPID"),
    (0x40000000, "NEWNET"), (0x08000000, "NEWIPC"), (0x04000000, "NEWUTS"),
    (0x02000000, "NEWCGROUP")]

/-- `decode_ns_flags`. -/
def decodeNsFlags (flags : UInt64) : Text :=
  let parts := (nsFlags.filter fun f => flags &&& f.1 ≠ 0).map Prod.snd
  if parts.isEmpty then hex flags.toNat else List.intercalate ['|'] parts

/-- `ContainerDetector::handle`. -/
def handle (re : RegexCrate) (sc : Scene) (ev : KrEvent) : Reads Held (Option Alert) :=
  attributed re sc ev fun comm exe =>
    if ev.eventType = 1 then
      let flags := decodeNsFlags ev.data[0]
      some (makeAlert sc.stamp ev exe "container" ("unshare(" ++ flags ++ ") by " ++ comm)
        (.obj [("syscall", .str "unshare"), ("flags", .str flags), ("exe", .ofOption exe)]))
    else
      let nstype := hex ev.data[1].toNat
      some (makeAlert sc.stamp ev exe "container" ("setns(nstype=" ++ nstype ++ ") by " ++ comm)
        (.obj [("syscall", .str "setns"), ("fd", .ofNat ev.data[0].toNat),
          ("nstype", .str nstype), ("exe", .ofOption exe)]))

end ContainerDetector

namespace KmodDetector

/-- `KmodDetector::handle`. -/
def handle (re : RegexCrate) (sc : Scene) (ev : KrEvent) : Reads Held (Option Alert) :=
  attributed re sc ev fun comm exe =>
    if ev.eventType = 2 then
      some (makeAlert sc.stamp ev exe "kmod"
        ("init_module() LOAD FROM MEMORY by " ++ comm ++ " - rootkit technique")
        (.obj [("syscall", .str "init_module"), ("exe", .ofOption exe)]))
    else
      let fd := ev.data[0].toNat
      some (makeAlert sc.stamp ev exe "kmod" ("finit_module(fd=" ++ decimal fd ++ ") by " ++ comm)
        (.obj [("syscall", .str "finit_module"), ("fd", .ofNat fd), ("exe", .ofOption exe)]))

end KmodDetector

namespace InjectionDetector

/-- `ptrace_request_name`. -/
def ptraceRequestName (req : UInt64) : Text :=
  if req = 4 then "PTRACE_POKETEXT"
  else if req = 5 then "PTRACE_POKEDATA"
  else if req = 6 then "PTRACE_POKEUSER"
  else if req = 16 then "PTRACE_ATTACH"
  else if req = 0x4206 then "PTRACE_SEIZE"
  else "PTRACE_OTHER"

/-- `InjectionDetector::handle`. An unknown event type is dropped. -/
def handle (re : RegexCrate) (sc : Scene) (ev : KrEvent) : Reads Held (Option Alert) :=
  attributed re sc ev fun comm exe =>
    let req := ptraceRequestName ev.data[0]
    if ev.eventType = 1 then
      let target := ev.data[1].toUInt32.toNat
      some (makeAlert sc.stamp ev exe "injection"
        (req ++ " target_pid=" ++ decimal target ++ " by " ++ comm)
        (.obj [("syscall", .str "ptrace"), ("request", .str req), ("target_pid", .ofNat target),
          ("exe", .ofOption exe)]))
    else if ev.eventType = 2 then
      let target := ev.data[1].toUInt32.toNat
      some (makeAlert sc.stamp ev exe "injection"
        (req ++ " target_pid=" ++ decimal target ++ " by " ++ comm ++ " - memory write")
        (.obj [("syscall", .str "ptrace"), ("request", .str req), ("target_pid", .ofNat target),
          ("memory_write", .bool true), ("exe", .ofOption exe)]))
    else if ev.eventType = 3 then
      let target := ev.data[0].toUInt32.toNat
      some (makeAlert sc.stamp ev exe "injection"
        ("process_vm_writev target_pid=" ++ decimal target ++ " by " ++ comm)
        (.obj [("syscall", .str "process_vm_writev"), ("target_pid", .ofNat target),
          ("exe", .ofOption exe)]))
    else none

end InjectionDetector

namespace NetworkDetector

/-- `SUSPICIOUS_PORTS`. -/
def suspiciousPorts : List UInt16 :=
  [1337, 4444, 4445, 5555, 6666, 6667, 6697, 8080, 9001, 9050, 31337]

/-- `u16::from_be` on a little-endian machine. -/
def fromBe16 (x : UInt16) : UInt16 := x <<< 8 ||| x >>> 8

/-- `u32::from_be` on a little-endian machine. -/
def fromBe32 (x : UInt32) : UInt32 :=
  x <<< 24 ||| ((x <<< 8) &&& (0xff0000 : UInt32)) ||| ((x >>> 8) &&& (0xff00 : UInt32))
    ||| x >>> 24

/-- `impl Display for Ipv4Addr`. -/
def display (ip : UInt32) : Text :=
  let shifts : List UInt32 := [24, 16, 8, 0]
  List.intercalate ['.'] (shifts.map fun shift => decimal ((ip >>> shift) &&& 0xff).toNat)

/-- The port of a connect event. -/
def portOf (ev : KrEvent) : UInt16 := fromBe16 (ev.data[0] &&& 0xffff).toUInt16

/-- The destination of a connect event, in host order. -/
def ipHost (ev : KrEvent) : UInt32 := fromBe32 (ev.data[1] &&& 0xffffffff).toUInt32

/-- What is reported of a connection that is not suppressed. -/
def report (sc : Scene) (ev : KrEvent) (comm : Text) (exe : Option Text) : Option Alert :=
  let port := portOf ev
  let ip := display (ipHost ev)
  let suspicious := suspiciousPorts.contains port
  let evCopy := if suspicious then { ev with severity := 3 } else ev
  let mark : Text := if suspicious then "  ⚠ SUSPICIOUS PORT" else []
  let title := "connect → " ++ ip ++ ":" ++ decimal port.toNat ++ " by " ++ comm ++ mark
  let ctx := Json.obj [("remote_ip", .str ip), ("remote_port", .ofNat port.toNat),
    ("suspicious", .bool suspicious), ("exe", .ofOption exe)]
  some (makeAlert sc.stamp evCopy exe "network" title ctx)

/-- `NetworkDetector::handle`: the CIDR list first, the allowlist second. -/
def handle (re : RegexCrate) (sc : Scene) (ev : KrEvent) : Reads Held (Option Alert) :=
  .read fun held =>
    if held.cidrs.contains (ipHost ev) then .done none else attributed re sc ev (report sc ev)

/-- The handler with both locks at rest. -/
lemma run_handle (re : RegexCrate) (sc : Scene) (ev : KrEvent) (held : Held) :
    (handle re sc ev).run held = if held.cidrs.contains (ipHost ev) then none
      else (attributed re sc ev (report sc ev)).run held := by
  rw [handle, Reads.run_read]
  split_ifs <;> rfl

end NetworkDetector

end Kernelradar
