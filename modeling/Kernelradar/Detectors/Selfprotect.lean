import Kernelradar.Bpf.Syscalls
import Kernelradar.Detectors.Lsm

/-!
`lsm.rs`, the part around `selfprotect.bpf.o`, and `host_tgid` of `util.rs`.

* `hostTgid`: the process id written into the map of the hook, read from `/proc/self/status`;
* `selfprotectWrites`: what `load_selfprotect` does to the hook, one step after the other;
* `emitSelfprotectAlert`: the alert of a denied signal.
-/

namespace Kernelradar

open Library Bpf

/-- The first number of an `NSpid:` line. -/
def nspidOf (line : Text) : Option UInt32 :=
  (Text.stripPrefix line "NSpid:").bind fun rest =>
    (Text.splitWhitespace rest).head?.bind fun first =>
      (Net.parseU32 first).map UInt32.ofNat

/-- `host_tgid`: `status` is `/proc/self/status`, if it can be read, and `processId` what
`std::process::id()` returns. -/
def hostTgid (status : Option Text) (processId : UInt32) : UInt32 :=
  match status with
  | none => processId
  | some text => ((Text.lines text).findSome? nspidOf).getD processId

/-- A number in the format of an `i32`. -/
def signed (n : ℤ) : Text := if n < 0 then '-' :: decimal n.natAbs else decimal n.natAbs

lemma zero_lt_data : 0 < 4 := by decide

lemma one_lt_data : 1 < 4 := by decide

/-- `emit_selfprotect_alert`, up to `print_alert`. The executable is read without a look at
`comm`. -/
def emitSelfprotectAlert (sc : Scene) (ev : KrEvent) : Alert :=
  let comm := commStr ev
  let exe := sc.proc.exe
  let signal := (ev.data.get ⟨0, zero_lt_data⟩).toUInt32.toInt32.toInt
  let target := (ev.data.get ⟨1, one_lt_data⟩).toUInt32.toNat
  let title := "selfprotect: BLOCKED kill(sig=" ++ signed signal ++ ") of kernelradar tgid="
    ++ decimal target ++ " by " ++ comm
  let ctx := Json.obj [("blocked_signal", .num (signed signal)), ("target_tgid", .ofNat target),
    ("sender_comm", .str comm), ("sender_exe", .ofOption exe)]
  makeAlert sc.stamp ev exe "selfprotect" title ctx

namespace Lsm

/-- What `load_selfprotect` does to the hook: it is attached with a zero in its map, then the
process id is written; an error on the way drops the object, and the hook with it. -/
def selfprotectWrites (l : Loader) (k : Kernel) (comm : List UInt8) (path : Text) (tgid : UInt32) :
    List (Option UInt32) :=
  match (loadLsm l k comm path "selfprotect" "kr_task_kill").2 with
  | none => []
  | some bytes =>
      if !l.hasMap bytes "kr_protected_tgid" then [some 0, none]
      else if !l.hasMap bytes "kr_selfprotect_events" then [some 0, some tgid, none]
      else [some 0, some tgid]

end Lsm

end Kernelradar
