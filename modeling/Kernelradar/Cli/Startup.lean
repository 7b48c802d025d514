import Kernelradar.Core.Config
import Kernelradar.Detectors.Lsm
import Kernelradar.Integrity.Digest
import Kernelradar.Library.Machine

/-!
The start of the daemon: `install` on the main thread, then the detectors in tasks of
their own.

* `Probe`, `probes`: what the `run` of a detector loads, in the order of `run_daemon`;
* `Task`, `step`: main thread and tasks, in any order;
* `startup_permitted_iff`: when no load of the daemon is denied;
* `worker_denied`: a worker that is not in the list; `default_list_denies`.
-/

namespace Kernelradar

open Library Bpf Lsm

namespace Startup

variable {F : Type} [F64 F]

/-- The name of the main thread. -/
def mainName : Text := "kernelradar"

/-- The name of the threads of the runtime that `tokio::spawn` uses. -/
def workerName : Text := "tokio-rt-worker"

/-- A detector: its name, its key in the table of hashes, its object and the programs
`run` attaches one after the other. -/
structure Probe where
  name : Text
  table : Text
  object : Text
  programs : List Text

def privesc : Probe := ⟨"privesc", "privesc", "privesc.bpf.o", ["kr_tp_setuid", "kr_tp_setgid"]⟩

def bpfLoader : Probe := ⟨"bpf-loader", "bpf_loader", "bpf_loader.bpf.o", ["kr_tp_bpf_load"]⟩

def container : Probe :=
  ⟨"container", "container", "container.bpf.o", ["kr_tp_unshare", "kr_tp_setns"]⟩

def kmod : Probe := ⟨"kmod", "kmod", "kmod.bpf.o", ["kr_tp_finit_module", "kr_tp_init_module"]⟩

def fim : Probe := ⟨"fim", "fim", "fim.bpf.o", ["kr_tp_openat"]⟩

def network : Probe := ⟨"network", "network", "network.bpf.o", ["kr_tp_connect"]⟩

def injection : Probe :=
  ⟨"injection", "injection", "injection.bpf.o", ["kr_tp_ptrace", "kr_tp_pvm_writev"]⟩

def cred : Probe := ⟨"cred", "cred", "cred.bpf.o", ["kr_tp_openat_read"]⟩

/-- The detectors in the order in which `run_daemon` spawns them. -/
def probes : List Probe := [privesc, bpfLoader, container, kmod, fim, network, injection, cred]

/-- The argument of `install_lsm`. -/
def enforcementConfig (enf : EnforcementTomlConfig) (bpfDir : Text) : EnforcementConfig where
  selfprotectEnabled := enf.selfprotectEnabled
  bpfEnforceEnabled := enf.bpfEnforceEnabled
  kmodEnforceEnabled := enf.kmodEnforceEnabled
  selfprotectObjPath := bpfDir ++ "/selfprotect.bpf.o".toList
  bpfEnforceObjPath := bpfDir ++ "/enforce_bpf.bpf.o".toList
  kmodEnforceObjPath := bpfDir ++ "/enforce_kmod.bpf.o".toList
  bpfAllowlist := enf.bpfAllowlist
  kmodAllowlist := enf.kmodAllowlist

/-- `install_lsm_if_enabled`, by a thread with the name. -/
def installLsmIfEnabled (l : Loader) (comm : List UInt8) (cfg : Config F) (bpfDir : Text)
    (k : Kernel) : Kernel :=
  let enf := cfg.enforcement
  if enf.selfprotectEnabled || enf.bpfEnforceEnabled || enf.kmodEnforceEnabled then
    install l comm (enforcementConfig enf bpfDir) k
  else k

/-- The task of a detector: not begun, with an open object and the programs it still
starts, or without any further load. -/
inductive Task where
  | spawned (p : Probe)
  | loaded (bytes : List UInt8) (programs : List Text)
  | ended

/-- What a task does next: `TracepointDetector::load`, then `attach_tracepoint` for each
program until one fails. -/
def Task.turn (l : Loader) (bpfDir : Text) (k : Kernel) : Task → Kernel × Task
  | .spawned p =>
      match l.openObject p.table (bpfDir ++ '/' :: p.object) with
      | none => (k, .ended)
      | some bytes => (k, .loaded bytes p.programs)
  | .loaded _ [] => (k, .ended)
  | .loaded bytes (prog :: programs) =>
      let (k', ok) := l.startProgram k (Text.utf8 workerName) bytes prog
      (k', if ok then .loaded bytes programs else .ended)
  | .ended => (k, .ended)

/-- The kernel, the detectors the main thread has not come to yet, and the tasks. -/
structure State where
  kernel : Kernel
  todo : List Probe
  tasks : List Task

/-- Who goes on: the main thread, or one of the tasks. -/
inductive Act where
  | main
  | task (i : ℕ)

/-- The main thread at the beginning of `run_daemon`. -/
def start (l : Loader) (cfg : Config F) (bpfDir : Text) : State where
  kernel := installLsmIfEnabled l (Text.utf8 mainName) cfg bpfDir ⟨none, []⟩
  todo := probes
  tasks := []

/-- One step of the main thread (`spawn_detector!`) or of a task. -/
def step (l : Loader) (cfg : Config F) (bpfDir : Text) (s : State) : Act → State
  | .main =>
      match s.todo with
      | [] => s
      | p :: todo =>
          if cfg.detectorEnabled p.name then
            { s with todo := todo, tasks := s.tasks ++ [.spawned p] }
          else { s with todo := todo }
  | .task i =>
      match s.tasks[i]? with
      | none => s
      | some t =>
          let (k, t') := t.turn l bpfDir s.kernel
          { s with kernel := k, tasks := s.tasks.set i t' }

/-- The start as a machine; any order of the threads is admissible. -/
def machine (l : Loader) (cfg : Config F) (bpfDir : Text) : Machine State Act Unit where
  step s a := (step l cfg bpfDir s a, ())
  ok _ _ := True

/-- The detector comes to a load: its object is there and intact, and its first program
is in it. -/
def Loads (l : Loader) (bpfDir : Text) (p : Probe) : Prop :=
  ∃ bytes, l.openObject p.table (bpfDir ++ '/' :: p.object) = some bytes ∧
    ∃ prog ∈ p.programs.head?, l.hasProgram bytes prog = true

section Turns

variable {l : Loader} {bpfDir : Text} {k : Kernel}

/-- A turn changes nothing about the hook. -/
lemma Task.hook_turn (t : Task) : (t.turn l bpfDir k).1.hook = k.hook := by
  cases t with
  | spawned p =>
      rw [turn]
      cases l.openObject p.table (bpfDir ++ '/' :: p.object) <;> rfl
  | loaded bytes programs =>
      cases programs with
      | nil => rfl
      | cons prog programs => exact Kernel.hook_startProgram
  | ended => rfl

/-- While the workers are permitted, no turn makes a denied load. -/
lemma Task.permitted_turn (hk : k.Permitted) (h : k.answer (Text.utf8 workerName) = 0)
    (t : Task) : (t.turn l bpfDir k).1.Permitted := by
  cases t with
  | spawned p =>
      rw [turn]
      cases l.openObject p.table (bpfDir ++ '/' :: p.object) <;> exact hk
  | loaded bytes programs =>
      cases programs with
      | nil => exact hk
      | cons prog programs => exact Kernel.permitted_startProgram hk fun _ => h
  | ended => exact hk

/-- A task that comes to no load. -/
def Task.Idle (l : Loader) (bpfDir : Text) : Task → Prop
  | .spawned p => ¬Loads l bpfDir p
  | .loaded bytes programs => ∀ prog ∈ programs.head?, l.hasProgram bytes prog = false
  | .ended => True

/-- Such a task leaves the kernel alone, now and later. -/
lemma Task.idle_turn {t : Task} (h : t.Idle l bpfDir) :
    (t.turn l bpfDir k).1 = k ∧ (t.turn l bpfDir k).2.Idle l bpfDir := by
  cases t with
  | spawned p =>
      rw [turn]
      cases hopen : l.openObject p.table (bpfDir ++ '/' :: p.object) with
      | none => exact ⟨rfl, trivial⟩
      | some bytes =>
          refine ⟨rfl, fun prog hprog => ?_⟩
          exact Bool.eq_false_iff.mpr fun hhas => h ⟨bytes, hopen, prog, hprog, hhas⟩
  | loaded bytes programs =>
      cases programs with
      | nil => exact ⟨rfl, trivial⟩
      | cons prog programs =>
          rw [turn, Kernel.startProgram_of_not (h prog rfl)]
          exact ⟨rfl, trivial⟩
  | ended => exact ⟨rfl, trivial⟩

end Turns

section Runs

variable {l : Loader} {cfg : Config F} {bpfDir : Text}

lemma step_task {s : State} {i : ℕ} {t : Task} (h : s.tasks[i]? = some t) :
    step l cfg bpfDir s (.task i) = { s with
      kernel := (t.turn l bpfDir s.kernel).1
      tasks := s.tasks.set i (t.turn l bpfDir s.kernel).2 } := by
  rw [step, h]

lemma step_main {s : State} {p : Probe} {todo : List Probe} (h : s.todo = p :: todo) :
    step l cfg bpfDir s .main = { s with
      todo := todo
      tasks := s.tasks ++ if cfg.detectorEnabled p.name then [.spawned p] else [] } := by
  rw [step, h]
  dsimp only
  split_ifs
  · rfl
  · rw [List.append_nil]

lemma kernel_main (s : State) : (step l cfg bpfDir s .main).kernel = s.kernel := by
  cases htodo : s.todo with
  | nil => rw [step, htodo]
  | cons p todo => rw [step_main htodo]

/-- While the workers are permitted, every order of the threads goes without a denied
load. -/
lemma permitted_after {s : State} (hk : s.kernel.Permitted)
    (h : s.kernel.answer (Text.utf8 workerName) = 0) (acts : List Act) :
    ((machine l cfg bpfDir).after s acts).kernel.Permitted := by
  refine ((machine l cfg bpfDir).invariant
    (I := fun s => s.kernel.Permitted ∧ s.kernel.answer (Text.utf8 workerName) = 0)
    (fun s a ⟨hk, h⟩ _ => ?_) ⟨hk, h⟩
    ((machine l cfg bpfDir).valid_of_ok (fun _ _ => trivial) acts s)).1
  change (step l cfg bpfDir s a).kernel.Permitted ∧
    (step l cfg bpfDir s a).kernel.answer (Text.utf8 workerName) = 0
  cases a with
  | main =>
      rw [kernel_main]
      exact ⟨hk, h⟩
  | task i =>
      cases hi : s.tasks[i]? with
      | none =>
          rw [step, hi]
          exact ⟨hk, h⟩
      | some t =>
          rw [step_task hi]
          refine ⟨t.permitted_turn hk h, ?_⟩
          rw [Kernel.answer, t.hook_turn]
          exact h

/-- No task and no detector to come makes a load. -/
def AllIdle (l : Loader) (cfg : Config F) (bpfDir : Text) (s : State) : Prop :=
  (∀ p ∈ s.todo, cfg.detectorEnabled p.name = true → ¬Loads l bpfDir p) ∧
    ∀ t ∈ s.tasks, t.Idle l bpfDir

/-- Then the kernel stays as it is. -/
lemma kernel_after {s : State} (h : AllIdle l cfg bpfDir s) (acts : List Act) :
    ((machine l cfg bpfDir).after s acts).kernel = s.kernel := by
  refine ((machine l cfg bpfDir).invariant
    (I := fun s' => s'.kernel = s.kernel ∧ AllIdle l cfg bpfDir s')
    (fun s' a ⟨hk, htodo, htasks⟩ _ => ?_) ⟨rfl, h⟩
    ((machine l cfg bpfDir).valid_of_ok (fun _ _ => trivial) acts s)).1
  change (step l cfg bpfDir s' a).kernel = s.kernel ∧
    AllIdle l cfg bpfDir (step l cfg bpfDir s' a)
  cases a with
  | main =>
      refine ⟨(kernel_main s').trans hk, ?_⟩
      cases hs : s'.todo with
      | nil =>
          rw [step, hs]
          exact ⟨htodo, htasks⟩
      | cons p todo =>
          rw [hs] at htodo
          rw [step_main hs]
          refine ⟨fun q hq => htodo q (List.mem_cons_of_mem p hq), fun t ht => ?_⟩
          rcases List.mem_append.mp ht with hold | hnew
          · exact htasks t hold
          · split_ifs at hnew with henabled
            · rw [List.mem_singleton.mp hnew]
              exact htodo p List.mem_cons_self henabled
            · cases hnew
  | task i =>
      cases hi : s'.tasks[i]? with
      | none =>
          rw [step, hi]
          exact ⟨hk, htodo, htasks⟩
      | some t =>
          obtain ⟨hkernel, hidle⟩ := Task.idle_turn (k := s'.kernel)
            (htasks t (List.mem_of_getElem? hi))
          rw [step_task hi]
          refine ⟨hkernel.trans hk, htodo, fun t' ht' => ?_⟩
          rcases List.mem_or_eq_of_mem_set ht' with hold | rfl
          · exact htasks t' hold
          · exact hidle

/-- The main thread, as long as it has detectors to spawn. -/
lemma after_main (l : Loader) (cfg : Config F) (bpfDir : Text) (todo : List Probe) :
    ∀ s : State, s.todo = todo →
      (machine l cfg bpfDir).after s (List.replicate todo.length .main) = { s with
        todo := []
        tasks := s.tasks ++ (todo.filter fun p => cfg.detectorEnabled p.name).map .spawned } := by
  induction todo with
  | nil =>
      intro ⟨kernel, todo, tasks⟩ hs
      obtain rfl : todo = [] := hs
      rw [List.filter_nil, List.map_nil, List.append_nil]
      rfl
  | cons p todo ih =>
      intro s hs
      have hstep : ((machine l cfg bpfDir).step s .main).1 = step l cfg bpfDir s .main := rfl
      rw [List.length_cons, List.replicate_succ, Machine.after_cons, hstep, step_main hs, ih _ rfl,
        List.append_assoc, List.filter_cons]
      split_ifs <;> rfl

/-- A task that comes to a load makes it in its second turn. -/
lemma exists_load (cfg : Config F) {s : State} {i : ℕ} {p : Probe}
    (hi : s.tasks[i]? = some (.spawned p)) (hloads : Loads l bpfDir p) : ∃ prog,
      (⟨Text.utf8 workerName, prog, s.kernel.answer (Text.utf8 workerName)⟩ : Load) ∈
        ((machine l cfg bpfDir).after s [.task i, .task i]).kernel.loads := by
  obtain ⟨bytes, hopen, prog, hprog, hhas⟩ := hloads
  obtain ⟨programs, hprograms⟩ := List.head?_eq_some_iff.mp hprog
  have hfirst : step l cfg bpfDir s (.task i)
      = { s with tasks := s.tasks.set i (.loaded bytes (prog :: programs)) } := by
    rw [step_task hi, Task.turn, hopen, ← hprograms]
  have hset : (step l cfg bpfDir s (.task i)).tasks[i]?
      = some (.loaded bytes (prog :: programs)) := by
    rw [hfirst]
    exact List.getElem?_set_self (List.getElem?_eq_some_iff.mp hi).1
  refine ⟨prog, ?_⟩
  change _ ∈ (step l cfg bpfDir (step l cfg bpfDir s (.task i)) (.task i)).kernel.loads
  rw [step_task hset, Task.turn, hfirst]
  dsimp only
  rw [Kernel.loads_startProgram hhas]
  exact List.mem_append_right _ List.mem_cons_self

end Runs

lemma usable_mainName : Usable mainName := by decide

lemma usable_workerName : Usable workerName := by decide

section Start

variable {l : Loader} {cfg : Config F} {bpfDir : Text}

/-- The kernel when `run_daemon` begins. -/
lemma kernel_start (l : Loader) (bpfDir : Text)
    (henabled : cfg.enforcement.bpfEnforceEnabled = true)
    (hself : mainName ∈ cfg.enforcement.bpfAllowlist) :
    (start l cfg bpfDir).kernel.Permitted ∧
      (Attached l (enforcementConfig cfg.enforcement bpfDir) →
        Hooked (start l cfg bpfDir).kernel cfg.enforcement.bpfAllowlist) ∧
      (¬Attached l (enforcementConfig cfg.enforcement bpfDir) →
        (start l cfg bpfDir).kernel.hook = none) := by
  have hsome : (cfg.enforcement.selfprotectEnabled || cfg.enforcement.bpfEnforceEnabled ||
      cfg.enforcement.kmodEnforceEnabled) = true := by
    rw [henabled, Bool.or_true, Bool.true_or]
  have hkernel : (start l cfg bpfDir).kernel = install l (Text.utf8 mainName)
      (enforcementConfig cfg.enforcement bpfDir) ⟨none, []⟩ := by
    rw [start, installLsmIfEnabled, if_pos hsome]
  rw [hkernel]
  exact install_spec usable_mainName hself (fun _ h => by cases h) rfl

/-- A worker whose name is not in the list is denied under the hook. -/
lemma worker_denied (henabled : cfg.enforcement.bpfEnforceEnabled = true)
    (hself : mainName ∈ cfg.enforcement.bpfAllowlist)
    (hattached : Attached l (enforcementConfig cfg.enforcement bpfDir))
    (hworker : workerName ∉ cfg.enforcement.bpfAllowlist) {p : Probe} (hp : p ∈ probes)
    (hon : cfg.detectorEnabled p.name = true) (hloads : Loads l bpfDir p) :
    ∃ acts, ¬((machine l cfg bpfDir).after (start l cfg bpfDir) acts).kernel.Permitted := by
  have hooked := (kernel_start l bpfDir henabled hself).2.1 hattached
  have hdenied : (start l cfg bpfDir).kernel.answer (Text.utf8 workerName) ≠ 0 := fun h =>
    hworker (mem_of_commKey_mem_keys (by decide) (by decide) ((hooked.answer_eq_zero _).mp h))
  -- the main thread spawns everything, then the task has its two turns
  have hmain := after_main l cfg bpfDir probes (start l cfg bpfDir) rfl
  have hspawned : Task.spawned p ∈ (start l cfg bpfDir).tasks ++
      (probes.filter fun p => cfg.detectorEnabled p.name).map .spawned :=
    List.mem_append_right _ (List.mem_map_of_mem (List.mem_filter.mpr ⟨hp, hon⟩))
  obtain ⟨i, hi⟩ := List.mem_iff_getElem?.mp hspawned
  obtain ⟨prog, hload⟩ := exists_load cfg (s := { start l cfg bpfDir with
      todo := []
      tasks := (start l cfg bpfDir).tasks ++
        (probes.filter fun p => cfg.detectorEnabled p.name).map .spawned }) hi hloads
  refine ⟨List.replicate probes.length .main ++ [.task i, .task i], fun hperm => hdenied ?_⟩
  rw [Machine.after_append, hmain] at hperm
  exact hperm _ hload

/-- **When the daemon can load its own programs.** No load of the daemon is denied, in any
order of its threads, exactly if the hook is not attached, or no enabled detector comes to a
load, or the name of the runtime's threads is in the list. -/
theorem startup_permitted_iff (l : Loader) (cfg : Config F) (bpfDir : Text)
    (henabled : cfg.enforcement.bpfEnforceEnabled = true)
    (hself : mainName ∈ cfg.enforcement.bpfAllowlist) :
    (∀ acts, ((machine l cfg bpfDir).after (start l cfg bpfDir) acts).kernel.Permitted) ↔
      ¬Attached l (enforcementConfig cfg.enforcement bpfDir) ∨
        (∀ p ∈ probes, cfg.detectorEnabled p.name = true → ¬Loads l bpfDir p) ∨
          workerName ∈ cfg.enforcement.bpfAllowlist := by
  obtain ⟨hk, hattached, hdropped⟩ := kernel_start l bpfDir henabled hself
  constructor
  · intro hall
    by_contra hcon
    obtain ⟨hatt, hrest⟩ := not_or.mp hcon
    obtain ⟨hloads, hworker⟩ := not_or.mp hrest
    push Not at hloads
    obtain ⟨p, hp, hon, hload⟩ := hloads
    obtain ⟨acts, hacts⟩ :=
      worker_denied henabled hself (not_not.mp hatt) hworker hp hon hload
    exact hacts (hall acts)
  · rintro (hnot | hidle | hworker) acts
    · exact permitted_after hk (Kernel.answer_of_none (hdropped hnot) _) acts
    · rw [kernel_after ⟨hidle, fun _ h => by cases h⟩ acts]
      exact hk
    · exact permitted_after hk
        (answer_of_listed usable_workerName hworker hattached hdropped) acts

end Start

/-- Everything is in place: the objects as they were built, and a kernel that takes them. -/
def intact : Loader where
  btf := true
  read _ := some [0x7f, 0x45, 0x4c, 0x46]
  hashes := Build.bpfHashes fun _ => some [0x7f, 0x45, 0x4c, 0x46]
  strict := true
  parses _ := true
  hasProgram _ _ := true
  verifies _ _ := true
  attaches _ _ := true
  hasMap _ _ := true

lemma openObject_intact {name : Text} (h : name ∈ Build.names) (path : Text) :
    intact.openObject name path = some [0x7f, 0x45, 0x4c, 0x46] := by
  have hverify : Integrity.verify (Build.bpfHashes fun _ => some [0x7f, 0x45, 0x4c, 0x46]) true
      name [0x7f, 0x45, 0x4c, 0x46] = .ok () := Sha.verify_built h rfl
  rw [Loader.openObject, intact]
  dsimp only
  rw [hverify]
  rfl

/-- A configuration that enforces. -/
def enforcing (allowlist : List Text) : Config ℚ where
  enforcement := { bpfEnforceEnabled := true, bpfAllowlist := allowlist }

/-- With the runtime's threads in the list the daemon starts as it should. -/
theorem startup_permitted_listed :
    let cfg := enforcing [mainName, workerName]
    ((machine intact cfg "/bpf").after (start intact cfg "/bpf")
      [.main, .main, .task 1, .task 0, .task 0, .task 1]).kernel.Permitted :=
  (startup_permitted_iff intact (enforcing [mainName, workerName]) "/bpf" rfl (by decide)).mpr
    (Or.inr (Or.inr (by decide))) _

/-- With the default list the first detector is denied. -/
theorem default_list_denies : ¬∀ (l : Loader) (cfg : Config ℚ) (bpfDir : Text),
    cfg.enforcement.bpfEnforceEnabled = true → mainName ∈ cfg.enforcement.bpfAllowlist →
      ∀ acts, ((machine l cfg bpfDir).after (start l cfg bpfDir) acts).kernel.Permitted := by
  intro h
  let cfg := enforcing ["bpftrace", "falco", "kernelradar"]
  have hroom : (keys cfg.enforcement.bpfAllowlist).card ≤ maxEntries := by decide
  have hattached : Attached intact (enforcementConfig cfg.enforcement "/bpf") :=
    ⟨rfl, rfl, _, openObject_intact (by decide) _, rfl, rfl, hroom⟩
  have hloads : Loads intact "/bpf" privesc :=
    ⟨_, openObject_intact (by decide) _, "kr_tp_setuid", rfl, rfl⟩
  have hself : mainName ∈ cfg.enforcement.bpfAllowlist := by decide
  have hworker : workerName ∉ cfg.enforcement.bpfAllowlist := by decide
  obtain ⟨acts, hacts⟩ := worker_denied rfl hself hattached hworker List.mem_cons_self rfl hloads
  exact hacts (h intact cfg "/bpf" rfl hself acts)

end Startup

end Kernelradar
