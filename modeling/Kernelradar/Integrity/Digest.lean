import Kernelradar.Detectors.Integrity
import Kernelradar.Library.Sha256

/-!
What the integrity check accepts.

* `K_spec`, `initial_spec`: the tables are the roots of the primes;
* `word_spec`, `scheduled_expand`, `round_spec`: a word, the schedule, a round;
* `vars_chunkStep`: a chunk is a block of the standard;
* `padZeros_turns`: the padding loop ends; `bitsOf_padded`: with the standard's padding;
* `sha256_accepts`: both copies compute the digest, and what `verify` accepts.
-/

namespace Kernelradar

open Library

namespace Sha

/-! ### The tables -/

/-- The first sixty-four primes. -/
def primes : Vector ℕ 64 := #v[2, 3, 5, 7, 11, 13, 17, 19, 23, 29, 31, 37, 41, 43, 47, 53, 59, 61,
  67, 71, 73, 79, 83, 89, 97, 101, 103, 107, 109, 113, 127, 131, 137, 139, 149, 151, 157, 163, 167,
  173, 179, 181, 191, 193, 197, 199, 211, 223, 227, 229, 233, 239, 241, 251, 257, 263, 269, 271,
  277, 281, 283, 293, 307, 311]

/-- No divisor from 2 to 17 but the number itself: all that primality asks below `18 ^ 2`. -/
def Sieved (n : ℕ) : Prop := 2 ≤ n ∧ ∀ m < 18, 2 ≤ m → n % m = 0 → m = n

instance : DecidablePred Sieved := fun n => by
  unfold Sieved
  infer_instance

lemma prime_iff_sieved {n : ℕ} (hn : n < 324) : n.Prime ↔ Sieved n := by
  constructor
  · refine fun hp => ⟨hp.two_le, fun m _ hm hmod => ?_⟩
    exact (hp.eq_one_or_self_of_dvd m (Nat.dvd_of_mod_eq_zero hmod)).resolve_left (by omega)
  · rintro ⟨htwo, hsieve⟩
    refine Nat.prime_def_le_sqrt.mpr ⟨htwo, fun m hm hroot hdvd => ?_⟩
    have hsqrt : Nat.sqrt n < 18 := Nat.sqrt_lt.mpr hn
    have heq := hsieve m (by omega) hm (Nat.mod_eq_zero_of_dvd hdvd)
    have hself := Nat.sqrt_lt_self (by omega : 1 < n)
    omega

lemma sieved_primes : ∀ t : Fin 64, primes[t] < 324 ∧ Nat.count Sieved primes[t] = t ∧
    Sieved primes[t] := by
  decide +kernel

lemma nth_prime (t : Fin 64) : Nat.nth Nat.Prime t = primes[t] := by
  obtain ⟨hlt, hsieved, hprime⟩ := sieved_primes t
  have hcount : Nat.count Nat.Prime primes[t] = t := by
    calc Nat.count Nat.Prime primes[t] = Nat.count _ primes[t] := by
          refine le_antisymm ?_ ?_
          · exact Nat.count_mono_left fun k hk => (prime_iff_sieved (hk.trans hlt)).mp
          · exact Nat.count_mono_left fun k hk => (prime_iff_sieved (hk.trans hlt)).mpr
      _ = t := hsieved
  have hnth := Nat.nth_count ((prime_iff_sieved hlt).mpr hprime)
  rwa [hcount] at hnth

/-- The word has the bits behind the point of a `k`-th root of `p`. -/
def IsRoot (k p : ℕ) (x : UInt32) : Prop :=
  ∃ m < 32, (m * 2 ^ 32 + x.toNat) ^ k ≤ p * (2 ^ 32) ^ k ∧
    p * (2 ^ 32) ^ k < (m * 2 ^ 32 + x.toNat + 1) ^ k

instance (k p : ℕ) (x : UInt32) : Decidable (IsRoot k p x) := by
  unfold IsRoot
  infer_instance

lemma IsRoot.eq_fracBits {k p : ℕ} {x : UInt32} (h : IsRoot k p x) (hk : k ≠ 0) :
    x.toBitVec = Sha256.fracBits ((p : ℝ) ^ (1 / (k : ℝ))) := by
  obtain ⟨m, -, hlow, hhigh⟩ := h
  rw [Sha256.fracBits_root hk hlow hhigh]
  apply BitVec.eq_of_toNat_eq
  rw [BitVec.toNat_ofNat, Nat.mul_add_mod_self_right, UInt32.toNat_toBitVec,
    Nat.mod_eq_of_lt x.toNat_lt]

lemma isRoot_K : ∀ t : Fin 64, IsRoot 3 primes[t] Integrity.K[t] := by decide +kernel

lemma isRoot_initial : ∀ j : Fin 8, IsRoot 2 primes[j.val] Integrity.initial[j] := by
  decide +kernel

lemma K_spec (t : ℕ) (ht : t < 64) : Integrity.K[t].toBitVec = Sha256.K t := by
  have hroot := (isRoot_K ⟨t, ht⟩).eq_fracBits three_ne_zero
  have hprime : Nat.nth Nat.Prime t = primes[t] := nth_prime ⟨t, ht⟩
  rw [Nat.cast_ofNat] at hroot
  rw [Sha256.K, hprime]
  exact hroot

/-- The local variables. -/
def Working.vars (v : Working) : Sha256.Vars :=
  ⟨v.a.toBitVec, v.b.toBitVec, v.c.toBitVec, v.d.toBitVec, v.e.toBitVec, v.f.toBitVec,
    v.g.toBitVec, v.hh.toBitVec⟩

/-- The eight words of a hash. -/
def vars (h : Vector UInt32 8) : Sha256.Vars := (Working.ofHash h).vars

lemma initial_spec : vars Integrity.initial = Sha256.initial := by
  have hword (j : ℕ) (hj : j < 8) : Integrity.initial[j].toBitVec
      = Sha256.fracBits ((Nat.nth Nat.Prime j : ℝ) ^ (1 / 2 : ℝ)) := by
    have hroot := (isRoot_initial ⟨j, hj⟩).eq_fracBits two_ne_zero
    have hprime : Nat.nth Nat.Prime j = primes[j] := nth_prime ⟨j, by omega⟩
    rw [Nat.cast_ofNat] at hroot
    rw [hprime]
    exact hroot
  rw [vars, Working.vars, Working.ofHash, Sha256.initial, hword 0, hword 1, hword 2, hword 3,
    hword 4, hword 5, hword 6, hword 7]

/-! ### A word, the schedule, a round -/

lemma fromBeBytes_spec (b : Vector UInt8 4) :
    (fromBeBytes b).toBitVec = BitVec.ofNat 32 (ofBits (bitsOf b.toList)) := by
  rw [fromBeBytes, ofBits_bitsOf]
  rfl

/-- Word `i` of a chunk. -/
lemma word_spec (chunk : Vector UInt8 64) (i : ℕ) (hi : i < 16) :
    (Integrity.word chunk i hi).toBitVec
      = BitVec.ofNat 32 (ofBits (((bitsOf chunk.toList).drop (32 * i)).take 32)) := by
  have hbytes : ((chunk.extract (i * 4) (i * 4 + 4)).cast (by omega) : Vector UInt8 4).toList
      = (chunk.toList.drop (4 * i)).take 4 := by
    rw [Vector.toList_cast, Vector.toList_extract, Nat.add_sub_cancel_left, Nat.mul_comm]
  have hplace : 32 * i = 8 * (4 * i) := by ring
  rw [Integrity.word, fromBeBytes_spec, hbytes, hplace, drop_bitsOf, ← take_bitsOf 4]

/-- The two ways to read a word are the same. -/
lemma build_word : Build.word = Integrity.word := by
  funext chunk i hi
  rw [Build.word, Integrity.word]
  congr 1
  ext j hj
  rw [Vector.getElem_cast, Vector.getElem_extract]
  match j, hj with
  | 0, _ => rfl
  | 1, _ => rfl
  | 2, _ => rfl
  | 3, _ => rfl

/-- The first `n` entries are the schedule of the block. -/
def Scheduled (m : ℕ → Sha256.Word) (n : ℕ) (w : Vector UInt32 64) : Prop :=
  ∀ t (ht : t < 64), t < n → w[t].toBitVec = Sha256.schedule m t

lemma scheduled_load {m : ℕ → Sha256.Word} {word : Vector UInt8 64 → (i : ℕ) → i < 16 → UInt32}
    {chunk : Vector UInt8 64} (h : ∀ i hi, (word chunk i hi).toBitVec = m i) :
    Scheduled m 16 (load word chunk) := by
  -- after `n` turns the first `n` entries are the words of the chunk
  have hturns : ∀ n (hn : n ≤ 16), Scheduled m n (Nat.fold n
      (fun i hi w => w.set i (word chunk i (hi.trans_le hn))) (Vector.replicate 64 0)) := by
    intro n
    induction n with
    | zero => exact fun _ t _ htn => absurd htn (Nat.not_lt_zero t)
    | succ n ih =>
        intro hn t ht htn
        rw [Nat.fold_succ, Vector.getElem_set]
        split_ifs with hnt
        · subst hnt
          rw [h, Sha256.schedule, if_pos (Nat.lt_of_succ_le hn)]
        · exact ih (Nat.le_of_succ_le hn) t ht (by omega)
  exact hturns 16 le_rfl

/-- The standard adds the four words the other way round. -/
lemma schedule_sum (x y z u : Sha256.Word) : x + y + z + u = u + z + y + x := by
  rw [BitVec.add_comm (x + y + z), BitVec.add_comm (x + y), BitVec.add_comm x, ← BitVec.add_assoc,
    ← BitVec.add_assoc]

lemma scheduled_expandStep {m : ℕ → Sha256.Word} {i : ℕ} (hlow : 16 ≤ i) (hi : i < 64)
    {w : Vector UInt32 64} (h : Scheduled m i w) :
    Scheduled m (i + 1) (expandStep i hlow hi w) := by
  intro t ht htn
  rw [expandStep, Vector.getElem_set]
  split_ifs with hit
  · subst hit
    rw [Sha256.schedule, if_neg (Nat.not_lt.mpr hlow), ← h (i - 2) (by omega) (by omega),
      ← h (i - 7) (by omega) (by omega), ← h (i - 15) (by omega) (by omega),
      ← h (i - 16) (by omega) (by omega), schedule_sum]
    rfl
  · exact h t ht (by omega)

lemma scheduled_expand {m : ℕ → Sha256.Word} {w : Vector UInt32 64} (h : Scheduled m 16 w) :
    Scheduled m 64 (expand w) := by
  have hturns : ∀ n (hn : n ≤ 48), Scheduled m (16 + n) (Nat.fold n
      (fun j hj w => expandStep (16 + j) (by omega) (by omega) w) w) := by
    intro n
    induction n with
    | zero => exact fun _ => h
    | succ n ih =>
        intro hn
        rw [Nat.fold_succ]
        exact scheduled_expandStep _ _ (ih (Nat.le_of_succ_le hn))
  exact hturns 48 le_rfl

lemma round_spec (k w : UInt32) (v : Working) :
    (round k w v).vars = Sha256.round k.toBitVec w.toBitVec v.vars := by
  rfl

/-- The third loop makes the rounds of the standard. -/
lemma vars_rounds {m : ℕ → Sha256.Word} {w : Vector UInt32 64} (h : Scheduled m 64 w)
    (v : Working) (n : ℕ) (hn : n ≤ 64) :
    (Nat.fold n (fun i _ v => round Integrity.K[i] w[i] v) v).vars
      = Sha256.rounds (Sha256.schedule m) v.vars n := by
  induction n with
  | zero => rfl
  | succ n ih =>
      rw [Nat.fold_succ, round_spec, ih (Nat.le_of_succ_le hn), K_spec, h n hn hn, Sha256.rounds]

/-! ### The blocks -/

/-- A chunk with the words of a block does what the block does. -/
lemma vars_chunkStep {m : ℕ → Sha256.Word} {chunk : Vector UInt8 64}
    (hm : ∀ j hj, (Integrity.word chunk j hj).toBitVec = m j) (h : Vector UInt32 8) :
    vars (chunkStep Integrity.K Integrity.word h chunk)
      = (Sha256.rounds (Sha256.schedule m) (vars h) 64).add (vars h) := by
  have hrounds := vars_rounds (scheduled_expand (scheduled_load hm)) (Working.ofHash h) 64 le_rfl
  rw [vars, vars, ← hrounds, Sha256.Vars.add_comm]
  rfl

/-- Word `j` of chunk `i` is word `j` of block `i`. -/
lemma blockWord_chunk {padded : List UInt8} {i j : ℕ} (hi : i < (chunksExact 64 padded).length)
    (hj : j < 16) : (Integrity.word (chunksExact 64 padded)[i] j hj).toBitVec
      = Sha256.blockWord (bitsOf padded) i j := by
  have hblock : bitsOf (chunksExact 64 padded)[i].toList
      = ((bitsOf padded).drop (512 * i)).take 512 := by
    have hplace : 512 * i = 8 * (64 * i) := by ring
    rw [chunksExact_get, hplace, drop_bitsOf, ← take_bitsOf 64]
  have hroom : min 32 (512 - 32 * j) = 32 := by omega
  rw [word_spec, hblock, List.drop_take, List.take_take, List.drop_drop, hroom]
  rfl

/-- The chunks one after the other. -/
lemma vars_blocks (padded : List UInt8) (n : ℕ) (hn : n ≤ (chunksExact 64 padded).length) :
    vars (((chunksExact 64 padded).take n).foldl (chunkStep Integrity.K Integrity.word)
      Integrity.initial) = Sha256.hashValue (bitsOf padded) n := by
  induction n with
  | zero => exact initial_spec
  | succ n ih =>
      rw [← List.take_concat_get' _ n hn, List.foldl_append, List.foldl_cons, List.foldl_nil,
        vars_chunkStep fun j hj => blockWord_chunk hn hj, ih (Nat.le_of_succ_le hn),
        Sha256.hashValue]

lemma toList_eq (h : Vector UInt32 8) :
    let v := Working.ofHash h
    h.toList = [v.a, v.b, v.c, v.d, v.e, v.f, v.g, v.hh] := by
  obtain ⟨⟨l⟩, hl⟩ := h
  match l, hl with
  | [x₀, x₁, x₂, x₃, x₄, x₅, x₆, x₇], _ => rfl

/-- The bytes of the result are the words of the hash. -/
lemma bitsOf_out (h : Vector UInt32 8) : bitsOf (h.flatMap toBeBytes).toList = (vars h).bits := by
  have hlist : (h.flatMap toBeBytes).toList = h.toList.flatMap fun x => (toBeBytes x).toList :=
    Array.toList_flatMap
  have hword (x : UInt32) : bitsOf (toBeBytes x).toList = toBits 32 x.toNat :=
    bitsOf_beBytes 4 x.toNat
  rw [hlist, toList_eq]
  simp only [List.flatMap_cons, List.flatMap_nil, bitsOf_append, bitsOf_nil, hword]
  rfl

/-! ### The padding -/

/-- How many zeros the loop pushes. -/
def zeros (l : ℕ) : ℕ := (120 - l % 64) % 64

/-- The loop ends after `zeros` turns. -/
lemma padZeros_eq (padded : List UInt8) :
    padZeros padded = padded ++ List.replicate (zeros padded.length) 0 := by
  fun_induction padZeros padded with
  | case1 padded h ih =>
      have hone : zeros padded.length = zeros (padded ++ [0]).length + 1 := by
        rw [zeros, zeros, List.length_append, List.length_singleton]
        omega
      rw [ih, hone, List.append_assoc, List.replicate_succ, List.singleton_append]
  | case2 padded h =>
      have hzero : zeros padded.length = 0 := by
        rw [zeros]
        omega
      rw [hzero, List.replicate_zero, List.append_nil]

/-- The turns of the loop: it runs while the test holds, and the test fails after at
most 63 zeros. -/
lemma padZeros_turns (padded : List UInt8) : ∃ n ≤ 63,
    (∀ m < n, ((· ++ [0])^[m] padded).length % 64 ≠ 56) ∧
      ((· ++ [0])^[n] padded).length % 64 = 56 ∧ padZeros padded = (· ++ [0])^[n] padded := by
  have hturns (m : ℕ) : (· ++ [0])^[m] padded = padded ++ List.replicate m (0 : UInt8) := by
    induction m with
    | zero => exact (List.append_nil padded).symm
    | succ m ih =>
        rw [Function.iterate_succ_apply', ih, List.append_assoc, List.replicate_succ']
  have hlen (m : ℕ) : ((· ++ [0])^[m] padded).length = padded.length + m := by
    rw [hturns, List.length_append, List.length_replicate]
  refine ⟨zeros padded.length, ?_, fun m hm => ?_, ?_, ?_⟩
  · rw [zeros]
    omega
  · rw [hlen]
    rw [zeros] at hm
    omega
  · rw [hlen, zeros]
    omega
  · rw [hturns, padZeros_eq]

/-- The padding of both copies is the padding of the standard. -/
lemma bitsOf_padded (data : List UInt8) (h : data.length < 2 ^ 61) :
    bitsOf (padZeros (data ++ [0x80]) ++ beBytes 8 (UInt64.ofNat data.length * 8).toNat)
      = Sha256.pad (.ofBytes data h) := by
  have hlen : (data ++ [(0x80 : UInt8)]).length = data.length + 1 := List.length_append
  have hone : bitsOf [0x80] = true :: List.replicate 7 false := rfl
  have hzeros : Sha256.padding (8 * data.length) = 7 + 8 * zeros (data.length + 1) := by
    apply Sha256.padding_eq <;> rw [zeros] <;> omega
  have hbits : (UInt64.ofNat data.length * 8).toNat = 8 * data.length % 2 ^ 64 := by
    rw [UInt64.toNat_mul, UInt64.toNat_ofNat', Nat.mod_mul_mod, Nat.mul_comm]
    rfl
  calc bitsOf (padZeros (data ++ [0x80]) ++ beBytes 8 (UInt64.ofNat data.length * 8).toNat)
      = bitsOf data ++ bitsOf [0x80] ++ List.replicate (8 * zeros (data.length + 1)) false ++
          toBits 64 (8 * data.length) := by
        rw [padZeros_eq, hlen, hbits, bitsOf_append, bitsOf_append, bitsOf_append, bitsOf_zeros,
          bitsOf_beBytes, toBits_mod le_rfl]
    _ = bitsOf data ++
          true :: List.replicate (Sha256.padding (8 * data.length)) false ++
          toBits 64 (8 * data.length) := by
        rw [hone, hzeros, List.replicate_add, List.append_assoc (bitsOf data), List.cons_append]
    _ = Sha256.pad (.ofBytes data h) := by
        rw [Sha256.pad, Sha256.Message.ofBytes, bitsOf_length]

/-- **A copy is the standard**: the copy of `integrity.rs` computes the digest. -/
lemma bitsOf_sha256Bytes (data : List UInt8) (h : data.length < 2 ^ 61) :
    bitsOf (Integrity.sha256Bytes data).toList = Sha256.digest (.ofBytes data h) := by
  set padded := padZeros (data ++ [0x80]) ++ beBytes 8 (UInt64.ofNat data.length * 8).toNat
    with hpadded
  have hblocks : (bitsOf padded).length / 512 = (chunksExact 64 padded).length := by
    rw [bitsOf_length, chunksExact_length]
    omega
  have hall := vars_blocks padded _ le_rfl
  rw [List.take_length] at hall
  calc bitsOf (Integrity.sha256Bytes data).toList
      = (vars ((chunksExact 64 padded).foldl (chunkStep Integrity.K Integrity.word)
          Integrity.initial)).bits := bitsOf_out _
    _ = (Sha256.hashValue (bitsOf padded) ((bitsOf padded).length / 512)).bits := by
        rw [hall, hblocks]
    _ = Sha256.digest (.ofBytes data h) := by rw [Sha256.digest, hpadded, bitsOf_padded data h]

/-- The other copy is the same function. -/
lemma build_sha256Bytes (data : List UInt8) :
    Build.sha256Bytes data = Integrity.sha256Bytes data := by
  rw [Build.sha256Bytes, Integrity.sha256Bytes, build_word]
  rfl

/-! ### The check -/

lemma hexOf_bitsOf (bs : List UInt8) : hexOf (bitsOf bs) = bs.flatMap hexByte := by
  induction bs with
  | nil => rfl
  | cons b bs ih =>
      have hb : b.toNat / 2 ^ 4 % 16 = b.toNat / 16 :=
        Nat.mod_eq_of_lt (Nat.div_lt_of_lt_mul b.toNat_lt)
      rw [bitsOf_cons, toBits_add 4 4, List.append_assoc, hexOf_toBits, hexOf_toBits, ih, hb]
      rfl

/-- The text of a hash is the digest in hexadecimal. -/
lemma sha256Hex_spec (data : List UInt8) (h : data.length < 2 ^ 61) :
    Integrity.sha256Hex data = hexOf (Sha256.digest (.ofBytes data h)) := by
  rw [Integrity.sha256Hex, hex, ← hexOf_bitsOf, bitsOf_sha256Bytes data h]

lemma sha256Hex_ne_nil (data : List UInt8) : Integrity.sha256Hex data ≠ [] := by
  intro h
  have hlen : (Integrity.sha256Bytes data).toList.length = 32 := Vector.length_toList
  obtain ⟨b, hb⟩ := List.exists_mem_of_length_pos (hlen.trans_gt (by decide))
  exact List.cons_ne_nil _ _ (List.flatMap_eq_nil_iff.mp h b hb)

/-- Looking a name up in a table made by a function. -/
lemma find?_table (f : Text → Text) (names : List Text) (name : Text) :
    ((names.map fun n => (n, f n)).find? fun e => e.1 = name)
      = if name ∈ names then some (name, f name) else none := by
  induction names with
  | nil => rfl
  | cons n names ih =>
      rw [List.map_cons, List.find?_cons, ih]
      by_cases hn : n = name
      · subst hn
        rw [decide_eq_true rfl, if_pos List.mem_cons_self]
      · have hmem : name ∈ n :: names ↔ name ∈ names :=
          List.mem_cons.trans (or_iff_right (Ne.symm hn))
        rw [decide_eq_false hn, if_congr hmem rfl rfl]

/-- The expected hash is the one recorded for the name. -/
lemma expectedHash_bpfHashes (read : Text → Option (List UInt8)) {name hash : Text}
    (hne : hash ≠ []) : Integrity.expectedHash (Build.bpfHashes read) name = hash
      ↔ (name, hash) ∈ Build.bpfHashes read := by
  rw [Integrity.expectedHash, Build.bpfHashes, find?_table, List.mem_map]
  split_ifs with hname
  · constructor
    · rintro rfl
      exact ⟨name, hname, rfl⟩
    · rintro ⟨n, -, hn⟩
      rw [Prod.mk.injEq] at hn
      rw [← hn.2, hn.1]
      rfl
  · constructor
    · exact fun h => absurd h.symm hne
    · rintro ⟨n, hmem, hn⟩
      rw [Prod.mk.injEq] at hn
      exact absurd (hn.1 ▸ hmem) hname

/-- In strict mode, what is accepted has the expected hash. -/
lemma verify_strict (hashes : List (Text × Text)) (name : Text) (bytes : List UInt8) :
    Integrity.verify hashes true name bytes = .ok () ↔
      Integrity.expectedHash hashes name = Integrity.sha256Hex bytes := by
  rw [Integrity.verify]
  cases hexp : Integrity.expectedHash hashes name with
  | nil => exact ⟨nofun, fun h => absurd h.symm (sha256Hex_ne_nil bytes)⟩
  | cons c cs =>
      by_cases hact : Integrity.sha256Hex bytes = c :: cs
      · simp [hact]
      · simpa [hact] using fun h => hact (Eq.symm h)

/-- The bytes that were hashed at build time are accepted. -/
lemma verify_built {read : Text → Option (List UInt8)} {name : Text} {data : List UInt8}
    (hname : name ∈ Build.names) (hread : read name = some data) :
    Integrity.verify (Build.bpfHashes read) true name data = .ok () := by
  rw [verify_strict, expectedHash_bpfHashes read (sha256Hex_ne_nil data)]
  refine List.mem_map.mpr ⟨name, hname, ?_⟩
  rw [hread, Integrity.sha256Hex, ← build_sha256Bytes]
  rfl

/-- **The integrity check.** Both copies of SHA-256 compute the digest of the standard,
their padding loop ends, and strict `verify` accepts what has the recorded hash; the bytes
that were hashed at build time have it. -/
theorem sha256_accepts (data : List UInt8) (h : data.length < 2 ^ 61) :
    bitsOf (Integrity.sha256Bytes data).toList = Sha256.digest (.ofBytes data h) ∧
      Build.sha256Bytes data = Integrity.sha256Bytes data ∧
      (∃ n ≤ 63, (∀ m < n, ((· ++ [0])^[m] (data ++ [0x80])).length % 64 ≠ 56) ∧
        ((· ++ [0])^[n] (data ++ [0x80])).length % 64 = 56 ∧
        padZeros (data ++ [0x80]) = (· ++ [0])^[n] (data ++ [0x80])) ∧
      ∀ (read : Text → Option (List UInt8)) (name : Text),
        (Integrity.verify (Build.bpfHashes read) true name data = .ok () ↔
          ∃ hash, (name, hash) ∈ Build.bpfHashes read ∧ hash ≠ [] ∧
            hash = hexOf (Sha256.digest (.ofBytes data h))) ∧
        (name ∈ Build.names → read name = some data →
          Integrity.verify (Build.bpfHashes read) true name data = .ok ()) := by
  refine ⟨bitsOf_sha256Bytes data h, build_sha256Bytes data,
    padZeros_turns (data ++ [0x80]), fun read name => ⟨?_, verify_built⟩⟩
  have hne := sha256Hex_ne_nil data
  rw [verify_strict, expectedHash_bpfHashes read hne]
  constructor
  · exact fun hmem => ⟨_, hmem, hne, sha256Hex_spec data h⟩
  · rintro ⟨hash, hmem, -, rfl⟩
    rwa [sha256Hex_spec data h]

/-- The object of a detector is accepted as it was built. -/
theorem sha256_accepts_built :
    let built : List UInt8 := [0x7f, 0x45, 0x4c, 0x46]
    Integrity.verify (Build.bpfHashes fun name => if name = "fim".toList then some built else none)
      true "fim".toList built = .ok () :=
  ((sha256_accepts [0x7f, 0x45, 0x4c, 0x46] (by decide)).2.2.2 _ _).2 (by decide) (if_pos rfl)

example : Integrity.sha256Hex [0x61, 0x62, 0x63]
    = "ba7816bf8f01cfea414140de5dae2223b00361a396177a9cb410ff61f20015ad".toList := by
  decide +kernel

end Sha

end Kernelradar
