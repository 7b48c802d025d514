import Kernelradar.Detectors.Handlers
import Kernelradar.Library.Bytes

/-!
`fim.rs` and `cred.rs`: the detectors of opened paths.

* `Rule`, `findRule`: the rule tables and the search in them;
* `FimDetector.matchPath`, `CredDetector.matchCred`: the two tables, each with
  its branch for `/home`;
* `dir_prefix_of_matchPath`, `dir_prefix_of_matchCred`: where the paths with a
  rule are;
* `pathOf`: the path an event carries;
* `openPathHandle`: the body the two `handle` share.
-/

namespace Kernelradar

open Library

/-- `MatchKind`. -/
inductive MatchKind where
  | exact
  | prefixed
  deriving DecidableEq

/-- `FimRule`, `CredRule`. -/
structure Rule where
  pattern : Text
  kind : MatchKind
  severity : UInt8
  deriving DecidableEq

/-- The test of a rule. -/
def Rule.matches (r : Rule) (path : Text) : Bool :=
  match r.kind with
  | .exact => path = r.pattern
  | .prefixed => r.pattern.isPrefixOf path

/-- `iter().find(..)` over a table. -/
def findRule (rules : List Rule) (path : Text) : Option Rule := rules.find? (Rule.matches · path)

/-- What comes after `/home/<user>/`, if the path has that form. -/
def afterUser (path : Text) : Option Text :=
  (Text.stripPrefix path "/home/").bind fun rest => (Text.splitOnce '/' rest).map Prod.snd

/-- A rule that matches has its pattern at the front of the path. -/
lemma Rule.pattern_prefix {r : Rule} {path : Text} (h : r.matches path = true) :
    r.pattern <+: path := by
  rw [Rule.matches] at h
  cases hkind : r.kind with
  | exact =>
      rw [hkind] at h
      rw [of_decide_eq_true h]
  | prefixed =>
      rw [hkind] at h
      exact List.isPrefixOf_iff_prefix.mp h

/-- A path with a rule is in one of the directories of the table. -/
lemma dir_prefix_of_findRule {rules : List Rule} {dirs : List Text}
    (hdirs : ∀ r ∈ rules, ∃ dir ∈ dirs, dir <+: r.pattern) {path : Text}
    (h : (findRule rules path).isSome) : ∃ dir ∈ dirs, dir <+: path := by
  obtain ⟨r, hr⟩ := Option.isSome_iff_exists.mp h
  obtain ⟨dir, hdir, hprefix⟩ := hdirs r (List.mem_of_find?_eq_some hr)
  have hmatch : r.matches path = true := List.find?_some (p := (Rule.matches · path)) hr
  exact ⟨dir, hdir, hprefix.trans (Rule.pattern_prefix hmatch)⟩

/-- Only paths under `/home/` get into the branch for it. -/
lemma home_prefix_of_afterUser {path : Text} {test : Text → Bool}
    (h : (afterUser path).any test = true) : ("/home/" : Text) <+: path := by
  rw [afterUser] at h
  cases hstrip : Text.stripPrefix path "/home/" with
  | none =>
      rw [hstrip] at h
      cases h
  | some rest => exact ⟨rest, (Text.stripPrefix_eq_some.mp hstrip).symm⟩

namespace FimDetector

/-- `SENSITIVE_RULES`. -/
def sensitiveRules : List Rule :=
  [⟨"/etc/shadow", .exact, 3⟩, ⟨"/etc/gshadow", .exact, 3⟩, ⟨"/etc/passwd", .exact, 2⟩,
    ⟨"/etc/group", .exact, 2⟩, ⟨"/etc/sudoers", .exact, 3⟩, ⟨"/etc/sudoers.d/", .prefixed, 3⟩,
    ⟨"/etc/ssh/", .prefixed, 2⟩, ⟨"/etc/pam.d/", .prefixed, 2⟩, ⟨"/etc/cron.d/", .prefixed, 2⟩,
    ⟨"/etc/cron.daily/", .prefixed, 2⟩, ⟨"/etc/cron.hourly/", .prefixed, 2⟩,
    ⟨"/etc/init.d/", .prefixed, 2⟩, ⟨"/etc/systemd/", .prefixed, 2⟩,
    ⟨"/root/.ssh/", .prefixed, 3⟩, ⟨"/root/.bashrc", .exact, 2⟩, ⟨"/root/.profile", .exact, 2⟩]

/-- `HOME_SSH`. -/
def homeSsh : Rule := ⟨"/home/<user>/.ssh/...", .prefixed, 3⟩

/-- The test of the `/home` branch. -/
def homeHit (afterUser : Text) : Bool :=
  (".ssh/" : Text).isPrefixOf afterUser || afterUser = ".bashrc" || afterUser = ".profile"

/-- `match_path`. -/
def matchPath (path : Text) : Option Rule :=
  if (afterUser path).any homeHit then some homeSsh else findRule sensitiveRules path

/-- Where the paths with a rule are. -/
lemma dir_prefix_of_matchPath {path : Text} (h : (matchPath path).isSome) :
    ∃ dir ∈ (["/etc/", "/root", "/home/"] : List Text), dir <+: path := by
  rw [matchPath] at h
  split_ifs at h with hhome
  · exact ⟨"/home/", by simp, home_prefix_of_afterUser hhome⟩
  · exact dir_prefix_of_findRule (by decide) h

end FimDetector

namespace CredDetector

/-- `CRED_RULES`. -/
def credRules : List Rule :=
  [⟨"/etc/shadow", .exact, 3⟩, ⟨"/etc/gshadow", .exact, 3⟩, ⟨"/root/.ssh/id_", .prefixed, 3⟩,
    ⟨"/root/.ssh/authorized_keys", .exact, 2⟩, ⟨"/root/.aws/", .prefixed, 2⟩,
    ⟨"/root/.config/gh/", .prefixed, 2⟩, ⟨"/etc/sudoers", .prefixed, 2⟩]

/-- `HOME_KEY`. -/
def homeKey : Rule := ⟨"/home/<user>/.ssh/id_*", .prefixed, 3⟩

/-- `HOME_AWS`. -/
def homeAws : Rule := ⟨"/home/<user>/.aws/credentials", .exact, 3⟩

/-- `match_cred`. -/
def matchCred (path : Text) : Option Rule :=
  if (afterUser path).any (".ssh/id_" : Text).isPrefixOf then some homeKey
  else if (afterUser path).any (".aws/credentials" : Text).isPrefixOf then some homeAws
  else findRule credRules path

/-- Where the paths with a rule are. -/
lemma dir_prefix_of_matchCred {path : Text} (h : (matchCred path).isSome) :
    ∃ dir ∈ (["/etc/s", "/etc/g", "/root", "/home/"] : List Text), dir <+: path := by
  rw [matchCred] at h
  split_ifs at h with hkey haws
  · exact ⟨"/home/", by simp, home_prefix_of_afterUser hkey⟩
  · exact ⟨"/home/", by simp, home_prefix_of_afterUser haws⟩
  · exact dir_prefix_of_findRule (by decide) h

end CredDetector

/-- The path in the event's data: the bytes before the first NUL, decoded. -/
def pathOf (ev : KrEvent) : Text :=
  let pathBytes := ev.data.toList.flatMap fun word => leBytes 8 word.toNat
  fromUtf8Lossy (pathBytes.takeWhile (· ≠ 0))

/-- The body of `FimDetector::handle` and `CredDetector::handle`: the detector's
name, the words of its two titles, its table. A traversal event bypasses the
table and keeps the kernel's severity. -/
def openPathHandle (detector traversalTitle openTitle : Text) (table : Text → Option Rule)
    (re : RegexCrate) (sc : Scene) (ev : KrEvent) : Reads Held (Option Alert) :=
  let path := pathOf ev
  attributed re sc ev fun comm exe =>
    if ev.eventType = 2 then
      some (makeAlert sc.stamp ev exe detector (traversalTitle ++ path ++ " by " ++ comm)
        (.obj [("path", .str path), ("rule", .str "path-traversal heuristic"),
          ("exe", .ofOption exe), ("traversal", .bool true)]))
    else
      (table path).map fun rule =>
        makeAlert sc.stamp { ev with severity := rule.severity } exe detector
          (openTitle ++ path ++ " by " ++ comm)
          (.obj [("path", .str path), ("rule", .str rule.pattern), ("exe", .ofOption exe)])

/-- `FimDetector::handle`. -/
def FimDetector.handle : RegexCrate → Scene → KrEvent → Reads Held (Option Alert) :=
  openPathHandle "fim" "FIM path-traversal attempt: " "write open to " FimDetector.matchPath

/-- `CredDetector::handle`. -/
def CredDetector.handle : RegexCrate → Scene → KrEvent → Reads Held (Option Alert) :=
  openPathHandle "cred" "cred path-traversal attempt: " "read access to " CredDetector.matchCred

/-- When an opened path is reported: a traversal event always, another event if
the table has a rule. -/
lemma isSome_openPathHandle {detector traversalTitle openTitle : Text}
    {table : Text → Option Rule} {re : RegexCrate} {sc : Scene} {ev : KrEvent} {held : Held}
    (hdenied : (held.allowlist.snapshot re).isAllowed re (commStr ev)
      (readExePathVerified sc.proc (commStr ev)) = false) :
    ((openPathHandle detector traversalTitle openTitle table re sc ev).run held).isSome
      = (decide (ev.eventType = 2) || (table (pathOf ev)).isSome) := by
  rw [openPathHandle, run_attributed, hdenied, if_neg Bool.false_ne_true]
  by_cases htraversal : ev.eventType = 2
  · rw [if_pos htraversal, decide_eq_true htraversal]
    rfl
  · rw [if_neg htraversal, decide_eq_false htraversal, Option.isSome_map, Bool.false_or]

end Kernelradar
