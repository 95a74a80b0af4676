/-
The lock file of a runtime instance (`ops/runtime.py`, `SingleInstanceLease`).

A process takes the lease by creating the lock file exclusively.  A lock file whose owner is
not active any more is removed first.  The file operations of the processes interleave in any
order, and a process may die between any two of its own.

* `LockText`, `readLockOwner`: what a lock file says, and the owner it names;
* `LockSystem.advance`, `LeaseStep`: one file operation of a process;
* `LockSystem.Owned`: a live process that has created the lock file still has it at the path;
* `UnlinksNoLiveLock`: a stale file that is removed belongs to no live process;
* `at_most_one_instance`: **the lease is exclusive in every run that removes no live lock**;
* `recovery_unlinks_fresh_lock`, `two_instances_of_unlink`: two recoveries of one dead lock
  can give two instances, and every removal of a live lock can.
-/
import Ai4Binance.Lib.Python
import Ai4Binance.Lib.Run

open Check

namespace Ai4Binance

/-! ### Lock files -/

/-- A member of a JSON object; a missing one reads as `null`. -/
inductive LockValue where
  | null
  | bool (b : Bool)
  | int (n : ℤ)
  | float (q : ℚ)
  | text (s : String)
  | container
  deriving DecidableEq

/-- `value == 1`. -/
def LockValue.isOne : LockValue → Bool
  | .bool b => b
  | .int n => n = 1
  | .float q => q = 1
  | _ => false

/-- The text of a lock file, as `_read_lock_owner` parses it.  A file that holds nothing yet
is neither an integer nor JSON. -/
inductive LockText where
  | unreadable
  | pidOnly (pid : ℤ)
  | object (schemaVersion pid processMarker : LockValue)
  | json
  deriving DecidableEq

/-- `_read_lock_owner`: the process and its marker. -/
def readLockOwner : LockText → Except PyError (ℤ × Option String)
  | .pidOnly pid => .ok (pid, none)
  | .object schemaVersion pid processMarker =>
      if schemaVersion.isOne then
        match pid with
        | .int pid =>
            if pid < 1 then .error (.runtime "runtime lock is invalid")
            else
              match processMarker with
              | .null => .ok (pid, none)
              | .text marker =>
                  if marker = "" then .error (.runtime "runtime lock is invalid")
                  else .ok (pid, some marker)
              | _ => .error (.runtime "runtime lock is invalid")
        | _ => .error (.runtime "runtime lock is invalid")
      else .error (.runtime "runtime lock is invalid")
  | _ => .error (.runtime "runtime lock is invalid")

/-- What `acquire` writes. -/
def ownLockText (pid : ℕ) (processMarker : Option String) : LockText :=
  .object (.int 1) (.int pid) (processMarker.elim .null .text)

/-- The file at the path: the process that created it (`none` for a file that was there
before), and its text. -/
structure LockFile where
  creator : Option ℕ
  text : LockText
  deriving DecidableEq

/-! ### Processes -/

/-- How far a process is in `acquire`; `rejected` is what its last call raised. -/
inductive LeaseProgress where
  | idle
  | rejected (error : PyError)
  | found
  | owner (pid : ℤ) (expectedMarker : Option String)
  | stale
  | clear
  | created
  deriving DecidableEq

/-- A process with its lease object. -/
structure LeaseProcess where
  live : Bool := true
  held : Bool := false
  progress : LeaseProgress := .idle
  deriving DecidableEq

/-- The process is in no call. -/
def LeaseProcess.BetweenCalls (process : LeaseProcess) : Prop :=
  match process.progress with
  | .idle | .rejected _ => True
  | _ => False

instance (process : LeaseProcess) : Decidable process.BetweenCalls := by
  unfold LeaseProcess.BetweenCalls
  split <;> infer_instance

/-- The file operations: `checkExists` begins `acquire`, the last five follow it in order. -/
inductive LeaseOperation where
  | die
  | release
  | checkExists
  | readOwner
  | checkOwner (observedMarker : Option String)
  | unlinkStale
  | create
  | write (processMarker : Option String)
  deriving DecidableEq

/-- The lock file and the processes, by their ids. -/
structure LockSystem where
  file : Option LockFile
  processes : ℕ → LeaseProcess

namespace LockSystem

variable (marker : ℕ → Option String) (s : LockSystem) (p : ℕ)

/-- `_pid_is_alive`. -/
def pidIsAlive (pid : ℤ) : Bool := 1 ≤ pid ∧ (s.processes pid.toNat).live

/-- What `_process_marker` may answer: the marker of the process, or nothing. -/
def Answers (pid : ℕ) (observed : Option String) : Prop := observed = none ∨ observed = marker pid

instance (pid : ℕ) (observed : Option String) : Decidable (Answers marker pid observed) :=
  inferInstanceAs (Decidable (_ ∨ _))

/-- `lock_owner_is_active`, once the owner is read. -/
def ownerIsActive (pid : ℤ) (expectedMarker observedMarker : Option String) : Bool :=
  s.pidIsAlive pid &&
    (expectedMarker.isNone || observedMarker.isNone || observedMarker = expectedMarker)

/-- A process goes on, with the file as it is. -/
def set (process : LeaseProcess) : LockSystem :=
  { s with processes := Function.update s.processes p process }

/-- A process goes on in its call. -/
def goto (progress : LeaseProgress) : LockSystem :=
  s.set p { s.processes p with progress }

/-- The call of a process raises. -/
def reject (message : String) : LockSystem := s.goto p (.rejected (.runtime message))

/-- The next file operation of a live process, when it is the one named. -/
def advance : LeaseOperation → Option LockSystem
  | .die => some (s.set p { s.processes p with live := false })
  | .release =>
      if (s.processes p).BetweenCalls then
        if (s.processes p).held then
          some { s.set p { s.processes p with held := false } with file := none }
        else some s
      else none
  | .checkExists =>
      if (s.processes p).BetweenCalls then
        some (s.goto p (if s.file.isSome then .found else .clear))
      else none
  | .readOwner =>
      if (s.processes p).progress = .found then
        match s.file with
        | none => some (s.reject p "runtime lock is invalid; manual review required")
        | some file =>
            match readLockOwner file.text with
            | .error _ => some (s.reject p "runtime lock is invalid; manual review required")
            | .ok (pid, expectedMarker) => some (s.goto p (.owner pid expectedMarker))
      else none
  | .checkOwner observedMarker =>
      match (s.processes p).progress with
      | .owner pid expectedMarker =>
          if Answers marker pid.toNat observedMarker then
            if s.ownerIsActive pid expectedMarker observedMarker then some (s.goto p .clear)
            else some (s.goto p .stale)
          else none
      | _ => none
  | .unlinkStale =>
      if (s.processes p).progress = .stale then some { s.goto p .clear with file := none }
      else none
  | .create =>
      if (s.processes p).progress = .clear then
        match s.file with
        | some _ => some (s.reject p "runtime instance is already active")
        | none => some { s.goto p .created with file := some ⟨some p, .unreadable⟩ }
      else none
  | .write processMarker =>
      if (s.processes p).progress = .created ∧ Answers marker p processMarker then
        -- the descriptor writes to the file that the process created, wherever it is now
        some { s.set p { s.processes p with held := true, progress := .idle } with
          file := s.file.map fun file =>
            if file.creator = some p then { file with text := ownLockText p processMarker }
            else file }
      else none

/-- A live process holds the lease. -/
def Holds : Prop := (s.processes p).live ∧ (s.processes p).held

/-- No process has made a call, and a lock file may be there from before. -/
def Initial : Prop :=
  (∀ p, (s.processes p).held = false ∧ (s.processes p).progress = .idle) ∧
    ∀ file, s.file = some file → file.creator = none

end LockSystem

/-- One file operation of one live process. -/
def LeaseStep (marker : ℕ → Option String) (s : LockSystem) (i : ℕ × LeaseOperation)
    (t : LockSystem) : Prop :=
  (s.processes i.1).live ∧ s.advance marker i.1 i.2 = some t

/-! ### Owned lock files -/

namespace LockSystem

variable {marker : ℕ → Option String} {s t : LockSystem} {p q : ℕ} {op : LeaseOperation}

@[simp] lemma set_self (process : LeaseProcess) : (s.set p process).processes p = process :=
  Function.update_self ..

lemma set_of_ne (process : LeaseProcess) (h : q ≠ p) :
    (s.set p process).processes q = s.processes q := Function.update_of_ne h ..

/-- From the moment it creates the lock file until it releases it, a process claims it. -/
def Claims (s : LockSystem) (p : ℕ) : Prop :=
  (s.processes p).live ∧ ((s.processes p).held ∨ (s.processes p).progress = .created)

lemma Holds.claims (h : s.Holds p) : s.Claims p := ⟨h.1, .inl h.2⟩

/-- The lock file is at the path, and the process created it. -/
def CreatedBy (s : LockSystem) (p : ℕ) : Prop := ∃ file, s.file = some file ∧ file.creator = some p

lemma CreatedBy.unique (hp : s.CreatedBy p) (hq : s.CreatedBy q) : p = q := by
  obtain ⟨file, hfile, hp⟩ := hp
  obtain ⟨file', hfile', hq⟩ := hq
  obtain rfl := Option.some.inj (hfile.symm.trans hfile')
  exact Option.some.inj (hp.symm.trans hq)

/-- Every claim is on the file at the path. -/
def Owned (s : LockSystem) : Prop := ∀ p, s.Claims p → s.CreatedBy p

lemma Initial.owned (h : s.Initial) : s.Owned := by
  intro p hp
  obtain ⟨hheld, hidle⟩ := h.1 p
  rcases hp.2 with hp | hp
  · rw [hheld] at hp
    cases hp
  · rw [hidle] at hp
    cases hp

/-- A step of one process that leaves the file alone and claims nothing new. -/
lemma Owned.set (h : s.Owned) {process : LeaseProcess}
    (hp : (process.live ∧ (process.held ∨ process.progress = .created)) → s.Claims p) :
    (s.set p process).Owned := by
  intro q hq
  by_cases hqp : q = p
  · subst hqp
    rw [Claims, set_self] at hq
    exact h q (hp hq)
  · rw [Claims, set_of_ne process hqp] at hq
    exact h q hq

lemma Owned.goto (h : s.Owned) {progress : LeaseProgress} (hp : progress ≠ .created) :
    (s.goto p progress).Owned := by
  refine h.set fun hclaim => ⟨hclaim.1, .inl ?_⟩
  rcases hclaim.2 with hheld | hcreated
  · exact hheld
  · exact absurd hcreated hp

/-- A step that takes the file away while nobody else claims it. -/
lemma Owned.removed {process : LeaseProcess} (hother : ∀ q, q ≠ p → ¬ s.Claims q)
    (hp : ¬ (process.live ∧ (process.held ∨ process.progress = .created))) :
    Owned { s.set p process with file := none } := by
  intro q hq
  by_cases hqp : q = p
  · subst hqp
    simp only [Claims, set_self] at hq
    exact absurd hq hp
  · simp only [Claims, set_of_ne process hqp] at hq
    exact absurd hq (hother q hqp)

end LockSystem

/-- **The condition**: a file that stale recovery removes was not created by a live process. -/
def UnlinksNoLiveLock (s : LockSystem) (i : ℕ × LeaseOperation) : Prop :=
  i.2 = .unlinkStale → ∀ p, s.CreatedBy p → ¬ (s.processes p).live

section Steps

variable {marker : ℕ → Option String} {s t : LockSystem} {i : ℕ × LeaseOperation}
  {l : List (ℕ × LeaseOperation)} {p q : ℕ}

open LockSystem

/-- Every file operation that removes no live lock keeps the claims on the file. -/
theorem LeaseStep.owned (h : LeaseStep marker s i t) (hsafe : UnlinksNoLiveLock s i)
    (hs : s.Owned) : t.Owned := by
  obtain ⟨p, op⟩ := i
  obtain ⟨hlive, h⟩ := h
  cases op with
  | die =>
    obtain rfl := Option.some.inj h
    exact hs.set fun hclaim => absurd hclaim.1 (by simp)
  | release =>
    simp only [advance] at h
    split_ifs at h with hbetween hheld
    · obtain rfl := Option.some.inj h
      have hown := hs p ⟨hlive, .inl hheld⟩
      refine Owned.removed (fun q hqp hq => hqp ((hs q hq).unique hown)) fun hclaim => ?_
      rcases hclaim.2 with hclaim | hclaim
      · cases hclaim
      · simp [LeaseProcess.BetweenCalls, show (s.processes p).progress = _ from hclaim] at hbetween
    · obtain rfl := Option.some.inj h
      exact hs
  | checkExists =>
    simp only [advance] at h
    split_ifs at h
    · obtain rfl := Option.some.inj h
      exact hs.goto (by simp)
    · obtain rfl := Option.some.inj h
      exact hs.goto (by simp)
  | readOwner =>
    simp only [advance, reject] at h
    split_ifs at h
    split at h
    · obtain rfl := Option.some.inj h
      exact hs.goto (by simp)
    · split at h
      · obtain rfl := Option.some.inj h
        exact hs.goto (by simp)
      · obtain rfl := Option.some.inj h
        exact hs.goto (by simp)
  | checkOwner observedMarker =>
    simp only [advance] at h
    split at h
    · split_ifs at h
      · obtain rfl := Option.some.inj h
        exact hs.goto (by simp)
      · obtain rfl := Option.some.inj h
        exact hs.goto (by simp)
    · cases h
  | unlinkStale =>
    simp only [advance] at h
    split_ifs at h with hstale
    obtain rfl := Option.some.inj h
    -- whoever claims the file created it and is alive, which the condition excludes
    have hnone : ∀ q, ¬ s.Claims q := fun q hq => hsafe rfl q (hs q hq) hq.1
    refine Owned.removed (fun q _ => hnone q) fun hclaim => hnone p ⟨hlive, ?_⟩
    rcases hclaim.2 with hheld | hcreated
    · exact .inl hheld
    · cases hcreated
  | create =>
    simp only [advance, reject] at h
    split_ifs at h with hclear
    split at h
    · obtain rfl := Option.some.inj h
      exact hs.goto (by simp)
    · rename_i hfile
      obtain rfl := Option.some.inj h
      intro q hq
      by_cases hqp : q = p
      · exact ⟨_, rfl, by rw [hqp]⟩
      · simp only [Claims, goto, set_of_ne _ hqp] at hq
        obtain ⟨file, hsome, -⟩ := hs q hq
        rw [hfile] at hsome
        cases hsome
  | write processMarker =>
    simp only [advance] at h
    split_ifs at h with hcreated
    obtain rfl := Option.some.inj h
    intro q hq
    have hclaims : s.Claims q := by
      by_cases hqp : q = p
      · exact hqp ▸ ⟨hlive, .inr hcreated.1⟩
      · simpa only [Claims, set_of_ne _ hqp] using hq
    obtain ⟨file, hfile, hcreator⟩ := hs q hclaims
    simp only [CreatedBy, hfile, Option.map_some]
    refine ⟨_, rfl, ?_⟩
    split_ifs with hsame
    · exact hcreator
    · exact hcreator

/-- The steps that meet the condition. -/
def SafeLeaseStep (marker : ℕ → Option String) (s : LockSystem) (i : ℕ × LeaseOperation)
    (t : LockSystem) : Prop :=
  LeaseStep marker s i t ∧ UnlinksNoLiveLock s i

/-- **Single instance.**  In a run in which stale recovery never removes the lock file of a
live process, at most one live process holds the lease, in every state. -/
theorem at_most_one_instance (hs : s.Initial) (h : Run (SafeLeaseStep marker) s l t)
    (hp : t.Holds p) (hq : t.Holds q) : p = q := by
  have howned : t.Owned := h.invariant (fun hstep => hstep.1.owned hstep.2) hs.owned
  exact (howned p hp.claims).unique (howned q hq.claims)

end Steps

/-! ### Removed live locks -/

namespace LockSystem

variable {marker : ℕ → Option String} {s t : LockSystem} {i : ℕ × LeaseOperation}
  {l : List (ℕ × LeaseOperation)} {p q : ℕ}

/-- A live process that created the file at the path claims it. -/
def Claimed (s : LockSystem) : Prop := ∀ p, s.CreatedBy p → (s.processes p).live → s.Claims p

lemma Initial.claimed (h : s.Initial) : s.Claimed := by
  rintro p ⟨file, hfile, hcreator⟩ -
  rw [h.2 file hfile] at hcreator
  cases hcreator

/-- A step of one process that keeps the creator of the file and gives up no claim. -/
lemma Claimed.set (h : s.Claimed) {process : LeaseProcess} (file : Option LockFile)
    (hfile : ∀ q, CreatedBy { s with file } q → s.CreatedBy q)
    (hlive : process.live → (s.processes p).live)
    (hp : process.live → s.Claims p → process.held ∨ process.progress = .created) :
    Claimed { s.set p process with file } := by
  intro q hq hqlive
  by_cases hqp : q = p
  · subst hqp
    simp only [set_self] at hqlive
    simp only [Claims, set_self]
    exact ⟨hqlive, hp hqlive (h q (hfile q hq) (hlive hqlive))⟩
  · simp only [set_of_ne process hqp] at hqlive
    simp only [Claims, set_of_ne process hqp]
    exact h q (hfile q hq) hqlive

lemma Claimed.goto (h : s.Claimed) {progress : LeaseProgress}
    (hp : (s.processes p).progress ≠ .created) : (s.goto p progress).Claimed := by
  refine h.set s.file (fun q hq => hq) (fun hlive => hlive) fun _ hclaim => .inl ?_
  rcases hclaim.2 with hheld | hcreated
  · exact hheld
  · exact absurd hcreated hp

lemma Claimed.removed (s : LockSystem) : Claimed { s with file := none } := by
  rintro q ⟨file, hfile, -⟩
  cases hfile

lemma not_created_of_between (h : (s.processes p).BetweenCalls) :
    (s.processes p).progress ≠ .created := by
  intro hcreated
  simp [LeaseProcess.BetweenCalls, hcreated] at h

end LockSystem

section Harm

variable {marker : ℕ → Option String} {s t : LockSystem} {i : ℕ × LeaseOperation}
  {l : List (ℕ × LeaseOperation)} {p q : ℕ}

open LockSystem

/-- Every file operation leaves the lock files of live processes claimed. -/
lemma LeaseStep.claimed (h : LeaseStep marker s i t) (hs : s.Claimed) : t.Claimed := by
  obtain ⟨p, op⟩ := i
  obtain ⟨hlive, h⟩ := h
  cases op with
  | die =>
    obtain rfl := Option.some.inj h
    exact hs.set s.file (fun q hq => hq) (by simp) (by simp)
  | release =>
    simp only [advance] at h
    split_ifs at h
    · obtain rfl := Option.some.inj h
      exact Claimed.removed _
    · obtain rfl := Option.some.inj h
      exact hs
  | checkExists =>
    simp only [advance] at h
    split_ifs at h with hbetween
    · obtain rfl := Option.some.inj h
      exact hs.goto (not_created_of_between hbetween)
    · obtain rfl := Option.some.inj h
      exact hs.goto (not_created_of_between hbetween)
  | readOwner =>
    simp only [advance, reject] at h
    split_ifs at h with hfound
    have hgoto {progress : LeaseProgress} : (s.goto p progress).Claimed :=
      hs.goto (by rw [hfound]; simp)
    split at h
    · exact Option.some.inj h ▸ hgoto
    · split at h
      · exact Option.some.inj h ▸ hgoto
      · exact Option.some.inj h ▸ hgoto
  | checkOwner observedMarker =>
    simp only [advance] at h
    split at h
    · rename_i howner
      split_ifs at h
      · exact Option.some.inj h ▸ hs.goto (by rw [howner]; simp)
      · exact Option.some.inj h ▸ hs.goto (by rw [howner]; simp)
    · cases h
  | unlinkStale =>
    simp only [advance] at h
    split_ifs at h
    obtain rfl := Option.some.inj h
    exact Claimed.removed _
  | create =>
    simp only [advance, reject] at h
    split_ifs at h with hclear
    split at h
    · exact Option.some.inj h ▸ hs.goto (by rw [hclear]; simp)
    · obtain rfl := Option.some.inj h
      rintro q ⟨file, hfile, hcreator⟩ hqlive
      obtain rfl := Option.some.inj hfile
      obtain rfl := Option.some.inj hcreator
      exact ⟨hqlive, .inr (by simp [goto])⟩
  | write processMarker =>
    simp only [advance] at h
    split_ifs at h
    obtain rfl := Option.some.inj h
    refine hs.set _ ?_ (fun hlive => hlive) fun _ _ => .inl rfl
    rintro q ⟨file, hfile, hcreator⟩
    obtain ⟨file', hfile', rfl⟩ := Option.map_eq_some_iff.mp hfile
    refine ⟨file', hfile', ?_⟩
    split_ifs at hcreator with hsame
    · exact hcreator
    · exact hcreator

variable (marker) in
/-- What a process writes after its file was removed reaches nobody, and the process holds the
lease. -/
lemma writes_removed (hlive : (s.processes p).live) (hcreated : (s.processes p).progress = .created)
    (hfile : s.file = none) :
    ∃ u, LeaseStep marker s (p, .write none) u ∧ u.Holds p ∧ u.file = none ∧
      ∀ r, r ≠ p → u.processes r = s.processes r := by
  refine ⟨_, ⟨hlive, if_pos ⟨hcreated, .inl rfl⟩⟩, ?_, ?_, fun r hr => set_of_ne _ hr⟩
  · exact ⟨by simpa only [set_self] using hlive, by simp only [set_self]⟩
  · simp [hfile]

variable (marker) in
/-- A process that finds no lock file takes the lease. -/
lemma takes_lease (hlive : (s.processes q).live) (hclear : (s.processes q).progress = .clear)
    (hfile : s.file = none) :
    ∃ u, Run (LeaseStep marker) s [(q, .create), (q, .write none)] u ∧ u.Holds q ∧
      ∀ r, r ≠ q → u.processes r = s.processes r := by
  have hcreate : LeaseStep marker s (q, .create)
      { s.goto q .created with file := some ⟨some q, .unreadable⟩ } :=
    ⟨hlive, by simp only [advance, if_pos hclear, hfile]⟩
  refine ⟨_, .cons hcreate (Run.single ⟨by simpa [goto] using hlive,
    if_pos ⟨by simp [goto], .inl rfl⟩⟩), ⟨by simpa [goto] using hlive, by simp⟩, fun r hr => ?_⟩
  simp only [goto, set_of_ne _ hr]

/-- **Every removal of another live process's lock can give two instances**: in a state that any
run reaches, a process that is about to remove the lock file of another live process can go
on to hold the lease together with it. -/
theorem two_instances_of_unlink (hs : s.Initial) (h : Run (LeaseStep marker) s l t) (hne : p ≠ q)
    (hstale : (t.processes q).progress = .stale) (hq : (t.processes q).live)
    (hp : (t.processes p).live) (hfile : t.CreatedBy p) :
    ∃ k u, Run (LeaseStep marker) t k u ∧ u.Holds p ∧ u.Holds q := by
  have hclaimed : t.Claimed := h.invariant (fun hstep hs => hstep.claimed hs) hs.claimed
  have hunlink : LeaseStep marker t (q, .unlinkStale) { t.goto q .clear with file := none } :=
    ⟨hq, if_pos hstale⟩
  have hp' : (t.goto q .clear).processes p = t.processes p := set_of_ne _ hne
  have hq' : ((t.goto q .clear).processes q).live ∧
      ((t.goto q .clear).processes q).progress = .clear := by
    simpa [goto] using hq
  rcases (hclaimed p hfile hp).2 with hheld | hcreated
  · obtain ⟨u, hrun, hholds, hother⟩ := takes_lease marker
      (s := { t.goto q .clear with file := none }) hq'.1 hq'.2 rfl
    refine ⟨_, u, .cons hunlink hrun, ?_, hholds⟩
    rw [Holds, hother p hne]
    exact hp' ▸ ⟨hp, hheld⟩
  · -- the other process still writes to the file that is removed
    obtain ⟨v, hwrite, hv, hvfile, hvother⟩ := writes_removed marker
      (s := { t.goto q .clear with file := none }) (hp' ▸ hp) (hp' ▸ hcreated) rfl
    have hqv := hvother q hne.symm
    obtain ⟨u, hrun, hholds, hother⟩ := takes_lease marker (hqv ▸ hq'.1)
      (hqv ▸ hq'.2) hvfile
    refine ⟨_, u, .cons hunlink (.cons hwrite hrun), ?_, hholds⟩
    rw [Holds, hother p hne]
    exact hv

end Harm

/-! ### Two recoveries of one lock -/

/-- The lock file of process 3, which is dead, and any number of processes that have not started
to acquire it. -/
def deadLock : LockSystem where
  file := some ⟨none, ownLockText 3 none⟩
  processes p := { live := p ≠ 3 }

lemma deadLock_initial : deadLock.Initial := by
  refine ⟨fun p => ⟨rfl, rfl⟩, fun file hfile => ?_⟩
  obtain rfl := Option.some.inj hfile
  rfl

/-- A process takes the lease over from a dead one. -/
def recovery (p : ℕ) : List (ℕ × LeaseOperation) :=
  [.checkExists, .readOwner, .checkOwner none, .unlinkStale, .create, .write none].map (p, ·)

/-- The file operations in order, as far as they go. -/
def LockSystem.after (marker : ℕ → Option String) (s : LockSystem) (l : List (ℕ × LeaseOperation)) :
    Option LockSystem :=
  l.foldlM (fun s i => if (s.processes i.1).live then s.advance marker i.1 i.2 else none) s

lemma LockSystem.run_of_after {marker : ℕ → Option String} {s t : LockSystem}
    {l : List (ℕ × LeaseOperation)} (h : s.after marker l = some t) : Run (LeaseStep marker) s l t := by
  induction l generalizing s with
  | nil =>
    obtain rfl := Option.some.inj h
    exact .nil s
  | cons i l ih =>
    simp only [after, List.foldlM_cons, Option.bind_eq_bind, Option.bind_eq_some_iff] at h
    obtain ⟨next, hnext, h⟩ := h
    split_ifs at hnext with hlive
    exact .cons ⟨hlive, hnext⟩ (ih h)

/-- **Two recoveries can give two instances**: process 2 finds the owner of the lock file dead,
process 1 takes the lease over, and process 2 goes on to remove the file of process 1. -/
theorem recovery_unlinks_fresh_lock :
    ¬ ∀ (marker : ℕ → Option String) (s t : LockSystem) (l : List (ℕ × LeaseOperation)) (p q : ℕ),
      s.Initial → Run (LeaseStep marker) s l t → t.Holds p → t.Holds q → p = q := by
  intro hclaim
  have hrun : (deadLock.after (fun _ => none)
      ((recovery 2).take 3 ++ recovery 1 ++ (recovery 2).drop 3)).map (fun t =>
        (t.processes 1).live && (t.processes 1).held &&
          (t.processes 2).live && (t.processes 2).held) = some true := by
    decide
  obtain ⟨t, ht, hboth⟩ := Option.map_eq_some_iff.mp hrun
  simp only [Bool.and_eq_true] at hboth
  obtain ⟨⟨⟨hlive₁, hheld₁⟩, hlive₂⟩, hheld₂⟩ := hboth
  have hsame := hclaim (fun _ => none) deadLock t _ 1 2 deadLock_initial
    (LockSystem.run_of_after ht)
    ⟨hlive₁, hheld₁⟩ ⟨hlive₂, hheld₂⟩
  omega

/-- One recovery of the lock of a dead process, and one instance. -/
theorem one_recovery_one_instance : ∃ t,
    Run (SafeLeaseStep fun _ => none) deadLock (recovery 1) t ∧ t.Holds 1 ∧
      ∀ p q, t.Holds p → t.Holds q → p = q := by
  have hunlink {s : LockSystem} (hfile : s.file = deadLock.file) :
      UnlinksNoLiveLock s (1, .unlinkStale) := by
    rintro - p ⟨file, hsome, hcreator⟩
    obtain rfl := Option.some.inj (hfile.symm.trans hsome)
    cases hcreator
  have hrun : Run (SafeLeaseStep fun _ => none) deadLock (recovery 1) _ :=
    .cons ⟨⟨rfl, rfl⟩, nofun⟩ <| .cons ⟨⟨rfl, rfl⟩, nofun⟩ <| .cons ⟨⟨rfl, rfl⟩, nofun⟩ <|
      .cons ⟨⟨rfl, rfl⟩, hunlink rfl⟩ <| .cons ⟨⟨rfl, rfl⟩, nofun⟩ <| Run.single ⟨⟨rfl, rfl⟩, nofun⟩
  exact ⟨_, hrun, ⟨rfl, rfl⟩, fun p q hp hq => at_most_one_instance deadLock_initial hrun hp hq⟩

end Ai4Binance
