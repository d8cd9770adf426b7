import HubBridge.Poll
import HubBridge.Proofs.StatusText
import Mathlib.Data.List.Range
import Mathlib.Data.Nat.Find
import Mathlib.Order.Bounds.Basic
import Mathlib.Tactic.Lemma

/-!
# The course of a poll

A poll asks, waits and looks, over and over. It goes on as long as the lock was not found where it
should be and an attempt is left, so where it ends is told by the readings alone: at the first one that
fits, or else with the last attempt. The failures of its queries have no part in that.
-/

namespace HubBridge.Proofs

open Poll (ProbeStep Rehearsal scripted)

/-- The attempts that a poll may make, which is one at least. -/
def budget (settings : PollSettings) : Nat := max 1 settings.maxAttempts.toNat

/-- The attempt with the number `k`: a query, and after the wait a look at the lock. -/
def attempt (m : ModuleId) (wait : Nat) (readings : Nat → Option Bool) (k : Nat) : List ProbeStep :=
  [.query m ((k - 1) * wait), .check m (k * wait) (readings k)]

/-- What a probe has seen after so many attempts. -/
def rehearsed (m : ModuleId) (wait : Nat) (readings : Nat → Option Bool) (attempts : Nat) :
    Rehearsal :=
  ⟨attempts * wait, attempts, (List.range' 1 attempts).flatMap (attempt m wait readings)⟩

/-- Where a poll ends that waits for `want`: with the first reading that fits, if it comes within the
budget, and with the budget otherwise. -/
inductive EndsWith (readings : Nat → Option Bool) (want : Bool) (budget : Nat) : PollEnd → Nat → Prop
  | converged {k : Nat} (first : IsLeast {k | 1 ≤ k ∧ k ≤ budget ∧ readings k = some want} k) :
      EndsWith readings want budget .converged k
  | exhausted (never : ∀ k, 1 ≤ k → k ≤ budget → readings k ≠ some want) :
      EndsWith readings want budget .exhausted budget

variable {settings : PollSettings} {m : ModuleId} {expected : Status} {want : Bool}
  {readings : Nat → Option Bool} {failures : Nat → Option Failure}

/-! ### One attempt -/

/-- The state of a scripted probe after one more attempt. -/
def anotherAttempt (m : ModuleId) (wait : Nat) (readings : Nat → Option Bool) (r : Rehearsal) :
    Rehearsal :=
  ⟨r.clock + wait, r.queries + 1,
    r.steps ++ [.query m r.clock] ++ [.check m (r.clock + wait) (readings (r.queries + 1))]⟩

lemma rehearsed_succ (m : ModuleId) (wait : Nat) (readings : Nat → Option Bool) (attempts : Nat) :
    rehearsed m wait readings (attempts + 1) =
      anotherAttempt m wait readings (rehearsed m wait readings attempts) := by
  have hsteps : attempt m wait readings (attempts + 1) =
      [.query m (attempts * wait)] ++ [.check m (attempts * wait + wait) (readings (attempts + 1))] := by
    rw [attempt, Nat.add_sub_cancel, Nat.succ_mul]
    rfl
  unfold rehearsed anotherAttempt
  rw [List.range'_1_concat, List.flatMap_append, List.flatMap_singleton, Nat.add_comm 1, hsteps,
    Nat.succ_mul, List.append_assoc]

/-- One round of a poll on a scripted probe, whether its query fails or not. -/
lemma runFrom_succ (left : Nat) (p : Poll) (r : Rehearsal) :
    (Poll.runFrom (scripted readings failures) settings (left + 1) p).run r =
      StateT.run (m := Id) (match p.queried.check settings.maxAttempts (readings (r.queries + 1)) with
        | some outcome => pure outcome
        | none => Poll.runFrom (scripted readings failures) settings left p.queried)
        (anotherAttempt p.moduleId settings.wait readings r) := by
  rfl

lemma check_hit {p : Poll} (limit : UInt32) {reading : Option Bool} (h : reading = some p.want) :
    p.check limit reading = some (p.outcome .converged) := by
  rw [Poll.check, if_pos h]

lemma check_last {p : Poll} {limit : UInt32} {reading : Option Bool} (h : reading ≠ some p.want)
    (hlast : limit.toNat ≤ p.attempts) : p.check limit reading = some (p.outcome .exhausted) := by
  rw [Poll.check, if_neg h, if_pos hlast]

lemma check_miss {p : Poll} {limit : UInt32} {reading : Option Bool} (h : reading ≠ some p.want)
    (hleft : p.attempts < limit.toNat) : p.check limit reading = none := by
  rw [Poll.check, if_neg h, if_neg (Nat.not_le.mpr hleft)]

/-! ### The whole poll -/

/-- A poll after so many attempts. -/
def pollAfter (m : ModuleId) (expected : Status) (want : Bool) (attempts : Nat) : Poll :=
  ⟨m, expected, want, attempts⟩

/-- As long as no reading fits and the budget is not reached, the poll goes on. -/
lemma runFrom_misses {attempts : Nat} (left : Nat)
    (hmiss : ∀ k, 1 ≤ k → k ≤ attempts → readings k ≠ some want) (hleft : attempts < budget settings) :
    (Poll.runFrom (scripted readings failures) settings (attempts + left)
        (pollAfter m expected want 0)).run (rehearsed m settings.wait readings 0) =
      (Poll.runFrom (scripted readings failures) settings left
        (pollAfter m expected want attempts)).run (rehearsed m settings.wait readings attempts) := by
  induction attempts generalizing left with
  | zero => rw [Nat.zero_add]
  | succ attempts ih =>
    have hround : attempts + 1 < settings.maxAttempts.toNat := by
      unfold budget at hleft
      omega
    have hcheck : (pollAfter m expected want attempts).queried.check settings.maxAttempts
        (readings (attempts + 1)) = none := check_miss (hmiss _ (by omega) le_rfl) hround
    -- The first attempts leave one round more to the poll, and that is the one that misses last.
    rw [Nat.succ_add_eq_add_succ, ih (left + 1) (fun k h hk => hmiss k h (by omega)) (by omega),
      runFrom_succ, rehearsed_succ]
    change StateT.run (m := Id) (match (pollAfter m expected want attempts).queried.check
      settings.maxAttempts (readings (attempts + 1)) with | some _ => _ | none => _) _ = _
    rw [hcheck]
    rfl

/-- With the next attempt the poll ends, whatever would be left to it. -/
lemma runFrom_ends {attempts left : Nat} {outcome : Convergence}
    (hmiss : ∀ k, 1 ≤ k → k ≤ attempts → readings k ≠ some want) (hleft : attempts < budget settings)
    (hcheck : (pollAfter m expected want (attempts + 1)).check settings.maxAttempts
      (readings (attempts + 1)) = some outcome) (hbound : attempts < left) :
    (Poll.runFrom (scripted readings failures) settings left (pollAfter m expected want 0)).run
        (rehearsed m settings.wait readings 0) =
      (outcome, rehearsed m settings.wait readings (attempts + 1)) := by
  obtain ⟨more, rfl⟩ : ∃ more, left = attempts + (more + 1) := ⟨left - attempts - 1, by omega⟩
  rw [runFrom_misses _ hmiss hleft, runFrom_succ, rehearsed_succ]
  change StateT.run (m := Id) (match (pollAfter m expected want (attempts + 1)).check
    settings.maxAttempts (readings (attempts + 1)) with | some _ => _ | none => _) _ = _
  rw [hcheck]
  rfl

lemma one_le_budget (settings : PollSettings) : 1 ≤ budget settings := Nat.le_max_left _ _

lemma budget_lt (settings : PollSettings) : budget settings < UInt32.size :=
  Nat.max_lt.mpr ⟨by decide, settings.maxAttempts.toNat_lt⟩

lemma exists_endsWith (readings : Nat → Option Bool) (want : Bool) (budget : Nat) :
    ∃ state attempts, EndsWith readings want budget state attempts := by
  by_cases h : ∃ k, 1 ≤ k ∧ k ≤ budget ∧ readings k = some want
  · exact ⟨.converged, Nat.find h, .converged ⟨Nat.find_spec h, fun k hk => Nat.find_min' h hk⟩⟩
  · exact ⟨.exhausted, budget, .exhausted fun k hone hk hread => h ⟨k, hone, hk, hread⟩⟩

lemma EndsWith.le_budget {budget attempts : Nat} {state : PollEnd}
    (h : EndsWith readings want budget state attempts) : attempts ≤ budget := by
  cases h with
  | converged first => exact first.1.2.1
  | exhausted never => exact le_rfl

/-- However many rounds the poll is allowed beyond its budget, it ends where its readings end it. -/
lemma EndsWith.runFrom {state : PollEnd} {attempts left : Nat}
    (h : EndsWith readings want (budget settings) state attempts) (hleft : budget settings ≤ left) :
    (Poll.runFrom (scripted readings failures) settings left (pollAfter m expected want 0)).run
        (rehearsed m settings.wait readings 0) =
      (⟨m, expected, state, attempts⟩, rehearsed m settings.wait readings attempts) := by
  cases h with
  | converged first =>
    obtain ⟨⟨hone, hbudget, hread⟩, hleast⟩ := first
    obtain ⟨before, rfl⟩ := Nat.exists_eq_add_of_le' hone
    refine runFrom_ends ?_ hbudget (check_hit _ hread) (by omega)
    intro k hk hbefore hread
    have hfirst := hleast ⟨hk, by omega, hread⟩
    omega
  | exhausted never =>
    obtain ⟨before, hbudget⟩ := Nat.exists_eq_add_of_le' (one_le_budget settings)
    have hlast : settings.maxAttempts.toNat ≤ before + 1 := hbudget ▸ Nat.le_max_right _ _
    have hend : (pollAfter m expected want (before + 1)).check settings.maxAttempts
        (readings (before + 1)) = some ⟨m, expected, .exhausted, before + 1⟩ :=
      check_last (never (before + 1) (by omega) (by omega)) hlast
    rw [hbudget]
    exact runFrom_ends (fun k hone hk => never k hone (by omega)) (by omega) hend (by omega)

/-- A poll that waits for no lock position ends before it begins. Any other one ends where its readings
end it, whichever of its queries fail: it asks at every multiple of its wait and looks at the next one,
and it makes no more attempts than its budget, which 32 bits can count. It ends by itself, for more
rounds than the budget would change nothing. -/
theorem poll_ends_with_readings (settings : PollSettings) (m : ModuleId) (expected : Status)
    (readings : Nat → Option Bool) :
    (expected = .opened ∨ expected = .unknown → ∀ failures,
      (Poll.run (scripted readings failures) settings m expected).run .initial =
        (⟨m, expected, .exhausted, 0⟩, .initial)) ∧
    ∀ want, expected = positionStatus want → ∃ state attempts,
      EndsWith readings want (budget settings) state attempts ∧
        attempts ≤ budget settings ∧ budget settings < UInt32.size ∧
        ∀ failures,
          (Poll.run (scripted readings failures) settings m expected).run .initial =
            (⟨m, expected, state, attempts⟩, rehearsed m settings.wait readings attempts) ∧
          ∀ rounds, budget settings ≤ rounds →
            (Poll.runFrom (scripted readings failures) settings rounds ⟨m, expected, want, 0⟩).run
                .initial =
              (⟨m, expected, state, attempts⟩, rehearsed m settings.wait readings attempts) := by
  refine ⟨?_, ?_⟩
  · rintro (rfl | rfl) failures
    · rfl
    · rfl
  · intro want hwant
    obtain ⟨state, attempts, hends⟩ := exists_endsWith readings want (budget settings)
    have hstart : rehearsed m settings.wait readings 0 = .initial := by
      rw [rehearsed, Nat.zero_mul]
      rfl
    refine ⟨state, attempts, hends, hends.le_budget, budget_lt settings, fun failures => ?_⟩
    have hrun : ∀ rounds, budget settings ≤ rounds →
        (Poll.runFrom (scripted readings failures) settings rounds ⟨m, expected, want, 0⟩).run
            .initial =
          (⟨m, expected, state, attempts⟩, rehearsed m settings.wait readings attempts) := by
      intro rounds hrounds
      rw [← hstart]
      exact hends.runFrom hrounds
    refine ⟨?_, hrun⟩
    rw [Poll.run, lockState_eq_some.mpr hwant]
    exact hrun _ le_rfl

/-- The lock reads as wanted on the very last attempt, after a query that failed. -/
theorem poll_ends_with_readings_last :
    (Poll.run (scripted (fun k => some (k == 3)) fun k => if k = 2 then some .closed else none)
        ⟨500, 3⟩ ⟨"D1"⟩ .locked).run .initial =
      (⟨⟨"D1"⟩, .locked, .converged, 3⟩, ⟨1500, 3,
        [.query ⟨"D1"⟩ 0, .check ⟨"D1"⟩ 500 (some false), .query ⟨"D1"⟩ 500,
          .check ⟨"D1"⟩ 1000 (some false), .query ⟨"D1"⟩ 1000, .check ⟨"D1"⟩ 1500 (some true)]⟩) := by
  obtain ⟨-, hposition⟩ :=
    poll_ends_with_readings ⟨500, 3⟩ ⟨"D1"⟩ .locked fun k => some (k == 3)
  obtain ⟨state, attempts, hends, -, -, hrun⟩ := hposition true rfl
  cases hends with
  | converged first =>
    obtain rfl : attempts = 3 := by simpa using first.1.2.2
    rw [(hrun _).1]
    rfl
  | exhausted never => exact absurd rfl (never 3 (by decide) (by decide))

/-- A poll with a longer interval than one can wait. -/
def patientPoll : Convergence × Rehearsal :=
  (Poll.run (scripted (fun _ => none) fun _ => none) ⟨946080000001, 1⟩ ⟨"D7"⟩ .locked).run .initial

/-- Its one attempt does not take the whole interval. -/
theorem patientPoll_cut_short :
    patientPoll.1 = ⟨⟨"D7"⟩, .locked, .exhausted, 1⟩ ∧ patientPoll.2.clock = 946080000000 ∧
      patientPoll.2.clock ≠ patientPoll.1.attempts * 946080000001 := by
  decide +kernel

end HubBridge.Proofs
