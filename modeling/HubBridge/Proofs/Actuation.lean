import HubBridge.Proofs.SessionMoves
import HubBridge.Session.Wire

/-!
# What a converged lock call vouches for

A lock or unlock call that was acknowledged polls the module that answered, for the position that
the answer names. So its success is about the reply and not about the request: the door of the
replying module was in the acknowledged position when the call ended. That this is the door and the
position which were asked for holds exactly if the hub's reply says so.
-/

namespace HubBridge.Proofs

open Text

/-- The poll is about the module of the reply and the position that the reply acknowledges. -/
structure Follows (poll : Poll) (reply : Reply) : Prop where
  moduleId : poll.moduleId = reply.moduleId
  expected : acknowledged reply.rawAction = some poll.expected
  want : poll.expected.lockState = some poll.want

/-- The doors bear out a convergence that a reply led to. -/
structure BorneOut (doors : DoorBook) (reply : Reply) (c : Convergence) : Prop where
  moduleId : c.moduleId = reply.moduleId
  expected : acknowledged reply.rawAction = some c.expected
  door : (doors.door c.moduleId).isLocked = c.expected.lockState

/-- What a lock or unlock call has returned, if it has and there was no failure. -/
def actuation? (call : Call) : Option Actuation :=
  match call.stage with
  | .finished (.actuation (.ok actuation)) => some actuation
  | _ => none

/-- A call whose poll follows its reply, or whose convergence the doors bear out. -/
structure Sound (doors : DoorBook) (call : Call) : Prop where
  polling : ∀ reply poll wake, call.stage = .polling reply poll wake → Follows poll reply
  converged : ∀ reply c, actuation? call = some ⟨reply, some c⟩ → c.converged = true →
    BorneOut doors reply c

def PollsFollow (s : Session) : Prop :=
  ∀ call ∈ s.calls, ∀ reply poll wake, call.stage = .polling reply poll wake → Follows poll reply

variable {σ : Type} {send : Link (StateM σ)}

lemma sound_awaiting (doors : DoorBook) (number : Nat) (purpose : Purpose) :
    Sound doors ⟨number, purpose, .awaiting⟩ where
  polling _ _ _ h := nomatch h
  converged _ _ h := nomatch h

lemma sound_result (doors : DoorBook) (number : Nat) (purpose : Purpose) (outcome : Outcome) :
    Sound doors ⟨number, purpose, .finished (purpose.result outcome)⟩ := by
  constructor
  · intro reply poll wake h
    cases h
  · intro reply c h
    cases purpose with
    | command request => cases h
    | info m => cases h
    | actuate m lock =>
      cases outcome with
      | error failure => cases h
      | ok r => cases h

lemma sound_polling (doors : DoorBook) (number : Nat) (purpose : Purpose) {reply : Reply}
    {poll : Poll} (h : Follows poll reply) (wake : Nat) :
    Sound doors ⟨number, purpose, .polling reply poll.queried wake⟩ := by
  constructor
  · intro reply' poll' wake' heq
    cases heq
    exact ⟨h.moduleId, h.expected, h.want⟩
  · intro reply' c heq
    cases heq

/-- A poll converges only on the door's record. -/
lemma sound_checked {doors : DoorBook} (number : Nat) (purpose : Purpose) {reply : Reply}
    {poll : Poll} (h : Follows poll reply) {limit : UInt32} {outcome : Convergence}
    (hcheck : poll.check limit (doors.door poll.moduleId).isLocked = some outcome) :
    Sound doors ⟨number, purpose, .finished (.actuation (.ok ⟨reply, some outcome⟩))⟩ := by
  constructor
  · intro reply' poll' wake' heq
    cases heq
  · intro reply' c heq hconverged
    cases heq
    unfold Poll.check at hcheck
    by_cases hwant : (doors.door poll.moduleId).isLocked = some poll.want
    · rw [if_pos hwant, Option.some_inj] at hcheck
      subst hcheck
      exact ⟨h.moduleId, h.expected, hwant.trans h.want.symm⟩
    · rw [if_neg hwant] at hcheck
      split at hcheck
      · rw [Option.some_inj] at hcheck
        subst hcheck
        cases hconverged
      · cases hcheck

lemma mem_calls_finish {s : Session} {call x : Call} {result : CallResult}
    (h : x ∈ (s.finish call result).calls) :
    x = ⟨call.number, call.purpose, .finished result⟩ ∨ x ∈ s.calls :=
  (mem_calls_setCall h).imp_right And.left

lemma mem_calls_query {s : Session} {w : σ} {call x : Call} {reply : Reply} {poll : Poll}
    (h : x ∈ ((s.query send call reply poll).run w).1.calls) :
    (∃ wake, x = ⟨call.number, call.purpose, .polling reply poll.queried wake⟩) ∨ x ∈ s.calls := by
  rw [query_run] at h
  rcases mem_calls_setCall h with hx | ⟨hx, -⟩
  · exact .inl ⟨_, hx⟩
  · rw [(sameBooks_dispatch send s w (.status poll.moduleId) none).calls] at hx
    exact .inr hx

/-- A move that changes a call makes a sound one of it. -/
lemma Move.sound {x y : Session × σ} (h : Move send x y) (hpolls : PollsFollow x.1) :
    ∀ call ∈ y.1.calls, call ∈ x.1.calls ∨ Sound y.1.doors call := by
  cases h with
  | connect s w => exact fun _ hc => .inl hc
  | disconnect s w id => exact fun _ hc => .inl hc
  | shutdown s w => exact fun _ hc => .inl hc
  | write s w text => exact fun _ hc => .inl hc
  | pass s w time htime => exact fun _ hc => .inl hc
  | submit s w request observer =>
    intro call hc
    rw [(sameBooks_dispatch send s w request (observer.map .observer)).calls] at hc
    exact .inl hc
  | ring s w alarm hdue =>
    intro call hc
    rw [(sameBooks_rung s alarm).calls] at hc
    exact .inl hc
  | call s w purpose =>
    have hopened : ∀ t, SameBooks (opened s purpose) t → ∀ call ∈ t.calls,
        call ∈ s.calls ∨ Sound t.doors call := by
      intro t hbooks call hc
      rw [hbooks.calls] at hc
      rcases List.mem_append.mp hc with hc | hc
      · exact .inl hc
      · rw [List.mem_singleton.mp hc]
        exact .inr (sound_awaiting t.doors (s.called + 1) purpose)
    obtain ⟨t, hbooks, ht | ⟨failure, ht⟩⟩ := call_begins send s w purpose
    · rw [ht]
      exact hopened t hbooks
    · rw [ht]
      intro call hc
      rcases mem_calls_finish hc with rfl | hc
      · exact .inr (sound_result _ _ purpose _)
      · exact hopened t hbooks call hc
  | resume s w call outcome hcall hstage houtcome =>
    intro x hx
    rcases conclude_run send s w call outcome with
      ⟨m, lock, reply, expected, want, -, -, hack, hwant, hrun⟩ | ⟨-, hrun⟩
    · rw [hrun] at hx ⊢
      rcases mem_calls_query hx with ⟨wake, rfl⟩ | hx
      · exact .inr (sound_polling _ _ _ ⟨rfl, hack, hwant⟩ wake)
      · exact .inl hx
    · rw [hrun] at hx ⊢
      rcases mem_calls_finish hx with rfl | hx
      · exact .inr (sound_result _ _ call.purpose outcome)
      · exact .inl hx
  | wake s w call reply poll time hdue =>
    -- The only move that reads a door; it reads the one that the poll follows.
    intro x hx
    obtain ⟨hcall, hstage⟩ := nextDue?_eq_wake hdue
    have hfollows := hpolls call hcall reply poll time hstage
    rw [fire_wake_run] at hx ⊢
    cases hcheck : poll.check s.timing.poll.maxAttempts (s.doors.door poll.moduleId).isLocked with
    | some outcome =>
      rw [hcheck] at hx
      rcases mem_calls_finish hx with rfl | hx
      · exact .inr (sound_checked _ _ hfollows hcheck)
      · exact .inl hx
    | none =>
      rw [hcheck] at hx
      rcases mem_calls_query hx with ⟨wake, rfl⟩ | hx
      · exact .inr (sound_polling _ _ _ hfollows wake)
      · exact .inl hx

lemma pollsFollow_of_sound {s t : Session} {doors : DoorBook} (hpolls : PollsFollow s)
    (h : ∀ call ∈ t.calls, call ∈ s.calls ∨ Sound doors call) : PollsFollow t := by
  intro call hcall reply poll wake hstage
  rcases h call hcall with hold | hsound
  · exact hpolls call hold reply poll wake hstage
  · exact hsound.polling reply poll wake hstage

lemma pollsFollow_reached (timing : Timing) (world : σ) (inputs : List Session.Input) :
    PollsFollow (reached send timing world inputs).1 := by
  refine reached_induction (motive := fun x => PollsFollow x.1) ?_ ?_ ?_ inputs
  · intro call hcall
    cases hcall
  · intro s w time bytes _ hpolls call hcall
    rw [(handle_calls s time _).1] at hcall
    exact hpolls call hcall
  · intro x y hmove hpolls
    exact pollsFollow_of_sound hpolls (hmove.sound hpolls)

/-- Since moves leave the doors as they are, what a call vouched for when it ended still holds after
the moves that came later. -/
lemma Moves.sound {x y : Session × σ} (h : Moves send x y) (hpolls : PollsFollow x.1) :
    ∀ call ∈ y.1.calls, call ∈ x.1.calls ∨ Sound y.1.doors call := by
  have hkeeps := h.keeps
    (motive := fun z => PollsFollow z.1 ∧
      ∀ call ∈ z.1.calls, call ∈ x.1.calls ∨ Sound z.1.doors call)
  refine (hkeeps ?_ ⟨hpolls, fun _ hc => .inl hc⟩).2
  rintro z t hmove ⟨hz, hsound⟩
  have hnew := hmove.sound hz
  refine ⟨pollsFollow_of_sound hz hnew, ?_⟩
  intro call hcall
  rcases hnew call hcall with hold | hcall
  · rw [hmove.doors]
    exact hsound call hold
  · exact .inr hcall

/-- When a lock or unlock call ends as converged, the door of the module that replied has its lock in
the position that the reply acknowledged. This is the requested position of the requested door exactly
if the reply came from that module and echoed the requested action. -/
theorem converged_as_asked_iff (timing : Timing) (world : σ) (inputs : List Session.Input)
    (input : Session.Input) {call : Call} {m : ModuleId} {lock : Bool} {reply : Reply}
    {c : Convergence} (hcall : call ∈ (reached send timing world (inputs ++ [input])).1.calls)
    (hnew : call ∉ (reached send timing world inputs).1.calls)
    (hpurpose : call.purpose = .actuate m lock) (hresult : actuation? call = some ⟨reply, some c⟩)
    (hconverged : c.converged = true) :
    let doors := (reached send timing world (inputs ++ [input])).1.doors
    (c.moduleId = reply.moduleId ∧ ∃ locked, trim reply.rawAction = lockCommand locked ∧
        c.expected = positionStatus locked ∧ (doors.door reply.moduleId).isLocked = some locked) ∧
      (c.moduleId = m ∧ c.expected = positionStatus lock ∧ (doors.door m).isLocked = some lock ↔
        reply.moduleId = m ∧ trim reply.rawAction = call.purpose.request.action) := by
  have hmoves := reached_moves send timing world inputs input
  have hpolls : PollsFollow (heard (reached send timing world inputs).1 input) := by
    intro x hx
    rw [(heard_calls _ input).1] at hx
    exact pollsFollow_reached timing world inputs x hx
  have hsound : Sound (reached send timing world (inputs ++ [input])).1.doors call := by
    rcases hmoves.sound hpolls call hcall with hold | hsound
    · rw [(heard_calls _ input).1] at hold
      exact absurd hold hnew
    · exact hsound
  generalize (reached send timing world (inputs ++ [input])).1.doors = doors at hsound
  obtain ⟨hmodule, hack, hdoor⟩ := hsound.converged reply c hresult hconverged
  obtain ⟨locked, haction, hexpected⟩ := acknowledged_eq_some.mp hack
  rw [hmodule, lockState_eq_some.mpr hexpected] at hdoor
  refine ⟨⟨hmodule, locked, haction, hexpected, hdoor⟩, ?_⟩
  have hrequest : call.purpose.request.action = lockCommand lock := by
    rw [hpurpose]
    cases lock <;> rfl
  rw [hrequest, haction, hmodule, hexpected, positionStatus_inj, lockCommand_inj]
  constructor
  · rintro ⟨hm, hlock, -⟩
    exact ⟨hm, hlock⟩
  · rintro ⟨rfl, rfl⟩
    exact ⟨rfl, rfl, hdoor⟩

/-- A session after some inputs, if nothing is lost on the way to the hub and a poll asks once. -/
def faultless (inputs : List Session.Input) : Session × Wire :=
  reached (Wire.link fun _ => none) ⟨5000, ⟨500, 1⟩⟩ .idle inputs

/-- Lock `D1`, which the hub acknowledges and then reports. -/
def promptHub : List Session.Input :=
  [.call (.actuate ⟨"D1"⟩ true), .datagram 0 "D1 FEEDBACK 1 D0 LOCK".toUTF8,
    .datagram 0 "D1 EVENT D0 LOCK LOCKED".toUTF8]

/-- Lock `D1`, to which the hub answers with the release of another door. -/
def strayHub : List Session.Input :=
  [.call (.actuate ⟨"D1"⟩ true), .datagram 0 "D9 FEEDBACK 1 D0 UNLOCK".toUTF8,
    .datagram 0 "D9 EVENT D0 LOCK UNLOCKED".toUTF8]

lemma not_mem_of_actuation? {calls : List Call} {call : Call} {actuation : Actuation}
    (h : ∀ call ∈ calls, actuation? call = none) (hcall : actuation? call = some actuation) :
    call ∉ calls := by
  intro hmem
  rw [h call hmem] at hcall
  cases hcall

/-- The hub acknowledged the request, so the call to lock `D1` vouches for `D1`. -/
theorem converged_prompt :
    ∃ call ∈ (faultless (promptHub ++ [.advance 500])).1.calls,
      call ∉ (faultless promptHub).1.calls ∧ call.purpose = .actuate ⟨"D1"⟩ true ∧
      ∃ reply c, actuation? call = some ⟨reply, some c⟩ ∧ c.converged = true ∧
        c.moduleId = ⟨"D1"⟩ ∧ c.expected = .locked ∧
        ((faultless (promptHub ++ [.advance 500])).1.doors.door ⟨"D1"⟩).isLocked = some true := by
  have hafter : ∃ call ∈ (faultless (promptHub ++ [.advance 500])).1.calls,
      call.purpose = .actuate ⟨"D1"⟩ true ∧
        actuation? call = some ⟨⟨⟨"D1"⟩, ⟨1⟩, ⟨"D0"⟩, .unknown, "LOCK"⟩,
          some ⟨⟨"D1"⟩, .locked, .converged, 1⟩⟩ := by
    decide +kernel
  have hbefore : ∀ call ∈ (faultless promptHub).1.calls, actuation? call = none := by
    decide +kernel
  obtain ⟨call, hcall, hpurpose, hresult⟩ := hafter
  have hnew := not_mem_of_actuation? hbefore hresult
  have hasked : trim "LOCK" = call.purpose.request.action := by
    rw [hpurpose]
    decide +kernel
  unfold faultless at hcall hnew ⊢
  have h := converged_as_asked_iff _ _ promptHub (.advance 500) hcall hnew hpurpose hresult rfl
  exact ⟨call, hcall, hnew, hpurpose, _, _, hresult, rfl, h.2.mpr ⟨rfl, hasked⟩⟩

/-- The call to lock `D1` reports success because another door was released. -/
theorem converged_stray :
    ∃ call ∈ (faultless (strayHub ++ [.advance 500])).1.calls,
      call ∉ (faultless strayHub).1.calls ∧ call.purpose = .actuate ⟨"D1"⟩ true ∧
      ∃ reply c, actuation? call = some ⟨reply, some c⟩ ∧ c.converged = true ∧
        c.moduleId = ⟨"D9"⟩ ∧ c.expected = .unlocked ∧
        ((faultless (strayHub ++ [.advance 500])).1.doors.door ⟨"D1"⟩).isLocked = none := by
  have hafter : ∃ call ∈ (faultless (strayHub ++ [.advance 500])).1.calls,
      call.purpose = .actuate ⟨"D1"⟩ true ∧
        actuation? call = some ⟨⟨⟨"D9"⟩, ⟨1⟩, ⟨"D0"⟩, .unknown, "UNLOCK"⟩,
          some ⟨⟨"D9"⟩, .unlocked, .converged, 1⟩⟩ := by
    decide +kernel
  have hbefore : ∀ call ∈ (faultless strayHub).1.calls, actuation? call = none := by
    decide +kernel
  have hdoor : ((faultless (strayHub ++ [.advance 500])).1.doors.door ⟨"D1"⟩).isLocked = none := by
    decide +kernel
  obtain ⟨call, hcall, hpurpose, hresult⟩ := hafter
  exact ⟨call, hcall, not_mem_of_actuation? hbefore hresult, hpurpose, _, _, hresult, rfl, rfl, rfl,
    hdoor⟩

end HubBridge.Proofs
