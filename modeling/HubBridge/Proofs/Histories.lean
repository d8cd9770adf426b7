import HubBridge.Proofs.Turns

/-!
# Where the calls of a history begin

A history is made of turns, and so is what follows a call of it from its beginning on (`Began`). One log
serves for all calls of a history (`Recorded`): whatever a call is told, it is told by what stands in
this log behind its beginning.
-/

namespace HubBridge.Proofs

variable {σ : Type}

section Record

variable (send : Link (StateM σ)) (timing : Timing) (world : σ)

/-- A call begins at `d`, where the inputs `before` lead. The inputs `after` lead on to `e`, and `later`
is what occurs on the way. -/
structure Began (before : List Session.Input) (purpose : Purpose) (after : List Session.Input)
    (d e : Desk σ) (later : List Occurrence) : Prop where
  place : (d.session, d.world) = reached send timing world before
  free : d.flight = none
  earlier : Turns send (.start timing world) d
  turns : Turns send (d.call purpose) e
  log : e.log = (d.call purpose).log ++ later
  heard : ∀ time bytes, .heard time bytes ∈ later → .datagram time bytes ∈ after

/-- Turns lead to the desk, and to it from the beginning of each call of the history. -/
structure Recorded (inputs : List Session.Input) (e : Desk σ) : Prop where
  turns : Turns send (.start timing world) e
  calls : ∀ before purpose after, inputs = before ++ .call purpose :: after →
    ∃ d later, Began send timing world before purpose after d e later

end Record

variable {send : Link (StateM σ)} {timing : Timing} {world : σ} {inputs : List Session.Input}

lemma Began.trans {before after more : List Session.Input} {purpose : Purpose} {d e x : Desk σ}
    {later next : List Occurrence} (h : Began send timing world before purpose after d e later)
    (hturns : Turns send e x) (hlog : x.log = e.log ++ next)
    (hheard : ∀ time bytes, .heard time bytes ∈ next → .datagram time bytes ∈ more) :
    Began send timing world before purpose (after ++ more) d x (later ++ next) where
  place := h.place
  free := h.free
  earlier := h.earlier
  turns := h.turns.trans hturns
  log := by rw [hlog, h.log, List.append_assoc]
  heard time bytes hmem := by
    rcases List.mem_append.mp hmem with hmem | hmem
    · exact List.mem_append_left _ (h.heard time bytes hmem)
    · exact List.mem_append_right _ (hheard time bytes hmem)

lemma recorded_start (timing : Timing) (world : σ) :
    Recorded send timing world [] (.start timing world) where
  turns := .refl
  calls before purpose after hsplit := by cases before <;> cases hsplit

/-- The history goes on of itself. -/
lemma Recorded.go {d e : Desk σ} {more : List Occurrence}
    (h : Recorded send timing world inputs d) (hturns : Turns send d e)
    (hlog : e.log = d.log ++ more) (hunheard : ∀ time bytes, .heard time bytes ∉ more) :
    Recorded send timing world inputs e where
  turns := h.turns.trans hturns
  calls before purpose after hsplit := by
    obtain ⟨x, later, hbegan⟩ := h.calls before purpose after hsplit
    have hlater : Began send timing world before purpose (after ++ []) x e (later ++ more) :=
      hbegan.trans hturns hlog fun time bytes hmem => absurd hmem (hunheard time bytes)
    rw [List.append_nil] at hlater
    exact ⟨x, _, hlater⟩

lemma Recorded.move {x y : Session × σ} {log : List Occurrence}
    (h : Recorded send timing world inputs ⟨x.1, x.2, none, log⟩) (hmove : Move send x y) :
    ∃ more, Recorded send timing world inputs ⟨y.1, y.2, none, log ++ more⟩ ∧
      (issued more).length ≤ 1 := by
  obtain ⟨more, hturns, hslight⟩ := hmove.turns log
  exact ⟨more, h.go hturns rfl hslight.unheard, hslight.few⟩

/-- One more input is put in. If it begins a call, that is known to have begun; if it is a datagram, it
may be heard. -/
lemma Recorded.concat {d e : Desk σ} {input : Session.Input} {more : List Occurrence}
    (h : Recorded send timing world inputs d) (hturns : Turns send d e) (hlog : e.log = d.log ++ more)
    (hheard : ∀ time bytes, .heard time bytes ∈ more → input = .datagram time bytes)
    (hcall : ∀ purpose, input = .call purpose →
      ∃ d later, Began send timing world inputs purpose [] d e later) :
    Recorded send timing world (inputs ++ [input]) e where
  turns := h.turns.trans hturns
  calls before purpose after hsplit := by
    rcases List.eq_nil_or_concat after with rfl | ⟨after, last, rfl⟩
    · obtain ⟨rfl, hlast⟩ := List.append_inj' hsplit rfl
      exact hcall purpose (List.singleton_inj.mp hlast)
    · rw [List.concat_eq_append] at hsplit ⊢
      rw [← List.cons_append, ← List.append_assoc] at hsplit
      obtain ⟨hbefore, hlast⟩ := List.append_inj' hsplit rfl
      obtain rfl := List.singleton_inj.mp hlast
      obtain ⟨d, later, hbegan⟩ := h.calls before purpose after hbefore
      refine ⟨d, _, hbegan.trans hturns hlog ?_⟩
      intro time bytes hmem
      exact List.mem_singleton.mpr (hheard time bytes hmem).symm

lemma Recorded.hear {s : Session} {w : σ} {log : List Occurrence}
    (h : Recorded send timing world inputs ⟨s, w, none, log⟩) (hlistens : s.listening = true)
    (time : Int) (bytes : ByteArray) :
    Recorded send timing world (inputs ++ [.datagram time bytes])
      ⟨s.handle time (.ofDatagram bytes), w, none, log ++ [.heard time bytes]⟩ := by
  apply h.concat (.single (.hear _ time bytes hlistens)) rfl
  · intro time' bytes' hmem
    cases List.mem_singleton.mp hmem
    rfl
  · intro purpose hinput
    cases hinput

/-- An input that begins no call may as well have been put in already. -/
lemma Recorded.note {d : Desk σ} (h : Recorded send timing world inputs d) {input : Session.Input}
    (hcall : ∀ purpose, input ≠ .call purpose) :
    Recorded send timing world (inputs ++ [input]) d :=
  h.concat .refl (List.append_nil _).symm (fun _ _ hmem => nomatch hmem)
    fun purpose hinput => absurd hinput (hcall purpose)

lemma Recorded.call {s : Session} {w : σ} {log : List Occurrence}
    (h : Recorded send timing world inputs ⟨s, w, none, log⟩)
    (hplace : (s, w) = reached send timing world inputs) (purpose : Purpose) :
    let out := (s.call send purpose).run w
    ∃ more, Recorded send timing world (inputs ++ [.call purpose]) ⟨out.1.1, out.2, none, log ++ more⟩ ∧
      (issued more).length ≤ 1 := by
  obtain ⟨more, hturns, hslight⟩ := call_turns send s w log purpose
  have hbegan : Began send timing world inputs purpose [] ⟨s, w, none, log⟩ _ more :=
    ⟨hplace, rfl, h.turns, hturns, rfl,
      fun time bytes hmem => absurd hmem (hslight.unheard time bytes)⟩
  rw [Desk.call, Desk.launch_log, List.append_assoc] at hturns hbegan
  have hissued := hslight.issue (purpose.request.toCommand s.nextId)
  refine ⟨_, h.concat (.head (.call _ purpose rfl) hturns) rfl ?_ ?_, hissued.few⟩
  · intro time bytes hmem
    exact absurd hmem (hissued.unheard time bytes)
  · intro other hinput
    cases hinput
    exact ⟨_, _, hbegan⟩

end HubBridge.Proofs
