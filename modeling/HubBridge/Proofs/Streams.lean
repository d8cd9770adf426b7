import HubBridge.Proofs.TurnEffects

/-!
# Streams of observers

An observer is a member of the audience under a key of its own, and its sink is found under that key.
`Seated` says so of a whole session. What is published then reaches every observer whose receiver is
there once, at the end of what it holds.
-/

namespace HubBridge.Proofs

/-! ### Keys of sinks -/

section Sinks

variable {κ : Type} [DecidableEq κ]

def Distinct (s : Sinks κ) : Prop := (s.entries.map Prod.fst).Nodup

lemma Distinct.insert {s : Sinks κ} (h : Distinct s) (key : κ) (sink : Sink) :
    Distinct (s.insert key sink) := by
  unfold Distinct Sinks.insert
  split
  · have hkeys : (s.entries.map fun entry => if entry.1 = key then (key, sink) else entry).map
        Prod.fst = s.entries.map Prod.fst := by
      rw [List.map_map]
      apply List.map_congr_left
      intro entry _
      dsimp only [Function.comp]
      split
      · exact Eq.symm (by assumption)
      · rfl
    rw [hkeys]
    exact h
  · rename_i hnew
    rw [List.map_append]
    apply List.nodup_append.mpr
    refine ⟨h, List.nodup_singleton _, ?_⟩
    rintro a ha b hb rfl
    obtain rfl := List.mem_singleton.mp hb
    obtain ⟨entry, hentry, hfst⟩ := List.mem_map.mp ha
    exact hnew (List.any_eq_true.mpr ⟨entry, hentry, decide_eq_true hfst⟩)

lemma Distinct.erase {s : Sinks κ} (h : Distinct s) (key : κ) : Distinct (s.erase key) :=
  h.sublist (List.filter_sublist.map Prod.fst)

lemma Distinct.deliver {s : Sinks κ} (h : Distinct s) (key : κ) (e : Event) :
    Distinct (s.deliver key e).1 := by
  unfold Sinks.deliver
  cases s.get? key with
  | none => exact h
  | some sink => exact h.insert key _

lemma Distinct.told {s : Sinks κ} (h : Distinct s) (delivery : Option (Delivery κ)) :
    Distinct (delivery.toList.foldl Sinks.perform s) := by
  cases delivery with
  | none => exact h
  | some d => exact h.deliver d.requester d.event

/-! ### Publishing -/

/-- Whether a sink takes the event does not matter to the others. -/
lemma publish_fst (a : Audience κ) (sinks : Sinks κ) (e : Event) :
    (a.publish sinks e).1 = a.members.foldl (fun sinks m => (sinks.deliver m.2 e).1) sinks := by
  unfold Audience.publish
  generalize 0 = taken
  induction a.members generalizing sinks taken with
  | nil => rfl
  | cons member members ih =>
    rw [List.foldl_cons, List.foldl_cons]
    rcases hd : sinks.deliver member.2 e with ⟨after, fault | ⟨⟩⟩
    · dsimp only
      rw [hd]
      exact ih after taken
    · dsimp only
      rw [hd]
      exact ih after (taken + 1)

/-- A member of the audience that has one key to itself is told once. -/
lemma get?_publish_member {a : Audience κ} (hkeys : (a.members.map Prod.snd).Nodup) {key : κ}
    (hmember : key ∈ a.members.map Prod.snd) (sinks : Sinks κ) (e : Event) :
    (a.publish sinks e).1.get? key = (sinks.get? key).map fun sink => (sink.deliver e).1 := by
  rw [publish_fst]
  generalize a.members = members at hkeys hmember
  induction members generalizing sinks with
  | nil => cases hmember
  | cons member members ih =>
    obtain ⟨hfresh, hrest⟩ := List.nodup_cons.mp hkeys
    have hget := get?_deliver sinks member.2 key e
    rw [List.foldl_cons]
    rcases List.mem_cons.mp hmember with rfl | hmem
    · have hothers : ∀ m ∈ members, m.2 ≠ member.2 := by
        intro m hm heq
        exact hfresh (heq ▸ List.mem_map_of_mem hm)
      have hpublished := get?_publish ⟨0, members⟩ (sinks.deliver member.2 e).1 e hothers
      rw [publish_fst] at hpublished
      rw [hpublished, hget, if_pos rfl]
    · have hne : key ≠ member.2 := by
        rintro rfl
        exact hfresh hmem
      rw [ih _ hrest hmem, hget, if_neg hne]

lemma Distinct.publish {s : Sinks κ} (h : Distinct s) (a : Audience κ) (e : Event) :
    Distinct (a.publish s e).1 := by
  rw [publish_fst]
  induction a.members generalizing s with
  | nil => exact h
  | cons member members ih => exact ih (h.deliver member.2 e)

/-- The sinks after events that are published one after the other. -/
def publishAll (a : Audience κ) (sinks : Sinks κ) (events : List Event) : Sinks κ :=
  events.foldl (fun sinks e => (a.publish sinks e).1) sinks

lemma Distinct.publishAll {s : Sinks κ} (h : Distinct s) (a : Audience κ) (events : List Event) :
    Distinct (publishAll a s events) := by
  induction events generalizing s with
  | nil => exact h
  | cons e events ih => exact ih (h.publish a e)

/-- A receiver that is there finds all that was published at the end of what it holds. -/
lemma get?_publishAll_channel {a : Audience κ} (hkeys : (a.members.map Prod.snd).Nodup) {key : κ}
    (hmember : key ∈ a.members.map Prod.snd) {sinks : Sinks κ} {inbox : List Event}
    (hsink : sinks.get? key = some (.channel true inbox)) (events : List Event) :
    (publishAll a sinks events).get? key = some (.channel true (inbox ++ events)) := by
  induction events generalizing sinks inbox with
  | nil =>
    rw [List.append_nil]
    exact hsink
  | cons e events ih =>
    have htold : (a.publish sinks e).1.get? key = some (.channel true (inbox ++ [e])) := by
      rw [get?_publish_member hkeys hmember, hsink]
      rfl
    have h := ih htold
    rw [List.append_assoc] at h
    exact h

/-- A requester whose receiver is there finds what it is told at the end of what it holds. -/
lemma get?_told_channel {sinks : Sinks κ} {key : κ} {inbox : List Event}
    (hsink : sinks.get? key = some (.channel true inbox)) (delivery : Option (Delivery κ)) :
    (delivery.toList.foldl Sinks.perform sinks).get? key = some (.channel true
      (inbox ++ ((delivery.filter fun d => d.requester = key).map Delivery.event).toList)) := by
  cases delivery with
  | none => simpa using hsink
  | some d =>
    change (sinks.perform d).get? key = _
    rw [get?_perform, hsink]
    by_cases h : key = d.requester
    · rw [if_pos h, Option.filter_some, if_pos (decide_eq_true h.symm)]
      rfl
    · rw [if_neg h, Option.filter_some, if_neg (by simpa using Ne.symm h)]
      simp

end Sinks

/-! ### Observers and their seats -/

/-- Every member of the audience has its number and its key to itself, and every sink its own key. -/
structure Seated (s : Session) : Prop where
  key : ∀ member ∈ s.audience.members, member.2 = .observer member.1
  inOrder : InOrder s.audience.members
  sinks : Distinct s.sinks

lemma seated_start (timing : Timing) : Seated (.start timing) where
  key _ h := nomatch h
  inOrder := .nil
  sinks := List.nodup_nil

lemma Seated.keys {s : Session} (h : Seated s) : (s.audience.members.map Prod.snd).Nodup := by
  have hkeys : s.audience.members.map Prod.snd =
      (s.audience.members.map Prod.fst).map Party.observer := by
    rw [List.map_map]
    exact List.map_congr_left h.key
  rw [hkeys]
  exact h.inOrder.nodup.map fun a b hab => by
    cases hab
    rfl

lemma Seated.mem_keys {s : Session} (h : Seated s) {id : ObserverId}
    (hid : s.audience.contains id = true) :
    Party.observer id ∈ s.audience.members.map Prod.snd := by
  obtain ⟨member, hmember, heq⟩ := List.any_eq_true.mp hid
  rw [← of_decide_eq_true heq, ← h.key member hmember]
  exact List.mem_map_of_mem hmember

lemma Seated.same {s t : Session} (h : Seated s) (haudience : t.audience = s.audience)
    (hsinks : Distinct t.sinks) : Seated t where
  key := by rw [haudience]; exact h.key
  inOrder := by rw [haudience]; exact h.inOrder
  sinks := hsinks

/-- A newcomer is seated, and if its number was taken, in the seat of that number. -/
lemma Seated.connect {s : Session} (h : Seated s) : Seated s.connect.1 where
  key member hmember := by
    rcases of_mem_seat hmember with rfl | hmember
    · rfl
    · exact h.key member hmember
  inOrder := h.inOrder.seat _ _
  sinks := h.sinks.insert _ _

lemma Seated.disconnect {s : Session} (h : Seated s) (id : ObserverId) :
    Seated (s.disconnect id) where
  key member hmember := h.key member (List.mem_filter.mp hmember).1
  inOrder := h.inOrder.sublist List.filter_sublist
  sinks := h.sinks.erase _

lemma Seated.finish {s : Session} (h : Seated s) (call : Call) (result : CallResult) :
    Seated (s.finish call result) := h.same rfl (h.sinks.erase _)

lemma Seated.proceed {s : Session} (h : Seated s) (result : Except Failure CorrelationId)
    (errand : Errand) : Seated (errand.proceed s result) := by
  cases errand with
  | submission observer => exact h
  | opening call =>
    cases result with
    | ok id => exact h
    | error failure => exact h.finish call _
  | query call reply poll => exact h.same rfl h.sinks

lemma sinks_reserve (s : Session) (request : Request) (requester : Option Party) :
    (s.reserve request requester).1.sinks = s.sinks := by
  unfold Session.reserve
  cases requester with
  | none => rfl
  | some party =>
    dsimp only
    split <;> rfl

lemma Seated.launch {σ : Type} {d : Desk σ} (h : Seated d.session) (request : Request)
    (errand : Errand) : Seated (d.launch request errand).session := by
  have hbooks := sameBooks_reserve d.session request errand.requester
  have hsinks := sinks_reserve d.session request errand.requester
  unfold Desk.launch
  rcases hr : d.session.reserve request errand.requester with ⟨s, command, failure | ⟨⟩⟩
  · rw [hr] at hbooks hsinks
    have hs : Seated s := h.same hbooks.audience (hsinks ▸ h.sinks)
    change Seated (errand.proceed s (.error failure))
    exact hs.proceed _ errand
  · rw [hr] at hbooks hsinks
    exact h.same hbooks.audience (hsinks ▸ h.sinks)

lemma sinks_settle (s : Session) (id : CorrelationId) (cause : Option String) :
    (s.settle id cause).1.sinks = ((cause.bind fun cause =>
      (s.pending.fail id (Failure.transport cause).message).2).toList.foldl Sinks.perform s.sinks) := by
  cases cause with
  | none => rfl
  | some cause =>
    rw [settle_lost]
    rfl

variable {σ : Type} {send : Link (StateM σ)}

/-- A turn keeps every observer in its seat. -/
lemma Turn.seated {d e : Desk σ} (hturn : Turn send d e) (h : Seated d.session) :
    Seated e.session := by
  cases hturn with
  | connect => exact h.connect
  | disconnect id => exact h.disconnect id
  | shutdown => exact h.same rfl h.sinks
  | pass time htime => exact h.same rfl h.sinks
  | hear time bytes hlistens =>
    unfold Desk.hear
    rw [handle_eq]
    exact h.same rfl ((h.sinks.told _).publishAll d.session.audience _)
  | ring alarm hset hdue =>
    apply h.same (sameBooks_rung d.session alarm).audience
    unfold rung
    rw [tell_eq]
    exact h.sinks.told _
  | write text hfree => exact h
  | submit request observer hfree => exact h.launch request _
  | call purpose hfree =>
    have hopened : Seated (opened d.session purpose) := h.same rfl (h.sinks.insert _ _)
    exact Seated.launch hopened purpose.request _
  | land flight hflight =>
    have hbooks := sameBooks_settle d.session flight.command.id
      ((send flight.command.encode).run d.world).1
    have hsettled : Seated (d.session.settle flight.command.id
        ((send flight.command.encode).run d.world).1).1 := by
      apply h.same hbooks.audience
      rw [sinks_settle]
      exact h.sinks.told _
    exact hsettled.proceed _ _
  | learn call outcome hcall hstage hbusy houtcome hends => exact h.finish call _
  | inquire call outcome reply poll hcall hstage hfree houtcome hpolls => exact h.launch _ _
  | ask call reply poll wake hcall hstage hfree hdue hleft => exact h.launch _ _
  | check call reply poll wake c hcall hstage hbusy hdue hcheck => exact h.finish call _

lemma Turns.seated {d e : Desk σ} (h : Turns send d e) (hd : Seated d.session) :
    Seated e.session :=
  h.keeps (motive := fun x => Seated x.session) (fun _ _ hturn hx => hturn.seated hx) hd

/-! ### Newcomers -/

/-- The observers that joined, by their numbers, oldest first. -/
def newcomers (log : List Occurrence) : List ObserverId :=
  log.filterMap fun
    | .joined observer => some observer
    | _ => none

lemma newcomers_append (log later : List Occurrence) :
    newcomers (log ++ later) = newcomers log ++ newcomers later := List.filterMap_append

/-- Fewer observers joined than there are numbers: the counter has not come round. -/
def SeatsSuffice (log : List Occurrence) : Prop := (newcomers log).length < UInt64.size

instance (log : List Occurrence) : Decidable (SeatsSuffice log) :=
  inferInstanceAs (Decidable (_ < _))

lemma SeatsSuffice.of_prefix {log later : List Occurrence} (h : SeatsSuffice later)
    (hlog : log <+: later) : SeatsSuffice log := by
  obtain ⟨rest, rfl⟩ := hlog
  unfold SeatsSuffice at h ⊢
  rw [newcomers_append, List.length_append] at h
  omega

lemma Desk.launch_audience (d : Desk σ) (request : Request) (errand : Errand) :
    (d.launch request errand).session.audience = d.session.audience := by
  have h := (sameBooks_reserve d.session request errand.requester).audience
  unfold Desk.launch
  rcases hr : d.session.reserve request errand.requester with ⟨s, command, failure | ⟨⟩⟩
  · rw [hr] at h
    exact (audience_proceed s _ errand).1.trans h
  · rw [hr] at h
    exact h

lemma Desk.launch_newcomers (d : Desk σ) (request : Request) (errand : Errand) :
    newcomers (d.launch request errand).log = newcomers d.log := by
  rw [Desk.launch_log, newcomers_append]
  exact List.append_nil _

/-- A turn brings one observer, takes one away or leaves the audience as it is. -/
lemma Turn.audience {d e : Desk σ} (hturn : Turn send d e) :
    e = d.joined ∨ (∃ id, e = { d with session := d.session.disconnect id }) ∨
      e.session.audience = d.session.audience ∧ newcomers e.log = newcomers d.log := by
  have same : e.session.audience = d.session.audience → newcomers e.log = newcomers d.log →
      e = d.joined ∨ (∃ id, e = { d with session := d.session.disconnect id }) ∨
        e.session.audience = d.session.audience ∧ newcomers e.log = newcomers d.log :=
    fun haudience hlog => .inr (.inr ⟨haudience, hlog⟩)
  have other : ∀ x : Occurrence, newcomers [x] = [] →
      newcomers (d.log ++ [x]) = newcomers d.log := by
    intro x hx
    rw [newcomers_append, hx, List.append_nil]
  cases hturn with
  | connect => exact .inl rfl
  | disconnect id => exact .inr (.inl ⟨id, rfl⟩)
  | shutdown => exact same rfl rfl
  | pass time htime => exact same rfl rfl
  | hear time bytes hlistens =>
    refine same ?_ (other _ rfl)
    rw [Desk.hear, handle_eq]
  | ring alarm hset hdue => exact same (sameBooks_rung d.session alarm).audience (other _ rfl)
  | write text hfree => exact same rfl (other _ rfl)
  | submit request observer hfree =>
    exact same (Desk.launch_audience _ _ _) (Desk.launch_newcomers _ _ _)
  | call purpose hfree => exact same (Desk.launch_audience _ _ _) (Desk.launch_newcomers _ _ _)
  | land flight hflight =>
    exact same ((audience_proceed _ _ _).1.trans (sameBooks_settle _ _ _).audience) (other _ rfl)
  | learn call outcome hcall hstage hbusy houtcome hends => exact same rfl rfl
  | inquire call outcome reply poll hcall hstage hfree houtcome hpolls =>
    exact same (Desk.launch_audience _ _ _) (Desk.launch_newcomers _ _ _)
  | ask call reply poll wake hcall hstage hfree hdue hleft =>
    exact same (Desk.launch_audience _ _ _) (Desk.launch_newcomers _ _ _)
  | check call reply poll wake c hcall hstage hbusy hdue hcheck => exact same rfl rfl

/-- All are seated, and the counter has counted those who joined. -/
structure Gathered (d : Desk σ) : Prop extends Seated d.session where
  counts : Counts (newcomers d.log).length d.session.audience

lemma gathered_start (timing : Timing) (world : σ) : Gathered (.start timing world) where
  toSeated := seated_start timing
  counts := .empty

lemma Turn.gathered {d e : Desk σ} (hturn : Turn send d e) (h : Gathered d) : Gathered e where
  toSeated := hturn.seated h.toSeated
  counts := by
    obtain rfl | ⟨id, rfl⟩ | ⟨haudience, hlog⟩ := hturn.audience
    · rw [Desk.joined, newcomers_append, List.length_append]
      exact h.counts.add _
    · exact h.counts.remove id
    · rw [haudience, hlog]
      exact h.counts

lemma Turns.gathered {timing : Timing} {world : σ} {d : Desk σ}
    (h : Turns send (.start timing world) d) : Gathered d :=
  h.keeps (motive := Gathered) (fun _ _ hturn hx => hturn.gathered hx) (gathered_start timing world)

/-- Nobody has the number that a newcomer gets. -/
lemma Gathered.ne_nextId {d : Desk σ} (h : Gathered d) (hroom : SeatsSuffice d.joined.log)
    {id : ObserverId} (hid : d.session.audience.contains id = true) :
    d.session.audience.nextId ≠ id := by
  unfold SeatsSuffice Desk.joined at hroom
  rw [newcomers_append, List.length_append] at hroom
  obtain ⟨member, hmember, heq⟩ := List.any_eq_true.mp hid
  rw [← of_decide_eq_true heq]
  exact (h.counts.ne_nextId hroom member hmember).symm

/-! ### Attendance -/

/-- The observer is in the audience and its receiver is there. -/
def Desk.Attends (d : Desk σ) (id : ObserverId) : Prop :=
  d.session.audience.contains id = true ∧
    ∃ inbox, d.session.sinks.get? (.observer id) = some (.channel true inbox)

/-- A receiver is there to take events, one after the other. -/
def Sink.isOpen : Sink → Bool
  | .channel connected _ => connected
  | .reply .. | .broken => false

lemma any_isOpen_iff {sink : Option Sink} :
    sink.any Sink.isOpen = true ↔ ∃ inbox, sink = some (.channel true inbox) := by
  cases sink with
  | none => simp
  | some sink =>
    cases sink with
    | channel connected inbox => cases connected <;> simp [Sink.isOpen]
    | reply connected slot => simp [Sink.isOpen]
    | broken => simp [Sink.isOpen]

lemma attends_iff {d : Desk σ} {id : ObserverId} : d.Attends id ↔
    d.session.audience.contains id = true ∧
      (d.session.sinks.get? (.observer id)).any Sink.isOpen = true := by
  rw [any_isOpen_iff]
  rfl

instance (d : Desk σ) (id : ObserverId) : Decidable (d.Attends id) :=
  decidable_of_iff _ attends_iff.symm

lemma stream_eq {s : Session} {id : ObserverId} {connected : Bool} {inbox : List Event}
    (h : s.sinks.get? (.observer id) = some (.channel connected inbox)) : s.stream id = inbox := by
  rw [Session.stream, h]
  rfl

end HubBridge.Proofs
