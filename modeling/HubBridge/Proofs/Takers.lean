import HubBridge.Proofs.Streams

/-!
# Who takes an event

An event is handed to one member of an audience after the other. Members may share a sink, and a slot
is used up by the first of them, so `takers` goes along with the sinks. A receiver that is there takes
the event whoever had it before, and if no sink is a slot, nobody else does.
-/

namespace HubBridge.Proofs

variable {κ : Type} [DecidableEq κ]

/-! ### The takers of a publication -/

/-- The members of an audience whose sinks take the event, which is handed to one after the other. -/
def takers (e : Event) : Sinks κ → List (ObserverId × κ) → List (ObserverId × κ)
  | _, [] => []
  | sinks, member :: members =>
    match sinks.deliver member.2 e with
    | (sinks, .ok ()) => member :: takers e sinks members
    | (sinks, .error _) => takers e sinks members

lemma takers_cons_of_ok {e : Event} {sinks after : Sinks κ} {member : ObserverId × κ}
    (h : sinks.deliver member.2 e = (after, .ok ())) (members : List (ObserverId × κ)) :
    takers e sinks (member :: members) = member :: takers e after members := by
  rw [takers, h]

lemma takers_cons_of_error {e : Event} {sinks after : Sinks κ} {member : ObserverId × κ}
    {fault : SinkFault} (h : sinks.deliver member.2 e = (after, .error fault))
    (members : List (ObserverId × κ)) :
    takers e sinks (member :: members) = takers e after members := by
  rw [takers, h]

lemma publish_snd (a : Audience κ) (sinks : Sinks κ) (e : Event) :
    (a.publish sinks e).2 = (takers e sinks a.members).length := by
  unfold Audience.publish
  -- The publication counts on from any number.
  rw [← Nat.zero_add (takers e sinks a.members).length]
  generalize 0 = taken
  induction a.members generalizing sinks taken with
  | nil => rfl
  | cons member members ih =>
    rw [List.foldl_cons]
    rcases hd : sinks.deliver member.2 e with ⟨after, fault | ⟨⟩⟩
    · dsimp only
      rw [hd, takers_cons_of_error hd]
      exact ih after taken
    · dsimp only
      rw [hd, takers_cons_of_ok hd, List.length_cons, ← Nat.add_assoc, Nat.add_right_comm]
      exact ih after (taken + 1)

lemma takers_sublist (e : Event) (sinks : Sinks κ) (members : List (ObserverId × κ)) :
    List.Sublist (takers e sinks members) members := by
  induction members generalizing sinks with
  | nil => exact List.Sublist.refl _
  | cons member members ih =>
    rcases hd : sinks.deliver member.2 e with ⟨after, fault | ⟨⟩⟩
    · rw [takers_cons_of_error hd]
      exact (ih after).cons member
    · rw [takers_cons_of_ok hd]
      exact (ih after).cons_cons member

/-! ### Receivers that are there -/

lemma get?_modify (s : Sinks κ) (key other : κ) (f : Sink → Sink) :
    (s.modify key f).get? other = if other = key then (s.get? key).map f else s.get? other := by
  have hkeys : (fun entry : κ × Sink => decide (entry.1 = other)) ∘
      (fun entry => if entry.1 = key then (key, f entry.2) else entry) =
      fun entry => decide (entry.1 = other) := by
    funext entry
    dsimp only [Function.comp]
    split
    · rename_i h
      rw [h]
    · rfl
  unfold Sinks.modify Sinks.get?
  rw [List.find?_map, hkeys, Option.map_map]
  split
  · rename_i h
    subst h
    rw [Option.map_map]
    apply Option.map_congr
    intro entry hentry
    have hfst : entry.1 = other := by simpa using List.find?_some hentry
    simp [hfst]
  · rename_i h
    apply Option.map_congr
    intro entry hentry
    have hfst : entry.1 = other := by simpa using List.find?_some hentry
    simp [hfst, h]

/-- The receiver of this key is there to take what it is told. -/
def works (sinks : Sinks κ) (key : κ) : Bool := (sinks.get? key).any Sink.isOpen

lemma works_iff {sinks : Sinks κ} {key : κ} :
    works sinks key = true ↔ ∃ inbox, sinks.get? key = some (.channel true inbox) := any_isOpen_iff

lemma isOpen_deliver (sink : Sink) (e : Event) :
    Sink.isOpen (sink.deliver e).1 = Sink.isOpen sink := by
  cases sink with
  | channel connected inbox => cases connected <;> rfl
  | reply connected slot =>
    unfold Sink.deliver
    dsimp only
    split
    · rfl
    · split <;> rfl
    · rfl
  | broken => rfl

lemma works_deliver (sinks : Sinks κ) (key other : κ) (e : Event) :
    works (sinks.deliver key e).1 other = works sinks other := by
  unfold works
  rw [get?_deliver]
  split
  · rename_i heq
    rw [heq, Option.any_map]
    congr 1
    funext sink
    exact isOpen_deliver sink e
  · rfl

lemma works_publish (a : Audience κ) (sinks : Sinks κ) (e : Event) (key : κ) :
    works (a.publish sinks e).1 key = works sinks key := by
  rw [publish_fst]
  induction a.members generalizing sinks with
  | nil => rfl
  | cons member members ih => rw [List.foldl_cons, ih, works_deliver]

lemma deliver_of_works {sinks : Sinks κ} {key : κ} (h : works sinks key = true) (e : Event) :
    ∃ after, sinks.deliver key e = (after, .ok ()) := by
  obtain ⟨inbox, hget⟩ := works_iff.mp h
  unfold Sinks.deliver
  rw [hget]
  exact ⟨_, rfl⟩

/-- Whoever had the event before, an observer whose receiver is there takes it. -/
lemma mem_takers_of_works {e : Event} {sinks : Sinks κ} {members : List (ObserverId × κ)}
    {member : ObserverId × κ} (hmem : member ∈ members) (hworks : works sinks member.2 = true) :
    member ∈ takers e sinks members := by
  induction members generalizing sinks with
  | nil => cases hmem
  | cons first members ih =>
    have hworks' := works_deliver sinks first.2 member.2 e
    rcases hd : sinks.deliver first.2 e with ⟨after, fault | ⟨⟩⟩
    · rw [takers_cons_of_error hd]
      rw [hd, hworks] at hworks'
      rcases List.mem_cons.mp hmem with rfl | hmem
      · obtain ⟨after', hok⟩ := deliver_of_works hworks e
        rw [hok] at hd
        cases hd
      · exact ih hmem hworks'
    · rw [takers_cons_of_ok hd]
      rw [hd, hworks] at hworks'
      rcases List.mem_cons.mp hmem with rfl | hmem
      · exact List.mem_cons_self
      · exact List.mem_cons_of_mem first (ih hmem hworks')

lemma deliver_of_not_works {sinks : Sinks κ} {key : κ} (h : works sinks key = false)
    (hslot : ∀ connected slot, sinks.get? key ≠ some (.reply connected slot)) (e : Event) :
    ∃ after fault, sinks.deliver key e = (after, .error fault) := by
  unfold works at h
  unfold Sinks.deliver
  cases hget : sinks.get? key with
  | none => exact ⟨_, _, rfl⟩
  | some sink =>
    rw [hget] at h
    cases sink with
    | channel connected inbox =>
      obtain rfl : connected = false := h
      exact ⟨_, _, rfl⟩
    | reply connected slot => exact absurd hget (hslot connected slot)
    | broken => exact ⟨_, _, rfl⟩

/-! ### Sinks that are not used up -/

/-- No sink is a slot for one reply, so that each takes all that it is told or nothing. -/
def Steady (sinks : Sinks κ) : Prop :=
  ∀ key connected slot, sinks.get? key ≠ some (.reply connected slot)

lemma Steady.deliver {sinks : Sinks κ} (h : Steady sinks) (key : κ) (e : Event) :
    Steady (sinks.deliver key e).1 := by
  intro other connected slot hget
  rw [get?_deliver] at hget
  split at hget
  · obtain ⟨sink, hsink, hdeliver⟩ := Option.map_eq_some_iff.mp hget
    cases sink with
    | channel connected inbox => cases connected <;> cases hdeliver
    | reply connected slot => exact h key connected slot hsink
    | broken => cases hdeliver
  · exact h other connected slot hget

lemma Steady.takers_eq {sinks : Sinks κ} (h : Steady sinks) (e : Event)
    (members : List (ObserverId × κ)) :
    takers e sinks members = members.filter fun member => works sinks member.2 := by
  induction members generalizing sinks with
  | nil => rfl
  | cons member members ih =>
    -- The first delivery does not change who is there, whether it is taken or not.
    have hafter : ∀ after answer, sinks.deliver member.2 e = (after, answer) →
        takers e after members = members.filter fun member => works sinks member.2 := by
      intro after answer hd
      have hsteady := h.deliver member.2 e
      have hworks := fun other => works_deliver sinks member.2 other e
      rw [hd] at hsteady hworks
      rw [ih hsteady]
      exact List.filter_congr fun other _ => hworks other.2
    rw [List.filter_cons]
    cases hw : works sinks member.2 with
    | true =>
      obtain ⟨after, hd⟩ := deliver_of_works hw e
      rw [takers_cons_of_ok hd, hafter _ _ hd, if_pos rfl]
    | false =>
      obtain ⟨after, fault, hd⟩ := deliver_of_not_works hw (h member.2) e
      rw [takers_cons_of_error hd, hafter _ _ hd, if_neg Bool.false_ne_true]

lemma Steady.publish {sinks : Sinks κ} (h : Steady sinks) (a : Audience κ) (e : Event) :
    Steady (a.publish sinks e).1 := by
  rw [publish_fst]
  induction a.members generalizing sinks with
  | nil => exact h
  | cons member members ih => exact ih (h.deliver member.2 e)

/-! ### Streams -/

/-- A stream grows by an event once for each taker that has its key. -/
lemma get?_publish_channel {a : Audience κ} {sinks : Sinks κ} {key : κ} {connected : Bool}
    {inbox : List Event} (hget : sinks.get? key = some (.channel connected inbox)) (e : Event) :
    (a.publish sinks e).1.get? key = some (.channel connected (inbox ++
      ((takers e sinks a.members).filter fun member => member.2 = key).map fun _ => e)) := by
  rw [publish_fst]
  induction a.members generalizing sinks inbox with
  | nil => rw [takers, List.filter_nil, List.map_nil, List.append_nil, List.foldl_nil, hget]
  | cons member members ih =>
    rw [List.foldl_cons]
    have hafter := get?_deliver sinks member.2 key e
    by_cases hkey : member.2 = key
    · rw [if_pos hkey.symm, hkey, hget, Option.map_some] at hafter
      cases connected with
      | true =>
        obtain ⟨after, hd⟩ := deliver_of_works (works_iff.mpr ⟨inbox, hget⟩) e
        rw [hd] at hafter
        rw [takers_cons_of_ok (hkey ▸ hd), List.filter_cons, if_pos (decide_eq_true hkey), hkey, hd,
          ih hafter, List.append_assoc]
        rfl
      | false =>
        have hworks : works sinks key = false := by rw [works, hget]; rfl
        obtain ⟨after, fault, hd⟩ := deliver_of_not_works hworks (by simp [hget]) e
        rw [hd] at hafter
        rw [takers_cons_of_error (hkey ▸ hd), hkey, hd, ih hafter]
    · rw [if_neg (Ne.symm hkey), hget] at hafter
      rw [ih hafter]
      rcases hd : sinks.deliver member.2 e with ⟨after, fault | ⟨⟩⟩
      · rw [takers_cons_of_error hd]
      · rw [takers_cons_of_ok hd, List.filter_cons, if_neg (by simpa using hkey)]

end HubBridge.Proofs
