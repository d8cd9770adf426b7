import HubBridge.Proofs.Takers
import Mathlib.Data.List.Induction
import Mathlib.Data.List.Infix
import Mathlib.Data.List.Nodup
import Mathlib.Data.List.Range
import Mathlib.Tactic.Lemma

/-!
# Broadcasts in a hall

Observers come to a hall and leave it, and what is published there is handed to all who are present.
Who is present (`Present`) is read off the inputs alone, and the audience is shown to hold just these
observers. What an observer receives whose receiver is there is then told by its stay, whatever the
others do and whatever becomes of their sinks.
-/

namespace HubBridge.Proofs

/-- An audience and the sinks of its members. -/
structure Hall (κ : Type) where
  audience : Audience κ
  sinks : Sinks κ

namespace Hall

inductive Input (κ : Type)
  | add (key : κ)
  | remove (id : ObserverId)
  | publish (e : Event)
  /-- The receiver of a sink goes away. -/
  | hangUp (key : κ)

inductive Answer
  | joined (id : ObserverId)
  | left (there : Bool)
  | reached (count : Nat)
  | silent
  deriving DecidableEq

/-- An observer's sink took an event. -/
structure Receipt (κ : Type) where
  observer : ObserverId
  key : κ
  event : Event

namespace Input

variable {κ : Type}

def isAdd : Input κ → Bool
  | .add _ => true
  | .remove _ | .publish _ | .hangUp _ => false

def event? : Input κ → Option Event
  | .publish e => some e
  | .add _ | .remove _ | .hangUp _ => none

end Input

def Answer.joined? : Answer → Option ObserverId
  | .joined id => some id
  | .left _ | .reached _ | .silent => none

variable {κ : Type}

def adds (inputs : List (Input κ)) : Nat := inputs.countP Input.isAdd

def published (inputs : List (Input κ)) : List Event := inputs.filterMap Input.event?

lemma published_append (inputs more : List (Input κ)) :
    published (inputs ++ more) = published inputs ++ published more := List.filterMap_append

/-- The observer joined with the sink of this key and was not removed since. -/
def Present (inputs : List (Input κ)) (id : ObserverId) (key : κ) : Prop :=
  ∃ before after, inputs = before ++ .add key :: after ∧ id = nth (adds before + 1) ∧
    .remove id ∉ after

/-- Fewer observers joined than there are numbers: the counter has not come round. -/
def NumbersSuffice (inputs : List (Input κ)) : Prop := adds inputs < UInt64.size

instance (inputs : List (Input κ)) : Decidable (NumbersSuffice inputs) :=
  inferInstanceAs (Decidable (_ < _))

/-! ### Who is present -/

lemma adds_append (inputs more : List (Input κ)) : adds (inputs ++ more) = adds inputs + adds more :=
  List.countP_append

lemma adds_cons_add (key : κ) (inputs : List (Input κ)) :
    adds (.add key :: inputs) = adds inputs + 1 := List.countP_cons_of_pos rfl

lemma adds_le_of_prefixed {first inputs : List (Input κ)} (h : first <+: inputs) :
    adds first ≤ adds inputs := by
  obtain ⟨rest, rfl⟩ := h
  rw [adds_append]
  exact Nat.le_add_right _ _

lemma NumbersSuffice.of_prefix {first inputs : List (Input κ)} (h : NumbersSuffice inputs)
    (hfirst : first <+: inputs) : NumbersSuffice first :=
  Nat.lt_of_le_of_lt (adds_le_of_prefixed hfirst) h

lemma NumbersSuffice.concat_add {inputs : List (Input κ)} {key : κ}
    (h : NumbersSuffice (inputs ++ [.add key])) : adds inputs + 1 < UInt64.size := by
  unfold NumbersSuffice at h
  rwa [adds_append, adds_cons_add] at h

/-- So many joined when an observer did tells at which input that was. -/
lemma split_unique {before before' after after' : List (Input κ)} {key key' : κ}
    (hsplit : before ++ .add key :: after = before' ++ .add key' :: after')
    (hadds : adds before = adds before') : before = before' ∧ key = key' ∧ after = after' := by
  -- Where only one of the two sides has come to its joining, the other counts one more.
  induction before generalizing before' with
  | nil =>
    cases before' with
    | nil =>
      obtain ⟨hkey, hafter⟩ := List.cons_eq_cons.mp hsplit
      exact ⟨rfl, Input.add.inj hkey, hafter⟩
    | cons input before' =>
      obtain ⟨rfl, -⟩ := List.cons_eq_cons.mp hsplit
      rw [adds_cons_add] at hadds
      cases hadds
  | cons input before ih =>
    cases before' with
    | nil =>
      obtain ⟨rfl, -⟩ := List.cons_eq_cons.mp hsplit
      rw [adds_cons_add] at hadds
      cases hadds
    | cons input' before' =>
      obtain ⟨rfl, hrest⟩ := List.cons_eq_cons.mp hsplit
      have hadds' : adds before = adds before' := by
        unfold adds at hadds
        rw [List.countP_cons, List.countP_cons] at hadds
        exact Nat.add_right_cancel hadds
      obtain ⟨rfl, hkey, hafter⟩ := ih hrest hadds'
      exact ⟨rfl, hkey, hafter⟩

lemma succ_adds_le (before after : List (Input κ)) (key : κ) :
    adds before + 1 ≤ adds (before ++ .add key :: after) := by
  rw [adds_append, adds_cons_add]
  exact Nat.add_le_add_left (Nat.le_add_left _ _) _

/-- While the numbers suffice, a number tells at which input its observer joined. -/
lemma split_of_nth {before before' after after' : List (Input κ)} {key key' : κ}
    (hroom : NumbersSuffice (before ++ .add key :: after))
    (hsplit : before ++ .add key :: after = before' ++ .add key' :: after')
    (hid : nth (adds before + 1) = nth (adds before' + 1)) :
    before = before' ∧ key = key' ∧ after = after' := by
  have hle := succ_adds_le before after key
  have hle' := succ_adds_le before' after' key'
  rw [← hsplit] at hle'
  have hadds := nth_inj (Nat.lt_of_le_of_lt hle hroom) (Nat.lt_of_le_of_lt hle' hroom) hid
  exact split_unique hsplit (Nat.succ.inj hadds)

lemma Present.not_removed {before after : List (Input κ)} {key key' : κ}
    (hroom : NumbersSuffice (before ++ .add key :: after))
    (h : Present (before ++ .add key :: after) (nth (adds before + 1)) key') :
    .remove (nth (adds before + 1)) ∉ after := by
  obtain ⟨before', after', hsplit, hid, hstays⟩ := h
  obtain ⟨rfl, rfl, rfl⟩ := split_of_nth hroom hsplit hid
  exact hstays

/-- Nobody is present under a number that is still to come. -/
lemma not_present_of_later {first inputs : List (Input κ)} (hfirst : first <+: inputs)
    (hroom : adds inputs + 1 < UInt64.size) (key : κ) :
    ¬Present first (nth (adds inputs + 1)) key := by
  rintro ⟨before, after, rfl, hid, -⟩
  have hle := (succ_adds_le before after key).trans (adds_le_of_prefixed hfirst)
  have hsame := nth_inj hroom (by omega) hid
  omega

lemma nodup_numbers {inputs : List (Input κ)} (hroom : NumbersSuffice inputs) :
    ((List.range' 1 (adds inputs)).map nth).Nodup := by
  apply List.Nodup.map_on _ List.nodup_range'
  intro m hm n hn hsame
  have hbound : ∀ m ∈ List.range' 1 (adds inputs), m < UInt64.size := by
    intro m hm
    have h := (List.mem_range'_1.mp hm).2
    unfold NumbersSuffice at hroom
    omega
  exact nth_inj (hbound m hm) (hbound n hn) hsame

/-- Who is present after one more input: who was and is not removed, and who joins with it. -/
lemma present_concat_iff {inputs : List (Input κ)} {input : Input κ} {id : ObserverId} {key : κ} :
    Present (inputs ++ [input]) id key ↔
      Present inputs id key ∧ input ≠ .remove id ∨
        input = .add key ∧ id = nth (adds inputs + 1) := by
  constructor
  · rintro ⟨before, after, hsplit, hid, hstays⟩
    rcases List.eq_nil_or_concat after with rfl | ⟨after, last, rfl⟩
    · obtain ⟨rfl, hlast⟩ := List.append_inj' hsplit rfl
      exact .inr ⟨List.singleton_inj.mp hlast, hid⟩
    · rw [List.concat_eq_append] at hsplit hstays
      rw [← List.cons_append, ← List.append_assoc] at hsplit
      obtain ⟨rfl, hlast⟩ := List.append_inj' hsplit rfl
      obtain rfl := List.singleton_inj.mp hlast
      refine .inl ⟨⟨before, after, rfl, hid, fun hmem => ?_⟩, ?_⟩
      · exact hstays (List.mem_append_left _ hmem)
      · rintro rfl
        exact hstays (List.mem_append_right _ (List.mem_singleton_self _))
  · rintro (⟨⟨before, after, rfl, hid, hstays⟩, hne⟩ | ⟨rfl, hid⟩)
    · refine ⟨before, after ++ [input], by rw [List.append_assoc, List.cons_append], hid, ?_⟩
      intro hmem
      rcases List.mem_append.mp hmem with hmem | hmem
      · exact hstays hmem
      · exact hne (List.mem_singleton.mp hmem).symm
    · exact ⟨inputs, [], rfl, hid, List.not_mem_nil⟩

/-! ### Members with numbers of their own -/

lemma filter_fst_of_mem {members : List (ObserverId × κ)} (h : (members.map Prod.fst).Nodup)
    {member : ObserverId × κ} (hmem : member ∈ members) :
    members.filter (fun m => m.1 = member.1) = [member] := by
  induction members with
  | nil => cases hmem
  | cons first members ih =>
    obtain ⟨hfresh, hrest⟩ := List.nodup_cons.mp h
    rcases List.mem_cons.mp hmem with rfl | hmem
    · have hothers : members.filter (fun m => m.1 = member.1) = [] := by
        apply List.filter_eq_nil_iff.mpr
        intro m hm heq
        exact hfresh (of_decide_eq_true heq ▸ List.mem_map_of_mem hm)
      rw [List.filter_cons, if_pos (decide_eq_true rfl), hothers]
    · have hne : first.1 ≠ member.1 := fun heq => hfresh (heq ▸ List.mem_map_of_mem hmem)
      rw [List.filter_cons, if_neg (by simpa using hne), ih hrest hmem]

lemma size_remove {a : Audience κ} (h : (a.members.map Prod.fst).Nodup) (id : ObserverId) :
    (a.remove id).1.size + (a.remove id).2.toNat = a.size := by
  unfold Audience.remove Audience.size
  dsimp only
  cases hthere : a.contains id with
  | true =>
    obtain ⟨member, hmember, heq⟩ := List.any_eq_true.mp hthere
    obtain rfl := of_decide_eq_true heq
    have hsplit := List.length_eq_length_filter_add (l := a.members) fun m => m.1 = member.1
    rw [filter_fst_of_mem h hmember, Nat.add_comm] at hsplit
    simpa using hsplit.symm
  | false =>
    have hall : ∀ m ∈ a.members, decide (m.1 ≠ id) = true := by
      intro m hm
      exact decide_eq_true fun heq => by
        have hnone := List.any_eq_false.mp hthere m hm
        exact hnone (decide_eq_true heq)
    rw [List.filter_eq_self.mpr hall]
    rfl

variable [DecidableEq κ]

/-! ### Runs -/

def start (sinks : Sinks κ) : Hall κ := ⟨.empty, sinks⟩

def act (h : Hall κ) : Input κ → Hall κ × Answer
  | .add key => ({ h with audience := (h.audience.add key).1 }, .joined (h.audience.add key).2)
  | .remove id =>
    ({ h with audience := (h.audience.remove id).1 }, .left (h.audience.remove id).2)
  | .publish e =>
    ({ h with sinks := (h.audience.publish h.sinks e).1 },
      .reached (h.audience.publish h.sinks e).2)
  | .hangUp key => ({ h with sinks := h.sinks.modify key Sink.disconnect }, .silent)

/-- Who takes what of an input. -/
def accepted (h : Hall κ) : Input κ → List (Receipt κ)
  | .publish e => (takers e h.sinks h.audience.members).map fun (id, key) => ⟨id, key, e⟩
  | .add _ | .remove _ | .hangUp _ => []

def run (h : Hall κ) (inputs : List (Input κ)) : Hall κ :=
  inputs.foldl (fun h input => (h.act input).1) h

def answers (h : Hall κ) : List (Input κ) → List Answer
  | [] => []
  | input :: inputs => (h.act input).2 :: answers (h.act input).1 inputs

def receipts (h : Hall κ) : List (Input κ) → List (Receipt κ)
  | [] => []
  | input :: inputs => h.accepted input ++ receipts (h.act input).1 inputs

lemma run_concat (h : Hall κ) (inputs : List (Input κ)) (input : Input κ) :
    h.run (inputs ++ [input]) = ((h.run inputs).act input).1 := by
  rw [run, List.foldl_append]
  rfl

lemma answers_concat (h : Hall κ) (inputs : List (Input κ)) (input : Input κ) :
    h.answers (inputs ++ [input]) = h.answers inputs ++ [((h.run inputs).act input).2] := by
  induction inputs generalizing h with
  | nil => rfl
  | cons first inputs ih => exact congrArg (_ :: ·) (ih (h.act first).1)

lemma receipts_concat (h : Hall κ) (inputs : List (Input κ)) (input : Input κ) :
    h.receipts (inputs ++ [input]) = h.receipts inputs ++ (h.run inputs).accepted input := by
  induction inputs generalizing h with
  | nil => exact List.append_nil _
  | cons first inputs ih =>
    rw [List.cons_append, receipts, ih, ← List.append_assoc]
    rfl

section Start

variable {sinks : Sinks κ}

lemma counts_run (sinks : Sinks κ) (inputs : List (Input κ)) :
    Counts (adds inputs) ((start sinks).run inputs).audience := by
  induction inputs using List.reverseRecOn with
  | nil => exact .empty
  | append_singleton inputs input ih =>
    rw [run_concat, adds_append]
    cases input with
    | add key => exact ih.add key
    | remove id => exact ih.remove id
    | publish e => exact ih
    | hangUp key => exact ih

lemma inOrder_run (sinks : Sinks κ) (inputs : List (Input κ)) :
    InOrder ((start sinks).run inputs).audience.members := by
  induction inputs using List.reverseRecOn with
  | nil => exact .nil
  | append_singleton inputs input ih =>
    rw [run_concat]
    cases input with
    | add key => exact ih.seat _ key
    | remove id => exact ih.sublist List.filter_sublist
    | publish e => exact ih
    | hangUp key => exact ih

/-- The audience holds who is present by the inputs. -/
lemma mem_members_iff {inputs : List (Input κ)} (hroom : NumbersSuffice inputs) {id : ObserverId}
    {key : κ} :
    (id, key) ∈ ((start sinks).run inputs).audience.members ↔ Present inputs id key := by
  induction inputs using List.reverseRecOn with
  | nil =>
    constructor
    · intro h
      cases h
    · rintro ⟨before, after, hsplit, -⟩
      cases before <;> cases hsplit
  | append_singleton inputs input ih =>
    rw [run_concat, present_concat_iff, ← ih (hroom.of_prefix (List.prefix_append _ _))]
    cases input with
    | add key' =>
      rw [act, (counts_run sinks inputs).members_add hroom.concat_add, List.mem_append,
        List.mem_singleton, Prod.mk.injEq, and_comm (b := key = key'), eq_comm (a := key)]
      simp only [Input.add.injEq, ne_eq, reduceCtorEq, not_false_eq_true, and_true]
    | remove id' =>
      change _ ∈ List.filter _ _ ↔ _
      rw [List.mem_filter, decide_eq_true_iff, ne_comm]
      simp only [Input.remove.injEq, ne_eq, reduceCtorEq, false_and, or_false]
    | publish e =>
      simp only [act, ne_eq, reduceCtorEq, not_false_eq_true, and_true, false_and, or_false]
    | hangUp key' =>
      simp only [act, ne_eq, reduceCtorEq, not_false_eq_true, and_true, false_and, or_false]

/-! ### What is received -/

lemma mem_accepted {h : Hall κ} {input : Input κ} {r : Receipt κ} (hr : r ∈ h.accepted input) :
    input = .publish r.event ∧ (r.observer, r.key) ∈ h.audience.members := by
  cases input with
  | publish e =>
    obtain ⟨member, hmember, rfl⟩ := List.mem_map.mp hr
    exact ⟨rfl, (takers_sublist e h.sinks _).subset hmember⟩
  | add key => cases hr
  | remove id => cases hr
  | hangUp key => cases hr

/-- Nothing is received but by who is present. -/
lemma mem_receipts {inputs : List (Input κ)} (hroom : NumbersSuffice inputs) {r : Receipt κ}
    (hr : r ∈ (start sinks).receipts inputs) :
    ∃ first, first ++ [.publish r.event] <+: inputs ∧ Present first r.observer r.key := by
  induction inputs using List.reverseRecOn with
  | nil => cases hr
  | append_singleton inputs input ih =>
    have hroom' := hroom.of_prefix (List.prefix_append _ _)
    rw [receipts_concat] at hr
    rcases List.mem_append.mp hr with hr | hr
    · obtain ⟨first, hfirst, hpresent⟩ := ih hroom' hr
      exact ⟨first, hfirst.trans (List.prefix_append _ _), hpresent⟩
    · obtain ⟨rfl, hmember⟩ := mem_accepted hr
      exact ⟨inputs, List.prefix_refl _, (mem_members_iff hroom').mp hmember⟩

/-- While an observer is not present, nothing is added to what it received. -/
lemma receipts_of_absent {inputs more : List (Input κ)} {id : ObserverId}
    (hroom : NumbersSuffice (inputs ++ more))
    (h : ∀ first, first <+: more → ∀ key, ¬ Present (inputs ++ first) id key) :
    ((start sinks).receipts (inputs ++ more)).filter (fun r => r.observer = id) =
      ((start sinks).receipts inputs).filter (fun r => r.observer = id) := by
  induction more using List.reverseRecOn with
  | nil => rw [List.append_nil]
  | append_singleton more input ih =>
    rw [← List.append_assoc] at hroom ⊢
    have hroom' := hroom.of_prefix (List.prefix_append _ _)
    have hnone : (((start sinks).run (inputs ++ more)).accepted input).filter
        (fun r => r.observer = id) = [] := by
      apply List.filter_eq_nil_iff.mpr
      intro r hr heq
      obtain ⟨-, hmember⟩ := mem_accepted hr
      rw [of_decide_eq_true heq] at hmember
      exact h more (List.prefix_append _ _) r.key ((mem_members_iff hroom').mp hmember)
    rw [receipts_concat, List.filter_append, hnone, List.append_nil,
      ih hroom' fun first hfirst => h first (hfirst.trans (List.prefix_append _ _))]

/-- Who is present and whose receiver is there receives what is published, and that once. -/
lemma accepted_of_present {inputs : List (Input κ)} (hroom : NumbersSuffice inputs)
    {id : ObserverId} {key : κ} (hpresent : Present inputs id key)
    (hworks : works ((start sinks).run inputs).sinks key = true) (e : Event) :
    (((start sinks).run inputs).accepted (.publish e)).filter (fun r => r.observer = id) =
      [⟨id, key, e⟩] := by
  have hmember : (id, key) ∈ takers e ((start sinks).run inputs).sinks
      ((start sinks).run inputs).audience.members :=
    mem_takers_of_works ((mem_members_iff hroom).mpr hpresent) hworks
  have hnodup : ((takers e ((start sinks).run inputs).sinks
      ((start sinks).run inputs).audience.members).map Prod.fst).Nodup :=
    (inOrder_run sinks inputs).nodup.sublist ((takers_sublist e _ _).map Prod.fst)
  rw [accepted, List.filter_map]
  exact congrArg (List.map _) (filter_fst_of_mem hnodup hmember)

/-- A receiver that is there has been there before. -/
lemma works_of_act {h : Hall κ} {input : Input κ} {key : κ}
    (hworks : works (h.act input).1.sinks key = true) : works h.sinks key = true := by
  cases input with
  | add key' => exact hworks
  | remove id => exact hworks
  | publish e =>
    rw [← works_publish h.audience h.sinks e key]
    exact hworks
  | hangUp key' =>
    obtain ⟨inbox, hget⟩ := works_iff.mp hworks
    change (h.sinks.modify key' Sink.disconnect).get? key = _ at hget
    rw [get?_modify] at hget
    split at hget
    · obtain ⟨sink, -, hsink⟩ := Option.map_eq_some_iff.mp hget
      cases sink <;> cases hsink
    · exact works_iff.mpr ⟨inbox, hget⟩

/-- An observer receives what is published during its stay, if its receiver is there. -/
lemma receipts_stay {before stay : List (Input κ)} {key : κ}
    (hroom : NumbersSuffice (before ++ .add key :: stay))
    (hstays : .remove (nth (adds before + 1)) ∉ stay)
    (hworks : works ((start sinks).run (before ++ .add key :: stay)).sinks key = true) :
    ((start sinks).receipts (before ++ .add key :: stay)).filter
        (fun r => r.observer = nth (adds before + 1)) =
      (published stay).map fun e => ⟨nth (adds before + 1), key, e⟩ := by
  -- From the end of the stay: a receiver that is there after an input was there before it.
  induction stay using List.reverseRecOn with
  | nil =>
    have hnone : ((start sinks).receipts before).filter
        (fun r => r.observer = nth (adds before + 1)) = [] := by
      apply List.filter_eq_nil_iff.mpr
      intro r hr heq
      have hroom' := hroom.of_prefix (List.prefix_append _ _)
      obtain ⟨first, hfirst, hpresent⟩ := mem_receipts hroom' hr
      rw [of_decide_eq_true heq] at hpresent
      exact not_present_of_later ((List.prefix_append _ _).trans hfirst) hroom.concat_add r.key
        hpresent
    rw [receipts_concat, List.filter_append, hnone]
    rfl
  | append_singleton stay input ih =>
    rw [← List.cons_append, ← List.append_assoc] at hroom hworks ⊢
    have hroom' := hroom.of_prefix (List.prefix_append _ _)
    rw [run_concat] at hworks
    have hbefore := works_of_act hworks
    have hstays' : .remove (nth (adds before + 1)) ∉ stay :=
      fun h => hstays (List.mem_append_left _ h)
    have hpresent : Present (before ++ .add key :: stay) (nth (adds before + 1)) key :=
      ⟨before, stay, rfl, rfl, hstays'⟩
    rw [receipts_concat, List.filter_append, ih hroom' hstays' hbefore, published_append,
      List.map_append]
    congr 1
    cases input with
    | publish e => exact accepted_of_present hroom' hpresent hbefore e
    | add key' => rfl
    | remove id => rfl
    | hangUp key' => rfl

/-! ### The whole account -/

/-- An observer joins with the sink of `key` after the inputs `before`, and is there for the inputs
`stay`, after which it is removed or no input is left. Its receiver is there all the time. -/
structure Stay (sinks : Sinks κ) (inputs : List (Input κ)) (id : ObserverId) (key : κ)
    (before stay after : List (Input κ)) : Prop where
  split : inputs = before ++ .add key :: (stay ++ after)
  number : id = nth (adds before + 1)
  stays : .remove id ∉ stay
  leaves : after = [] ∨ ∃ rest, after = .remove id :: rest
  works : works ((start sinks).run (before ++ .add key :: stay)).sinks key = true

/-- What is received in the stay is all that the observer ever receives. -/
lemma Stay.receipts {inputs : List (Input κ)} {id : ObserverId} {key : κ}
    {before stay after : List (Input κ)} (hroom : NumbersSuffice inputs)
    (h : Stay sinks inputs id key before stay after) :
    ((start sinks).receipts inputs).filter (fun r => r.observer = id) =
      (published stay).map fun e => ⟨id, key, e⟩ := by
  obtain ⟨rfl, rfl, hstays, hleaves, hworks⟩ := h
  rw [← List.cons_append, ← List.append_assoc] at hroom ⊢
  rw [← receipts_stay (hroom.of_prefix (List.prefix_append _ _)) hstays hworks]
  rcases hleaves with rfl | ⟨rest, rfl⟩
  · rw [List.append_nil]
  · rw [List.append_cons] at hroom ⊢
    have hgone : ∀ first, first <+: rest → ∀ key', ¬ Present
        (before ++ .add key :: stay ++ [.remove (nth (adds before + 1))] ++ first)
        (nth (adds before + 1)) key' := by
      intro first hfirst key' hpresent
      have hroom' := hroom.of_prefix ((List.prefix_append_right_inj _).mpr hfirst)
      rw [List.append_assoc, List.append_assoc, List.cons_append] at hroom' hpresent
      exact hpresent.not_removed hroom' (List.mem_append_right _ List.mem_cons_self)
    rw [receipts_of_absent hroom hgone, receipts_concat]
    exact congrArg (List.filter _) (List.append_nil _)

/-- The receipts of a sink that no other observer has are those of its observer. -/
lemma Stay.receipts_alone {inputs : List (Input κ)} {id : ObserverId} {key : κ}
    {before stay after : List (Input κ)} (hroom : NumbersSuffice inputs)
    (h : Stay sinks inputs id key before stay after) (hbefore : .add key ∉ before) (hafter : .add key ∉ stay ++ after) :
    ((start sinks).receipts inputs).filter (fun r => r.key = key) =
      ((start sinks).receipts inputs).filter (fun r => r.observer = id) := by
  apply List.filter_congr
  intro r hr
  apply decide_eq_decide.mpr
  obtain ⟨first, ⟨rest, hrest⟩, earlier, later, rfl, hid, -⟩ := mem_receipts hroom hr
  rw [← hrest, List.append_assoc, List.append_assoc, List.cons_append] at hroom
  rw [h.split, List.append_assoc, List.append_assoc, List.cons_append] at hrest
  rw [h.number, hid]
  -- Both inputs that join are the same one, by their key or by their number.
  constructor
  · intro hkey
    rw [hkey] at hrest
    obtain ⟨rfl, -, -⟩ := (List.append_cons_inj_of_notMem hbefore hafter).mp hrest.symm
    rfl
  · intro heq
    exact (split_of_nth hroom hrest heq).2.1

lemma steady_act {h : Hall κ} (hsteady : Steady h.sinks) (input : Input κ) :
    Steady (h.act input).1.sinks := by
  cases input with
  | add key => exact hsteady
  | remove id => exact hsteady
  | publish e => exact hsteady.publish h.audience e
  | hangUp key =>
    intro other connected slot hget
    change (h.sinks.modify key Sink.disconnect).get? other = _ at hget
    rw [get?_modify] at hget
    split at hget
    · obtain ⟨sink, hsink, hdisconnect⟩ := Option.map_eq_some_iff.mp hget
      cases sink with
      | channel connected inbox => cases hdisconnect
      | reply connected slot => exact hsteady key connected slot hsink
      | broken => cases hdisconnect
    · exact hsteady other connected slot hget

lemma steady_run {inputs : List (Input κ)} (h : Steady sinks) :
    Steady ((start sinks).run inputs).sinks := by
  induction inputs using List.reverseRecOn with
  | nil => exact h
  | append_singleton inputs input ih =>
    rw [run_concat]
    exact steady_act ih input

lemma joined_answers (inputs : List (Input κ)) :
    ((start sinks).answers inputs).filterMap Answer.joined? =
      (List.range' 1 (adds inputs)).map nth := by
  induction inputs using List.reverseRecOn with
  | nil => rfl
  | append_singleton inputs input ih =>
    rw [answers_concat, List.filterMap_append, ih, adds_append]
    cases input with
    | add key =>
      have hone : adds [Input.add key] = 1 := rfl
      rw [hone, List.range'_1_concat, List.map_append, act, Audience.add,
        (counts_run sinks inputs).nextId, Nat.add_comm 1]
      rfl
    | remove id => exact List.append_nil _
    | publish e => exact List.append_nil _
    | hangUp key => exact List.append_nil _

lemma size_run {inputs : List (Input κ)} (hroom : NumbersSuffice inputs) :
    ((start sinks).run inputs).audience.size + ((start sinks).answers inputs).count (.left true) =
      adds inputs := by
  induction inputs using List.reverseRecOn with
  | nil => rfl
  | append_singleton inputs input ih =>
    rw [run_concat, answers_concat, List.count_append, adds_append,
      ← ih (hroom.of_prefix (List.prefix_append _ _))]
    cases input with
    | add key =>
      have hsize : (((start sinks).run inputs).act (.add key)).1.audience.size =
          ((start sinks).run inputs).audience.size + 1 := by
        rw [act, Audience.size, (counts_run sinks inputs).members_add hroom.concat_add]
        exact List.length_append
      have hone : adds [Input.add key] = 1 := rfl
      have hcount : [(((start sinks).run inputs).act (.add key)).2].count (.left true) = 0 := rfl
      omega
    | remove id =>
      have hsize : (((start sinks).run inputs).act (.remove id)).1.audience.size +
          (((start sinks).run inputs).audience.contains id).toNat =
            ((start sinks).run inputs).audience.size := size_remove (inOrder_run sinks inputs).nodup id
      have hnone : adds ([.remove id] : List (Input κ)) = 0 := rfl
      have hcount : [(((start sinks).run inputs).act (.remove id)).2].count (.left true) =
          (((start sinks).run inputs).audience.contains id).toNat := by
        rw [act, Audience.remove]
        cases ((start sinks).run inputs).audience.contains id <;> rfl
      omega
    | publish e => rfl
    | hangUp key => rfl

/-- With each input a stream grows by what is received with its key. -/
lemma streams_act {h : Hall κ} {key : κ} {connected : Bool} {inbox : List Event}
    (hget : h.sinks.get? key = some (.channel connected inbox)) (input : Input κ) :
    ∃ connected', (h.act input).1.sinks.get? key = some (.channel connected'
      (inbox ++ ((h.accepted input).filter fun r => r.key = key).map Receipt.event)) := by
  cases input with
  | publish e =>
    refine ⟨connected, (get?_publish_channel hget e).trans ?_⟩
    rw [accepted, List.filter_map, List.map_map]
    rfl
  | add key' =>
    rw [accepted, List.filter_nil, List.map_nil, List.append_nil]
    exact ⟨connected, hget⟩
  | remove id =>
    rw [accepted, List.filter_nil, List.map_nil, List.append_nil]
    exact ⟨connected, hget⟩
  | hangUp key' =>
    rw [accepted, List.filter_nil, List.map_nil, List.append_nil]
    by_cases hkey : key = key'
    · exact ⟨false, by rw [act, get?_modify, if_pos hkey, ← hkey, hget]; rfl⟩
    · exact ⟨connected, by rw [act, get?_modify, if_neg hkey, hget]⟩

lemma streams_run {key : κ} {connected : Bool} {inbox : List Event}
    (hget : sinks.get? key = some (.channel connected inbox)) (inputs : List (Input κ)) :
    ∃ connected', ((start sinks).run inputs).sinks.get? key = some (.channel connected' (inbox ++
      (((start sinks).receipts inputs).filter fun r => r.key = key).map Receipt.event)) := by
  induction inputs using List.reverseRecOn with
  | nil =>
    rw [receipts, List.filter_nil, List.map_nil, List.append_nil]
    exact ⟨connected, hget⟩
  | append_singleton inputs input ih =>
    obtain ⟨connected', ih⟩ := ih
    rw [run_concat, receipts_concat, List.filter_append, List.map_append, ← List.append_assoc]
    exact streams_act ih input

/-- What a hall has done and will do after any inputs. -/
structure Account (sinks : Sinks κ) (inputs : List (Input κ)) (hall : Hall κ) : Prop where
  /-- The observers are numbered from 1 on as they join, and no number comes twice. -/
  numbered : ((start sinks).answers inputs).filterMap Answer.joined? =
    (List.range' 1 (adds inputs)).map nth
  distinct : (((start sinks).answers inputs).filterMap Answer.joined?).Nodup
  named : ∀ key, ∃ id, (hall.act (.add key)).2 = .joined id ∧
    (adds inputs + 1 < UInt64.size → id.toText = "observer-" ++ toString (adds inputs + 1))
  members : ∀ id key, (id, key) ∈ hall.audience.members ↔ Present inputs id key
  /-- Who is asked to leave is told whether it was there, and nobody else leaves. -/
  removal : ∀ id, ∃ there, (hall.act (.remove id)).2 = .left there ∧
    (there = true ↔ ∃ key, Present inputs id key) ∧
    (∀ other key, (other, key) ∈ (hall.act (.remove id)).1.audience.members ↔
      (other, key) ∈ hall.audience.members ∧ other ≠ id) ∧
    (hall.act (.remove id)).1.audience.size + there.toNat = hall.audience.size
  size : hall.audience.size + ((start sinks).answers inputs).count (.left true) = adds inputs
  /-- A publication is answered with the number of those who take it, and changes no seat. -/
  publication : ∀ e, (hall.act (.publish e)).2 = .reached (hall.accepted (.publish e)).length ∧
    (hall.act (.publish e)).1.audience = hall.audience
  /-- If no sink is used up by what it takes, those take an event whose receivers are there. -/
  taken : Steady sinks → ∀ e, hall.accepted (.publish e) =
    (hall.audience.members.filter fun member => works hall.sinks member.2).map
      fun (id, key) => ⟨id, key, e⟩
  /-- Whatever sink an observer has, it receives only what is published while it is present. -/
  received : ∀ r ∈ (start sinks).receipts inputs,
    ∃ first, first ++ [.publish r.event] <+: inputs ∧ Present first r.observer r.key
  /-- An observer receives the events of its stay, each once and in order. -/
  stays : ∀ id key before stay after, Stay sinks inputs id key before stay after →
    ((start sinks).receipts inputs).filter (fun r => r.observer = id) =
      (published stay).map fun e => ⟨id, key, e⟩
  /-- A stream holds what those received who have it. -/
  streams : ∀ key connected inbox, sinks.get? key = some (.channel connected inbox) →
    ∃ connected', hall.sinks.get? key = some (.channel connected' (inbox ++
      (((start sinks).receipts inputs).filter fun r => r.key = key).map Receipt.event))
  /-- If an observer has its stream to itself, it finds there the events of its stay and no more. -/
  alone : ∀ id key before stay after connected inbox,
    Stay sinks inputs id key before stay after → .add key ∉ before → .add key ∉ stay ++ after →
    sinks.get? key = some (.channel connected inbox) →
    ∃ connected', hall.sinks.get? key = some (.channel connected' (inbox ++ published stay))

lemma removal_run {inputs : List (Input κ)} (hroom : NumbersSuffice inputs) (id : ObserverId) :
    ∃ there, (((start sinks).run inputs).act (.remove id)).2 = .left there ∧
      (there = true ↔ ∃ key, Present inputs id key) ∧
      (∀ other key, (other, key) ∈ (((start sinks).run inputs).act (.remove id)).1.audience.members ↔
        (other, key) ∈ ((start sinks).run inputs).audience.members ∧ other ≠ id) ∧
      (((start sinks).run inputs).act (.remove id)).1.audience.size + there.toNat =
        ((start sinks).run inputs).audience.size := by
  refine ⟨_, rfl, ?_, ?_, size_remove (inOrder_run sinks inputs).nodup id⟩
  · constructor
    · intro hthere
      obtain ⟨⟨id', key⟩, hmember, heq⟩ := List.any_eq_true.mp hthere
      obtain rfl : id' = id := of_decide_eq_true heq
      exact ⟨key, (mem_members_iff hroom).mp hmember⟩
    · rintro ⟨key, hpresent⟩
      have hmember : (id, key) ∈ ((start sinks).run inputs).audience.members :=
        (mem_members_iff hroom).mpr hpresent
      exact List.any_eq_true.mpr ⟨_, hmember, decide_eq_true rfl⟩
  · intro other key
    rw [← decide_eq_true_iff (p := other ≠ id)]
    exact List.mem_filter

/-- Whatever observers do and whatever becomes of their sinks, everyone present whose receiver is
there is handed all that is published, as long as the numbers suffice. -/
theorem every_observer_served (sinks : Sinks κ) (inputs : List (Input κ))
    (hroom : NumbersSuffice inputs) : Account sinks inputs ((start sinks).run inputs) where
  numbered := joined_answers inputs
  distinct := by
    rw [joined_answers]
    exact nodup_numbers hroom
  named key := by
    refine ⟨_, rfl, fun hnext => ?_⟩
    rw [Audience.add, (counts_run sinks inputs).nextId, toText_nth hnext]
  members id key := mem_members_iff hroom
  removal := removal_run hroom
  size := size_run hroom
  publication e := by
    refine ⟨?_, rfl⟩
    rw [accepted, List.length_map, ← publish_snd]
    rfl
  taken hsteady e := by rw [accepted, (steady_run hsteady).takers_eq]
  received r hr := mem_receipts hroom hr
  stays id key before stay after hstay := hstay.receipts hroom
  streams key connected inbox hget := streams_run hget inputs
  alone id key before stay after connected inbox hstay hbefore hafter hget := by
    obtain ⟨connected', h⟩ := streams_run hget inputs
    rw [hstay.receipts_alone hroom hbefore hafter, hstay.receipts hroom, List.map_map] at h
    have hevents : (published stay).map (Receipt.event ∘ fun e => ⟨id, key, e⟩) = published stay :=
      List.map_id _
    rw [hevents] at h
    exact ⟨connected', h⟩

end Start

def crowd : Sinks Nat := ⟨[(0, .stream), (1, .broken), (2, .stream)]⟩

/-- The first observer and the third share a stream, and the second has a sink that never works. -/
def visits : List (Input Nat) :=
  [.add 0, .add 1, .publish (.hubRaw "a"), .add 0, .add 2, .publish (.hubRaw "b"), .remove ⟨1⟩,
    .publish (.hubRaw "c")]

theorem every_observer_served_crowd :
    NumbersSuffice visits ∧
    ((start crowd).receipts visits).filter (fun r => r.observer = ⟨1⟩) =
      [⟨⟨1⟩, 0, .hubRaw "a"⟩, ⟨⟨1⟩, 0, .hubRaw "b"⟩] ∧
    ∃ connected, ((start crowd).run visits).sinks.get? 2 =
      some (.channel connected [.hubRaw "b", .hubRaw "c"]) :=
  have hroom : NumbersSuffice visits := by decide
  ⟨hroom, (every_observer_served crowd visits hroom).stays ⟨1⟩ 0 []
      [.add 1, .publish (.hubRaw "a"), .add 0, .add 2, .publish (.hubRaw "b")]
      [.remove ⟨1⟩, .publish (.hubRaw "c")] ⟨rfl, rfl, by simp, .inr ⟨_, rfl⟩, rfl⟩,
    (every_observer_served crowd visits hroom).alone ⟨4⟩ 2
      [.add 0, .add 1, .publish (.hubRaw "a"), .add 0]
      [.publish (.hubRaw "b"), .remove ⟨1⟩, .publish (.hubRaw "c")] [] true []
      ⟨rfl, rfl, by simp, .inl rfl, rfl⟩ (by simp) (by simp) rfl⟩

end Hall

end HubBridge.Proofs
