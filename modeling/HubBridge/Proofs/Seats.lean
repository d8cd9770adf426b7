import HubBridge.Audience
import Mathlib.Data.List.Nodup
import Mathlib.Tactic.Lemma

/-!
# Observers and their numbers

A new observer gets the next number and is seated in the order of the numbers. The counter has 64 bits,
so what is known of the numbers is that the `n`-th observer got `n` up to whole rounds of the counter
(`Counts`). As long as the counter has not come round, a new number is the largest, nobody is unseated,
and the newcomer sits behind all others.
-/

namespace HubBridge.Proofs

open Audience

/-- The number that an observer gets if it is the `n`-th to join. -/
def nth (n : Nat) : ObserverId := ⟨.ofNat n⟩

lemma nth_lt {m n : Nat} (hlt : m < n) (hn : n < UInt64.size) :
    (nth m).number < (nth n).number := by
  rw [UInt64.lt_iff_toNat_lt, nth, nth, UInt64.toNat_ofNat_of_lt' (Nat.lt_trans hlt hn),
    UInt64.toNat_ofNat_of_lt' hn]
  exact hlt

lemma nth_inj {m n : Nat} (hm : m < UInt64.size) (hn : n < UInt64.size) (h : nth m = nth n) :
    m = n := by
  have hnumber := congrArg (fun id => id.number.toNat) h
  dsimp only [nth] at hnumber
  rwa [UInt64.toNat_ofNat_of_lt' hm, UInt64.toNat_ofNat_of_lt' hn] at hnumber

lemma toText_nth {n : Nat} (hn : n < UInt64.size) :
    (nth n).toText = "observer-" ++ toString n := by
  rw [ObserverId.toText, nth, UInt64.toNat_ofNat_of_lt' hn]

variable {κ : Type}

/-! ### Seats in order -/

section Seat

variable {id : ObserverId} {key : κ} {members : List (ObserverId × κ)}

/-- The members are in the order of their numbers, no two of which are the same. -/
def InOrder (members : List (ObserverId × κ)) : Prop :=
  members.Pairwise fun a b => a.1.number < b.1.number

lemma InOrder.nodup (h : InOrder members) : (members.map Prod.fst).Nodup := by
  apply List.Pairwise.map _ _ h
  intro a b hlt heq
  rw [heq] at hlt
  exact UInt64.lt_irrefl _ hlt

lemma of_mem_seat {member : ObserverId × κ} (h : member ∈ seat id key members) :
    member = (id, key) ∨ member ∈ members := by
  induction members with
  | nil => exact .inl (List.mem_singleton.mp h)
  | cons first members ih =>
    rw [seat] at h
    split at h
    · rcases List.mem_cons.mp h with rfl | h
      · exact .inr List.mem_cons_self
      · exact (ih h).imp_right (List.mem_cons_of_mem first)
    · split at h
      · exact (List.mem_cons.mp h).imp_right (List.mem_cons_of_mem first)
      · exact List.mem_cons.mp h

lemma InOrder.seat (h : InOrder members) (id : ObserverId) (key : κ) :
    InOrder (seat id key members) := by
  induction members with
  | nil => exact List.pairwise_singleton _ _
  | cons first members ih =>
    obtain ⟨hfirst, hrest⟩ := List.pairwise_cons.mp h
    rw [Audience.seat]
    split
    · rename_i hlt
      refine List.pairwise_cons.mpr ⟨fun member hmember => ?_, ih hrest⟩
      rcases of_mem_seat hmember with rfl | hmember
      · exact hlt
      · exact hfirst member hmember
    · rename_i hge
      split
      · rename_i hsame
        rw [← hsame]
        exact List.pairwise_cons.mpr ⟨hfirst, hrest⟩
      · rename_i hne
        have hlt : id.number < first.1.number := by
          apply UInt64.lt_of_le_of_ne (UInt64.not_lt.mp hge)
          intro heq
          exact hne (congrArg ObserverId.mk heq.symm)
        refine List.pairwise_cons.mpr ⟨fun member hmember => ?_, h⟩
        rcases List.mem_cons.mp hmember with rfl | hmember
        · exact hlt
        · exact UInt64.lt_trans hlt (hfirst member hmember)

/-- Whoever has the largest number sits behind all others. -/
lemma seat_of_last (h : ∀ member ∈ members, member.1.number < id.number) :
    seat id key members = members ++ [(id, key)] := by
  induction members with
  | nil => rfl
  | cons first members ih =>
    rw [seat, if_pos (h first List.mem_cons_self),
      ih fun member hmember => h member (List.mem_cons_of_mem first hmember)]
    rfl

end Seat

/-! ### The counter -/

/-- So many observers joined the audience, whose members are some of them. -/
structure Counts (n : Nat) (a : Audience κ) : Prop where
  joined : a.joined = .ofNat n
  members : ∀ member ∈ a.members, ∃ m ≤ n, member.1 = nth m

namespace Counts

variable {n : Nat} {a : Audience κ}

lemma empty : Counts 0 (.empty : Audience κ) where
  joined := rfl
  members _ hmember := nomatch hmember

lemma nextId (h : Counts n a) : a.nextId = nth (n + 1) := by
  rw [Audience.nextId, h.joined, nth, UInt64.ofNat_add]
  rfl

lemma add (h : Counts n a) (key : κ) : Counts (n + 1) (a.add key).1 where
  joined := congrArg ObserverId.number h.nextId
  members member hmember := by
    rcases of_mem_seat hmember with rfl | hmember
    · exact ⟨n + 1, Nat.le_refl _, h.nextId⟩
    · obtain ⟨m, hm, hid⟩ := h.members member hmember
      exact ⟨m, Nat.le_succ_of_le hm, hid⟩

lemma remove (h : Counts n a) (id : ObserverId) : Counts n (a.remove id).1 where
  joined := h.joined
  members member hmember := h.members member (List.mem_filter.mp hmember).1

/-- While the counter has not come round, the next number is larger than all that are in use. -/
lemma lt_nextId (h : Counts n a) (hroom : n + 1 < UInt64.size) :
    ∀ member ∈ a.members, member.1.number < a.nextId.number := by
  intro member hmember
  obtain ⟨m, hm, hid⟩ := h.members member hmember
  rw [hid, h.nextId]
  exact nth_lt (Nat.lt_succ_of_le hm) hroom

lemma ne_nextId (h : Counts n a) (hroom : n + 1 < UInt64.size) :
    ∀ member ∈ a.members, member.1 ≠ a.nextId := by
  intro member hmember heq
  have hlt := h.lt_nextId hroom member hmember
  rw [heq] at hlt
  exact UInt64.lt_irrefl _ hlt

lemma members_add (h : Counts n a) (hroom : n + 1 < UInt64.size) (key : κ) :
    (a.add key).1.members = a.members ++ [(nth (n + 1), key)] := by
  rw [← h.nextId]
  exact seat_of_last (h.lt_nextId hroom)

end Counts

end HubBridge.Proofs
