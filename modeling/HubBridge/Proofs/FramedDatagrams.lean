import HubBridge.Framing
import Mathlib.Tactic.Lemma

/-!
# Every datagram is handed out once

The socket puts one datagram into the buffer, asks for messages until there is none, clears the buffer
and takes the next datagram. The flag of the reader is down whenever a datagram comes in and up while
its message is out, so each datagram costs two questions and gives the message that it decodes to,
empty datagrams too.
-/

namespace HubBridge.Proofs

/-- The reader is asked again and again, as often as the number says, until it has no message left. -/
inductive Drains : Reader → List Message → Nat → Reader → Prop
  | dry {r r' : Reader} (hask : r.ask = (r', none)) : Drains r [] 1 r'
  | more {r r' last : Reader} {message : Message} {messages : List Message} {count : Nat}
      (hask : r.ask = (r', some message)) (hrest : Drains r' messages count last) :
      Drains r (message :: messages) (count + 1) last

/-- One datagram after the other is put into the buffer and drained. -/
inductive Serves : Reader → List ByteArray → List Message → List Nat → Reader → Prop
  | idle (r : Reader) : Serves r [] [] [] r
  | datagram {r r' last : Reader} {bytes : ByteArray} {datagrams : List ByteArray}
      {messages more : List Message} {count : Nat} {counts : List Nat}
      (hdrains : Drains (r.fill bytes) messages count r')
      (hrest : Serves r'.clear datagrams more counts last) :
      Serves r (bytes :: datagrams) (messages ++ more) (count :: counts) last

/-! ### One datagram -/

lemma isEmpty_eq_true {bytes : ByteArray} : bytes.isEmpty = true ↔ bytes = .empty := by
  rw [ByteArray.isEmpty, beq_iff_eq, ByteArray.size_eq_zero_iff]

lemma ofDatagram_empty : Message.ofDatagram .empty = .raw "" := by
  decide +kernel

/-- The reader while the message of a datagram is out. -/
def spent : Reader := ⟨⟨true⟩, .empty⟩

lemma ask_fill (bytes : ByteArray) :
    (Reader.initial.fill bytes).ask = (spent, some (.ofDatagram bytes)) := by
  have hbuffer : (Reader.initial.fill bytes).buffer = bytes := ByteArray.empty_append
  unfold Reader.ask Framing.decodeLast
  rw [hbuffer]
  by_cases hempty : bytes.isEmpty = true
  · rw [if_pos hempty, isEmpty_eq_true.mp hempty, ofDatagram_empty]
    rfl
  · rw [if_neg hempty, Framing.decode, if_neg hempty]
    rfl

lemma ask_spent : spent.ask = (.initial, none) := rfl

lemma Drains.unique {r last last' : Reader} {messages messages' : List Message} {count count' : Nat}
    (h : Drains r messages count last) (h' : Drains r messages' count' last') :
    messages = messages' ∧ count = count' ∧ last = last' := by
  induction h generalizing messages' count' with
  | dry hask =>
    cases h' with
    | dry hask' =>
      rw [hask] at hask'
      cases hask'
      exact ⟨rfl, rfl, rfl⟩
    | more hask' hrest' =>
      rw [hask] at hask'
      cases hask'
  | more hask hrest ih =>
    cases h' with
    | dry hask' =>
      rw [hask] at hask'
      cases hask'
    | more hask' hrest' =>
      rw [hask] at hask'
      cases hask'
      obtain ⟨rfl, rfl, rfl⟩ := ih hrest'
      exact ⟨rfl, rfl, rfl⟩

lemma drains_fill (bytes : ByteArray) :
    Drains (Reader.initial.fill bytes) [.ofDatagram bytes] 2 .initial :=
  .more (ask_fill bytes) (.dry ask_spent)

/-! ### A sequence of datagrams -/

lemma Serves.unique {r last last' : Reader} {datagrams : List ByteArray}
    {messages messages' : List Message} {counts counts' : List Nat}
    (h : Serves r datagrams messages counts last) (h' : Serves r datagrams messages' counts' last') :
    messages = messages' ∧ counts = counts' ∧ last = last' := by
  induction h generalizing messages' counts' with
  | idle r =>
    cases h'
    exact ⟨rfl, rfl, rfl⟩
  | datagram hdrains hrest ih =>
    cases h' with
    | datagram hdrains' hrest' =>
      obtain ⟨rfl, rfl, rfl⟩ := hdrains.unique hdrains'
      obtain ⟨rfl, rfl, rfl⟩ := ih hrest'
      exact ⟨rfl, rfl, rfl⟩

lemma serves_initial (datagrams : List ByteArray) :
    Serves .initial datagrams (datagrams.map .ofDatagram) (List.replicate datagrams.length 2)
      .initial := by
  induction datagrams with
  | nil => exact .idle _
  | cons bytes datagrams ih => exact .datagram (drains_fill bytes) ih

/-- Every datagram, however many and whatever their octets, gives its own message and nothing else, for
two questions, and leaves the reader as it was at the start. -/
theorem datagram_handed_out_once :
    (∀ bytes messages count r, Drains (Reader.initial.fill bytes) messages count r ↔
      messages = [.ofDatagram bytes] ∧ count = 2 ∧ r = .initial) ∧
    ∀ datagrams messages counts r, Serves .initial datagrams messages counts r ↔
      messages = datagrams.map .ofDatagram ∧ counts = List.replicate datagrams.length 2 ∧
        r = .initial := by
  refine ⟨fun bytes messages count r => ⟨fun h => ?_, ?_⟩,
    fun datagrams messages counts r => ⟨fun h => ?_, ?_⟩⟩
  · exact h.unique (drains_fill bytes)
  · rintro ⟨rfl, rfl, rfl⟩
    exact drains_fill bytes
  · exact h.unique (serves_initial datagrams)
  · rintro ⟨rfl, rfl, rfl⟩
    exact serves_initial datagrams

end HubBridge.Proofs
