import Mathlib.Data.List.Basic

/-! Bounded channels: many senders, one receiver, first in first out. -/

namespace Oboobot.Interaction

/-- A channel with everything that ever went in and came out of it. What a
receiver leaves behind when it goes away stays in the queue. -/
structure Channel (Item : Type) where
  capacity : Nat
  queue : List Item
  receiverAlive : Bool
  sent : List Item
  received : List Item
  bounded : queue.length ≤ capacity
  conserved : sent = received ++ queue

/-- What becomes of an attempt to send. -/
inductive SendResult (Item : Type) where
  | waits
  | closed
  | sent (channel : Channel Item)

/-- What one poll of the receiver finds. -/
inductive ReceiveResult (Item : Type) where
  | pending
  | ended
  | received (item : Item) (channel : Channel Item)

namespace Channel

variable {Item : Type}

def new (capacity : Nat) : Channel Item where
  capacity := capacity
  queue := []
  receiverAlive := true
  sent := []
  received := []
  bounded := Nat.zero_le capacity
  conserved := rfl

/-- Refused once the receiver is gone, delayed while the queue is full. -/
def send (channel : Channel Item) (item : Item) : SendResult Item :=
  if channel.receiverAlive = false then .closed
  else if room : channel.queue.length < channel.capacity then
    .sent { channel with
      queue := channel.queue ++ [item]
      sent := channel.sent ++ [item]
      bounded := by
        rw [List.length_append]
        exact room
      conserved := by simp [channel.conserved] }
  else .waits

/-- The oldest item; the end once nothing is queued and no sender is left. -/
def receive (channel : Channel Item) (sendersGone : Bool) : ReceiveResult Item :=
  match queued : channel.queue with
  | item :: rest => .received item { channel with
      queue := rest
      received := channel.received ++ [item]
      bounded := by
        have bounded := channel.bounded
        simp only [queued, List.length_cons] at bounded
        omega
      conserved := by simp [channel.conserved, queued] }
  | [] => if sendersGone then .ended else .pending

def dropReceiver (channel : Channel Item) : Channel Item :=
  { channel with receiverAlive := false }

theorem send_sent {channel after : Channel Item} {item : Item}
    (sends : channel.send item = .sent after) :
    after.queue = channel.queue ++ [item] ∧ after.sent = channel.sent ++ [item] ∧
      after.received = channel.received := by
  unfold send at sends
  split at sends
  · cases sends
  · split at sends
    · cases sends
      exact ⟨rfl, rfl, rfl⟩
    · cases sends

theorem receive_received {channel after : Channel Item} {sendersGone : Bool} {item : Item}
    (receives : channel.receive sendersGone = .received item after) :
    channel.queue = item :: after.queue ∧ after.sent = channel.sent ∧
      after.received = channel.received ++ [item] ∧
      after.receiverAlive = channel.receiverAlive := by
  unfold receive at receives
  split at receives
  · rename_i first rest queued
    cases receives
    exact ⟨queued, rfl, rfl, rfl⟩
  · split at receives <;> cases receives

theorem receive_ended {channel : Channel Item} {sendersGone : Bool}
    (ends : channel.receive sendersGone = .ended) :
    channel.queue = [] ∧ sendersGone = true := by
  unfold receive at ends
  split at ends
  · cases ends
  · rename_i queued
    split at ends
    · exact ⟨queued, ‹_›⟩
    · cases ends

/-- Whatever is queued is received, however many senders are left. -/
theorem exists_receive {channel : Channel Item} {item : Item} {rest : List Item}
    (queued : channel.queue = item :: rest) (sendersGone : Bool) :
    ∃ after, channel.receive sendersGone = .received item after := by
  cases found : channel.receive sendersGone with
  | received first after =>
    have same := (receive_received found).1
    rw [queued] at same
    cases same
    exact ⟨after, rfl⟩
  | pending =>
    unfold receive at found
    split at found
    · cases found
    · simp_all
  | ended =>
    rw [(receive_ended found).1] at queued
    cases queued

theorem receive_pending {channel : Channel Item} {sendersGone : Bool}
    (waits : channel.receive sendersGone = .pending) : channel.queue = [] := by
  cases queued : channel.queue with
  | nil => rfl
  | cons item rest =>
    obtain ⟨after, receives⟩ := exists_receive queued sendersGone
    rw [receives] at waits
    cases waits

end Channel

end Oboobot.Interaction
