/-
# Bounded channels and one-shot replies

A bounded channel delivers messages in the order in which they were taken, to one
receiver. It stops taking messages when its buffer is full or its receiver is gone,
and its receiver learns that no sender is left only after the last message. A reply
channel carries one value back to whoever holds its receiving end.
-/

import Mathlib.Data.List.Infix
import Mathlib.Tactic.Common

namespace Rintawa.Lib

universe u v

/-! ## Bounded channels -/

/-- Why a message was not taken. -/
inductive TrySendError
  | full
  | disconnected
  deriving DecidableEq, Repr

/-- A bounded channel with its two ends. -/
structure SyncChannel (Message : Type u) where
  capacity : Nat
  buffer : List Message
  sender : Bool
  receiver : Bool
  bounded : buffer.length ≤ capacity

/-- What the receiver finds. -/
inductive Received (Message : Type u)
  | message (first : Message) (rest : SyncChannel Message)
  | blocked
  | disconnected

namespace SyncChannel

variable {Message : Type u}

/-- A new channel holds both of its ends and no message. -/
def new (capacity : Nat) : SyncChannel Message :=
  ⟨capacity, [], true, true, Nat.zero_le capacity⟩

/-- Take a message without waiting. A missing receiver is noticed before a full
buffer. -/
def trySend (channel : SyncChannel Message) (message : Message) :
    Except TrySendError (SyncChannel Message) :=
  if channel.receiver = false then .error .disconnected
  else if h : channel.buffer.length < channel.capacity then
    .ok { channel with
      buffer := channel.buffer ++ [message]
      bounded := by rw [List.length_append]; exact h }
  else .error .full

/-- Hand out the oldest message. -/
def recv (channel : SyncChannel Message) : Received Message :=
  match hbuffer : channel.buffer with
  | first :: rest =>
      .message first { channel with
        buffer := rest
        bounded := by
          have hbounded := channel.bounded
          rw [hbuffer, List.length_cons] at hbounded
          omega }
  | [] => if channel.sender then .blocked else .disconnected

/-- The sending end goes away; what is in the buffer stays. -/
def dropSender (channel : SyncChannel Message) : SyncChannel Message :=
  { channel with sender := false }

@[simp]
theorem dropSender_buffer (channel : SyncChannel Message) :
    channel.dropSender.buffer = channel.buffer :=
  rfl

/-- The receiving end goes away, and the buffer with it. -/
def dropReceiver (channel : SyncChannel Message) : SyncChannel Message :=
  { channel with receiver := false, buffer := [], bounded := Nat.zero_le _ }

@[simp]
theorem dropReceiver_buffer (channel : SyncChannel Message) :
    channel.dropReceiver.buffer = [] :=
  rfl

section Spec

variable {channel channel' : SyncChannel Message} {message : Message}

/-- A message is taken at the end of the buffer, if there is a receiver and room. -/
theorem trySend_eq_ok_iff :
    channel.trySend message = .ok channel' ↔
      channel.receiver = true ∧ channel.buffer.length < channel.capacity ∧
        channel'.buffer = channel.buffer ++ [message] ∧
        channel'.capacity = channel.capacity ∧ channel'.sender = channel.sender ∧
        channel'.receiver = channel.receiver := by
  obtain ⟨capacity, buffer, sender, receiver, hbounded⟩ := channel
  obtain ⟨capacity', buffer', sender', receiver', _⟩ := channel'
  cases receiver with
  | false => simp [trySend]
  | true =>
      by_cases hroom : buffer.length < capacity
      · simp only [trySend, Bool.true_eq_false, if_false, dif_pos hroom, Except.ok.injEq,
          SyncChannel.mk.injEq, true_and]
        constructor
        · rintro ⟨rfl, rfl, rfl, rfl⟩
          exact ⟨hroom, rfl, rfl, rfl, rfl⟩
        · rintro ⟨-, rfl, rfl, rfl, rfl⟩
          exact ⟨rfl, rfl, rfl, rfl⟩
      · simp [trySend, hroom]

/-- A message is refused as too many exactly when as many as fit wait for a receiver. -/
theorem trySend_eq_full_iff :
    channel.trySend message = .error .full ↔
      channel.receiver = true ∧ channel.buffer.length = channel.capacity := by
  have hbounded := channel.bounded
  unfold trySend
  cases hreceiver : channel.receiver with
  | false => simp
  | true =>
      by_cases hroom : channel.buffer.length < channel.capacity
      · simp [hroom]
        omega
      · simp [hroom]
        omega

/-- The receiver gets the oldest message. -/
theorem recv_eq_message_iff :
    channel.recv = .message message channel' ↔
      channel.buffer = message :: channel'.buffer ∧
        channel'.capacity = channel.capacity ∧ channel'.sender = channel.sender ∧
        channel'.receiver = channel.receiver := by
  obtain ⟨capacity, buffer, sender, receiver, hbounded⟩ := channel
  obtain ⟨capacity', buffer', sender', receiver', _⟩ := channel'
  cases buffer with
  | nil => cases sender <;> simp [recv]
  | cons first rest =>
      simp only [recv, Received.message.injEq, SyncChannel.mk.injEq, List.cons.injEq]
      constructor
      · rintro ⟨rfl, rfl, rfl, rfl, rfl⟩
        exact ⟨⟨rfl, rfl⟩, rfl, rfl, rfl⟩
      · rintro ⟨⟨rfl, rfl⟩, rfl, rfl, rfl⟩
        exact ⟨rfl, rfl, rfl, rfl, rfl⟩

/-- The receiver gives up only when the buffer is empty and no sender is left. -/
theorem recv_eq_disconnected_iff :
    channel.recv = .disconnected ↔ channel.buffer = [] ∧ channel.sender = false := by
  obtain ⟨capacity, buffer, sender, receiver, hbounded⟩ := channel
  cases buffer with
  | nil => cases sender <;> simp [recv]
  | cons first rest => simp [recv]

end Spec

end SyncChannel

/-! ## One-shot replies -/

/-- The receiving end of a channel that carries at most one value. -/
inductive ReplyChannel (Value : Type v)
  | waiting
  | sent (value : Value)
  | closed
  | gone
  deriving DecidableEq

namespace ReplyChannel

variable {Value : Type v}

/-- Send the value. It is lost if nobody holds the receiving end. -/
def send (value : Value) : ReplyChannel Value → ReplyChannel Value
  | .waiting => .sent value
  | .sent earlier => .sent earlier
  | .closed => .closed
  | .gone => .gone

/-- The sending end goes away without a value. -/
def close : ReplyChannel Value → ReplyChannel Value
  | .waiting => .closed
  | .sent value => .sent value
  | .closed => .closed
  | .gone => .gone

/-- A value reaches a receiving end that waits for it, and no other. -/
theorem send_cases (value : Value) (channel : ReplyChannel Value) :
    (channel = .waiting ∧ channel.send value = .sent value) ∨ channel.send value = channel := by
  cases channel with
  | waiting => exact Or.inl ⟨rfl, rfl⟩
  | sent _ | closed | gone => exact Or.inr rfl

/-- Closing a reply channel matters only to one that waits. -/
theorem close_cases (channel : ReplyChannel Value) :
    (channel = .waiting ∧ channel.close = .closed) ∨ channel.close = channel := by
  cases channel with
  | waiting => exact Or.inl ⟨rfl, rfl⟩
  | sent _ | closed | gone => exact Or.inr rfl

/-- Nobody waits after a reply was sent. -/
theorem send_ne_waiting {value : Value} {channel : ReplyChannel Value} :
    channel.send value ≠ .waiting := by
  cases channel <;> simp [send]

/-- Nobody waits for a reply that cannot come. -/
theorem close_ne_waiting {channel : ReplyChannel Value} : channel.close ≠ .waiting := by
  cases channel <;> simp [close]

end ReplyChannel

end Rintawa.Lib
