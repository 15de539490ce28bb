import Mathlib.Tactic.Common

/-!
# Bounded channels

A first-in first-out channel of positive capacity with one receiver. A send
finds the receiver gone, finds no room and waits, or appends; a receive takes
the oldest item. Disconnecting the receiver drops what is queued.
-/
namespace Apcos.Lib

structure Channel (α : Type) where
  capacity : Nat
  items : List α
  connected : Bool
  positive : 0 < capacity
  fits : items.length ≤ capacity

namespace Channel

variable {α : Type}

/-- What a send meets. -/
inductive Sent (α : Type) where
  | accepted (channel : Channel α)
  | waiting
  | disconnected

def empty (capacity : Nat) (positive : 0 < capacity) : Channel α :=
  ⟨capacity, [], true, positive, Nat.zero_le capacity⟩

/-- The channel with one more item, when there is room. -/
def push (c : Channel α) (a : α) (room : c.items.length < c.capacity) : Channel α :=
  { c with
    items := c.items ++ [a]
    fits := by
      rw [List.length_append, List.length_singleton]
      exact room }

def trySend (c : Channel α) (a : α) : Sent α :=
  if c.connected = false then .disconnected
  else if room : c.items.length < c.capacity then .accepted (c.push a room)
  else .waiting

/-- The channel without its oldest item. -/
def rest (c : Channel α) : Channel α :=
  { c with
    items := c.items.tail
    fits := Nat.le_trans (by rw [List.length_tail]; exact Nat.sub_le _ _) c.fits }

def receive (c : Channel α) : Option (α × Channel α) := c.items.head?.map fun a => (a, c.rest)

def disconnect (c : Channel α) : Channel α :=
  { c with items := [], connected := false, fits := Nat.zero_le c.capacity }

/-- No further item fits. -/
def Full (c : Channel α) : Prop := c.items.length = c.capacity

@[simp] theorem empty_items (capacity : Nat) (positive : 0 < capacity) :
    (empty capacity positive : Channel α).items = [] := rfl

@[simp] theorem push_items (c : Channel α) (a : α) (room : c.items.length < c.capacity) :
    (c.push a room).items = c.items ++ [a] := rfl

@[simp] theorem push_connected (c : Channel α) (a : α) (room : c.items.length < c.capacity) :
    (c.push a room).connected = c.connected := rfl

@[simp] theorem push_capacity (c : Channel α) (a : α) (room : c.items.length < c.capacity) :
    (c.push a room).capacity = c.capacity := rfl

@[simp] theorem rest_items (c : Channel α) : c.rest.items = c.items.tail := rfl

@[simp] theorem rest_connected (c : Channel α) : c.rest.connected = c.connected := rfl

@[simp] theorem rest_capacity (c : Channel α) : c.rest.capacity = c.capacity := rfl

@[simp] theorem disconnect_items (c : Channel α) : c.disconnect.items = [] := rfl

@[simp] theorem disconnect_connected (c : Channel α) : c.disconnect.connected = false := rfl

theorem trySend_of_room {c : Channel α} (a : α) (connected : c.connected = true)
    (room : c.items.length < c.capacity) : c.trySend a = .accepted (c.push a room) := by
  rw [trySend, connected, if_neg (by decide), dif_pos room]

/-- What an accepted send did. -/
theorem trySend_accepted {c c' : Channel α} {a : α} (sent : c.trySend a = .accepted c') :
    c.connected = true ∧ ∃ room : c.items.length < c.capacity, c' = c.push a room := by
  unfold trySend at sent
  split at sent
  · cases sent
  · rename_i attached
    split at sent
    · rename_i room
      cases sent
      exact ⟨(Bool.not_eq_false _).mp attached, room, rfl⟩
    · cases sent

theorem trySend_waiting {c : Channel α} {a : α} (sent : c.trySend a = .waiting) :
    c.connected = true := by
  unfold trySend at sent
  split at sent
  · cases sent
  · rename_i attached
    exact (Bool.not_eq_false _).mp attached

theorem trySend_disconnected {c : Channel α} {a : α} (sent : c.trySend a = .disconnected) :
    c.connected = false := by
  unfold trySend at sent
  split at sent
  · rename_i detached
    exact detached
  · split at sent <;> cases sent

theorem receive_cons {c : Channel α} {a : α} {later : List α} (items : c.items = a :: later) :
    c.receive = some (a, c.rest) := by
  rw [receive, items]
  rfl

theorem receive_some {c c' : Channel α} {a : α} (received : c.receive = some (a, c')) :
    c.items = a :: c.items.tail ∧ c' = c.rest := by
  rw [receive, Option.map_eq_some_iff] at received
  obtain ⟨b, isHead, same⟩ := received
  cases same
  obtain ⟨later, items⟩ := List.head?_eq_some_iff.mp isHead
  refine ⟨?_, rfl⟩
  rw [items]
  rfl

end Channel

end Apcos.Lib
