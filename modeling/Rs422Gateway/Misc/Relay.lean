import Mathlib

/-!
# Relays

A relay receives items, holds some of them in a queue and sends some of them on, each through an
encoding `f`. `Relays f sent held received` says that it has made up, repeated and reordered
nothing: what it has sent, followed by what it holds, is a subsequence of what it has received.
-/

namespace Rs422Gateway

open scoped List

variable {α β : Type*}

/-- What a relay has sent and still holds is a subsequence of what it has received. -/
def Relays (f : β → α) (sent : List α) (held : List β) (received : List α) : Prop :=
  sent ++ held.map f <+ received

namespace Relays

variable {f : β → α} {sent received : List α} {held : List β}

theorem nil (f : β → α) : Relays f [] [] [] := List.Sublist.slnil

/-- A received item is put at the end of the queue. -/
theorem receive (h : Relays f sent held received) (b : β) :
    Relays f sent (held ++ [b]) (received ++ [f b]) := by
  unfold Relays
  rw [List.map_append, ← List.append_assoc]
  exact h.append (List.Sublist.refl _)

/-- A received item is not kept. -/
theorem skip (h : Relays f sent held received) (extra : List α) :
    Relays f sent held (received ++ extra) :=
  h.trans (List.sublist_append_left received extra)

/-- Items are dropped from the queue. -/
theorem drop (h : Relays f sent held received) {kept : List β} (hkept : kept <+ held) :
    Relays f sent kept received :=
  ((hkept.map f).append_left sent).trans h

/-- The head of the queue is sent. -/
theorem send {b : β} (h : Relays f sent (b :: held) received) :
    Relays f (sent ++ [f b]) held received := by
  unfold Relays
  rw [List.append_assoc]
  exact h

/-- Only received items are sent, in order and each at most once. -/
theorem sent_sublist (h : Relays f sent held received) : sent <+ received :=
  (List.sublist_append_left sent _).trans h

end Relays

end Rs422Gateway
